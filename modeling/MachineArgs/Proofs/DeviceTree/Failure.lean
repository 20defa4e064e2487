import MachineArgs.Proofs.DeviceTree.Leaves

/-!
# How device trees fail

A tree fails if one of its leaves does, and then the first of them counts: every leaf before it has
arguments, and the error of the tree has the cause of this leaf's error
(`firstFails_of_args_eq_error`). Groups add positions to an error and change nothing else about it.
-/

namespace MachineArgs

namespace DeviceTree

variable {δ : Type} [Leaf δ]

/-- Of some devices in a row, one is the first to fail, and the error `e` has the cause of its
error. -/
def FirstFails (ds : List δ) (e : Error) : Prop :=
  ∃ before d after, ds = before ++ d :: after ∧ (∀ d' ∈ before, ∃ ws, Leaf.args d' = .ok ws) ∧
    ∃ cause, Leaf.args d = .error cause ∧ e.rootCause = cause.rootCause

namespace FirstFails

variable {ds : List δ} {e : Error}

theorem append_right (h : FirstFails ds e) (ds' : List δ) : FirstFails (ds ++ ds') e := by
  obtain ⟨before, d, after, rfl, hbefore, hcause⟩ := h
  exact ⟨before, d, after ++ ds', by simp, hbefore, hcause⟩

theorem append_left {ds' : List δ} (h : FirstFails ds e)
    (hok : ∀ d ∈ ds', ∃ ws, Leaf.args d = .ok ws) : FirstFails (ds' ++ ds) e := by
  obtain ⟨before, d, after, rfl, hbefore, hcause⟩ := h
  exact ⟨ds' ++ before, d, after, by simp, List.forall_mem_append.2 ⟨hok, hbefore⟩, hcause⟩

end FirstFails

/-- The leaves of a tree with arguments have arguments. -/
theorem leaf_args_of_args_eq_ok {t : DeviceTree δ} {ws : List String} (h : t.args = .ok ws) :
    ∀ d ∈ t.leaves, ∃ chunk, Leaf.args d = .ok chunk := by
  obtain ⟨chunks, hchunks, -⟩ := (args_eq_ok_iff t).1 h
  intro d hd
  obtain ⟨i, hi⟩ := List.mem_iff_getElem?.1 hd
  obtain ⟨chunk, -, hchunk⟩ := forall₂_getElem? hchunks hi
  exact ⟨chunk, hchunk⟩

mutual

/-- A tree that fails does so for the first leaf that fails. -/
theorem firstFails_of_args_eq_error {e : Error} : ∀ t : DeviceTree δ, t.args = .error e →
    FirstFails t.leaves e
  | leaf d, h => by
    rw [leaves]
    exact ⟨[], d, [], rfl, by simp, e, h, rfl⟩
  | group entries, h => by
    rw [leaves]
    exact firstFails_of_entriesArgs_eq_error 0 entries h

theorem firstFails_of_entriesArgs_eq_error {e : Error} (position : Nat) :
    ∀ entries : List (Option (DeviceTree δ)), entriesArgs position entries = .error e →
      FirstFails (entriesLeaves entries) e
  | [], h => nomatch h
  | none :: entries, h => by
    rw [entriesArgs] at h
    rw [entriesLeaves]
    exact firstFails_of_entriesArgs_eq_error (position + 1) entries h
  | some t :: entries, h => by
    rw [entriesArgs] at h
    rw [entriesLeaves]
    rcases bind_eq_error.1 h with h | ⟨here, hhere, h⟩
    · obtain ⟨inner, hinner, rfl⟩ := mapError_eq_error.1 h
      -- the position that is put around the error is no part of its cause
      exact (firstFails_of_args_eq_error t hinner).append_right _
    · rcases bind_eq_error.1 h with h | ⟨rest, -, h⟩
      · exact (firstFails_of_entriesArgs_eq_error (position + 1) entries h).append_left
          (leaf_args_of_args_eq_ok (mapError_eq_ok.1 hhere))
      · cases h

end

end DeviceTree

end MachineArgs
