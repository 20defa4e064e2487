import Mathlib.Data.List.Forall2
import MachineArgs.DeviceTree

/-!
# Device trees and their leaves

Both traversals of a tree, the one for its handles and the one for its arguments, meet the present
devices from left to right, however they are nested and wherever an entry is absent.

* The arguments of a tree are the arguments of its leaves, one chunk after the other, and there are
  none if a leaf has none (`args_eq_ok_iff`).
* A change of all handles by position changes each leaf on its own, with the positions counted from
  the number of handles that the leaves before it have (`leaves_mapHandlesFrom`).

So a handle has the same position in both traversals, and the number that a leaf writes is the
number that the handle was given (`leaf_of_leaves_mapHandles`).
-/

namespace MachineArgs

/-- What stands in one of two related lists has a partner in the other. -/
theorem forall₂_getElem? {α β : Type} {R : α → β → Prop} {as : List α} {bs : List β}
    (h : List.Forall₂ R as bs) {i : Nat} {a : α} (ha : as[i]? = some a) :
    ∃ b, bs[i]? = some b ∧ R a b := by
  induction h generalizing i with
  | nil => simp at ha
  | @cons a' b' as bs hab _ ih =>
    cases i with
    | zero =>
      obtain rfl : a' = a := by simpa using ha
      exact ⟨b', rfl, hab⟩
    | succ i => exact ih (by simpa using ha)

namespace DeviceTree

variable {δ : Type} [Leaf δ]

/-! ### Arguments -/

mutual

/-- The arguments of a tree are the chunks of its leaves. -/
theorem args_eq_ok_iff {ws : List String} : ∀ t : DeviceTree δ, t.args = .ok ws ↔
    ∃ chunks, List.Forall₂ (fun d chunk ↦ Leaf.args d = .ok chunk) t.leaves chunks ∧
      ws = chunks.flatten
  | leaf d => by
    rw [args, leaves]
    constructor
    · intro h
      exact ⟨[ws], .cons h .nil, by simp⟩
    · rintro ⟨chunks, h, rfl⟩
      cases h with
      | cons h hrest =>
        cases hrest
        rw [h, List.flatten_singleton]
  | group entries => by
    rw [args, leaves]
    exact entriesArgs_eq_ok_iff 0 entries

/-- The arguments of entries are the chunks of their leaves, whatever the position of the first. -/
theorem entriesArgs_eq_ok_iff {ws : List String} (position : Nat) :
    ∀ entries : List (Option (DeviceTree δ)), entriesArgs position entries = .ok ws ↔
      ∃ chunks,
        List.Forall₂ (fun d chunk ↦ Leaf.args d = .ok chunk) (entriesLeaves entries) chunks ∧
          ws = chunks.flatten
  | [] => by
    rw [entriesArgs, entriesLeaves]
    constructor
    · intro h
      exact ⟨[], .nil, (Except.ok.inj h).symm⟩
    · rintro ⟨chunks, h, rfl⟩
      cases h
      rfl
  | none :: entries => by
    rw [entriesArgs, entriesLeaves]
    exact entriesArgs_eq_ok_iff (position + 1) entries
  | some t :: entries => by
    rw [entriesArgs, entriesLeaves, bind_eq_ok]
    constructor
    · rintro ⟨here, hhere, h⟩
      obtain ⟨rest, hrest, h⟩ := bind_eq_ok.1 h
      obtain rfl : here ++ rest = ws := Except.ok.inj h
      obtain ⟨chunks, hchunks, rfl⟩ := (args_eq_ok_iff t).1 (mapError_eq_ok.1 hhere)
      obtain ⟨chunks', hchunks', rfl⟩ := (entriesArgs_eq_ok_iff (position + 1) entries).1 hrest
      exact ⟨chunks ++ chunks', List.rel_append hchunks hchunks', by rw [List.flatten_append]⟩
    · rintro ⟨chunks, h, rfl⟩
      -- the leaves of the first entry have as many chunks as there are of them
      have hhere := List.forall₂_take t.leaves.length h
      have hrest := List.forall₂_drop t.leaves.length h
      rw [List.take_left] at hhere
      rw [List.drop_left] at hrest
      refine ⟨_, mapError_eq_ok.2 ((args_eq_ok_iff t).2 ⟨_, hhere, rfl⟩), bind_eq_ok.2
        ⟨_, (entriesArgs_eq_ok_iff (position + 1) entries).2 ⟨_, hrest, rfl⟩, ?_⟩⟩
      rw [pure_eq_ok, ← List.flatten_append, List.take_append_drop]

end

/-- Devices that stand in a row write their arguments in a row. -/
theorem exists_infix_of_args {t : DeviceTree δ} {ws : List String} {before row after : List δ}
    (h : t.args = .ok ws) (hleaves : t.leaves = before ++ (row ++ after)) :
    ∃ chunks, List.Forall₂ (fun d chunk ↦ Leaf.args d = .ok chunk) row chunks ∧
      chunks.flatten <:+: ws := by
  obtain ⟨chunks, hchunks, rfl⟩ := (args_eq_ok_iff t).1 h
  have hbehind := List.forall₂_drop before.length hchunks
  rw [hleaves, List.drop_left] at hbehind
  have hrow := List.forall₂_take row.length hbehind
  rw [List.take_left] at hrow
  refine ⟨_, hrow, (chunks.take before.length).flatten,
    ((chunks.drop before.length).drop row.length).flatten, ?_⟩
  rw [List.append_assoc, ← List.flatten_append, List.take_append_drop, ← List.flatten_append,
    List.take_append_drop]

/-! ### Handles -/

/-- Applies a function to each handle of devices in a row and its position, counted from
`start`. -/
def mapLeavesFrom (f : Nat → Handle → Handle) (start : Nat) : List δ → List δ
  | [] => []
  | d :: ds =>
    Leaf.mapHandles (fun position ↦ f (start + position)) d ::
      mapLeavesFrom f (start + (Leaf.handles d).length) ds

/-- The positions go on where the devices before leave off. -/
theorem mapLeavesFrom_append (f : Nat → Handle → Handle) (start : Nat) (ds ds' : List δ) :
    mapLeavesFrom f start (ds ++ ds') = mapLeavesFrom f start ds ++
      mapLeavesFrom f (start + (ds.flatMap Leaf.handles).length) ds' := by
  induction ds generalizing start with
  | nil => rfl
  | cons d ds ih =>
    rw [List.cons_append, mapLeavesFrom, mapLeavesFrom, ih, List.flatMap_cons, List.length_append,
      Nat.add_assoc]
    rfl

theorem length_mapLeavesFrom (f : Nat → Handle → Handle) (start : Nat) (ds : List δ) :
    (mapLeavesFrom f start ds).length = ds.length := by
  induction ds generalizing start with
  | nil => rfl
  | cons d ds ih => rw [mapLeavesFrom, List.length_cons, ih, List.length_cons]

mutual

/-- A change of all handles changes each leaf on its own. -/
theorem leaves_mapHandlesFrom (f : Nat → Handle → Handle) (start : Nat) :
    ∀ t : DeviceTree δ, (t.mapHandlesFrom f start).leaves = mapLeavesFrom f start t.leaves
  | leaf d => by rw [mapHandlesFrom, leaves, leaves, mapLeavesFrom, mapLeavesFrom]
  | group entries => by
    rw [mapHandlesFrom, leaves, leaves]
    exact leaves_mapEntriesFrom f start entries

theorem leaves_mapEntriesFrom (f : Nat → Handle → Handle) (start : Nat) :
    ∀ entries : List (Option (DeviceTree δ)),
      entriesLeaves (mapEntriesFrom f start entries) = mapLeavesFrom f start (entriesLeaves entries)
  | [] => by rw [mapEntriesFrom, entriesLeaves, mapLeavesFrom]
  | none :: entries => by
    rw [mapEntriesFrom, entriesLeaves, entriesLeaves]
    exact leaves_mapEntriesFrom f start entries
  | some t :: entries => by
    rw [mapEntriesFrom, entriesLeaves, entriesLeaves, leaves_mapHandlesFrom f start t,
      leaves_mapEntriesFrom f (start + t.handles.length) entries, mapLeavesFrom_append,
      handles_eq_flatMap]

end

/-- A leaf after a change of all handles, told by the leaves before it. -/
theorem leaf_of_leaves_mapHandles (f : Nat → Handle → Handle) {t : DeviceTree δ}
    {before after : List δ} {d : δ} (h : t.leaves = before ++ d :: after) :
    (t.mapHandles f).leaves[before.length]? =
      some (Leaf.mapHandles
        (fun position ↦ f ((before.flatMap Leaf.handles).length + position)) d) := by
  rw [mapHandles, leaves_mapHandlesFrom, h, mapLeavesFrom_append, mapLeavesFrom, Nat.zero_add,
    List.getElem?_append_right (Nat.le_of_eq (length_mapLeavesFrom f 0 before)),
    length_mapLeavesFrom, Nat.sub_self]
  rfl

end DeviceTree

end MachineArgs
