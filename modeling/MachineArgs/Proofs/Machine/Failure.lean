import MachineArgs.Proofs.Device.Failure
import MachineArgs.Proofs.DeviceTree.Failure
import MachineArgs.Proofs.Machine.Numbering

/-!
# How descriptions fail

Describing a machine fails for the lack of a program, for a tap backend without taps, or for a
free-form property without a rendering, and for nothing else (`describe_eq_error_iff`): handles are
numbered before any of them is read, and every record of the catalogue fits its schema. A missing
program is reported before anything else, and of the devices the first that is at fault counts.
-/

namespace MachineArgs

namespace Device

variable {first : Nat} {d : Device} {e : Error}

/-- Numbers of handles are no matter for what is wrong with a device. -/
theorem fails_numberedFrom_iff : (d.numberedFrom first).Fails e ↔ d.Fails e := by
  have hproperties : (d.numberedFrom first).properties? = d.properties? := by
    cases d <;> rfl
  have hrefused : (d.numberedFrom first).HasUnrenderable ↔ d.HasUnrenderable := by
    rw [HasUnrenderable, HasUnrenderable, hproperties]
  constructor
  · intro h
    generalize hd : d.numberedFrom first = d' at h
    cases h with
    | lacksTaps hqueues =>
      cases d <;> cases hd
      exact .lacksTaps (List.mapIdx_eq_nil_iff.1 hqueues)
    | refused h => exact .refused (hrefused.1 (hd ▸ h)) _ _
  · intro h
    cases h with
    | @lacksTaps n hqueues =>
      exact .lacksTaps (n := { n with queues := _ }) (List.mapIdx_eq_nil_iff.2 hqueues)
    | refused h => exact .refused (hrefused.2 h) _ _

/-- A fault of a device is a cause of its own. -/
theorem Fails.rootCause_eq (h : d.Fails e) : e.rootCause = e := by
  cases h <;> rfl

/-- Nothing is wrong with a device that has arguments once it is numbered. -/
theorem not_fails_of_args {ws : List String} (h : (d.numberedFrom first).args = .ok ws) :
    ¬d.Fails e := by
  intro hfails
  rcases args_outcome (isNumbered_numberedFrom first d) with ⟨-, -, hfine⟩ | ⟨e', he', -⟩
  · exact hfine e (fails_numberedFrom_iff.2 hfails)
  · rw [h] at he'
    cases he'

/-- The error of a device that is numbered tells what is wrong with it. -/
theorem fails_of_args (h : (d.numberedFrom first).args = .error e) : d.Fails e := by
  rcases args_outcome (isNumbered_numberedFrom first d) with ⟨ws, hws, -⟩ | ⟨e', he', hfails⟩
  · rw [h] at hws
    cases hws
  · obtain rfl : e = e' := Except.error.inj (h.symm.trans he')
    exact fails_numberedFrom_iff.1 hfails

end Device

namespace Machine

/-- The devices of a machine with numbered handles are its devices, each with its handles
numbered. -/
theorem forall₂_leaves_allocated (m : Machine) :
    List.Forall₂ (fun d d' ↦ ∃ first, d' = d.numberedFrom first) m.tree.leaves
      m.allocated.tree.leaves := by
  rw [leaves_allocated]
  generalize m.tree.leaves = ds
  generalize 0 = start
  induction ds generalizing start with
  | nil => exact .nil
  | cons d ds ih =>
    refine .cons ⟨Handle.firstIndex + start, ?_⟩ (ih _)
    simp only [Device.numberedFrom, Nat.add_assoc]
    rfl

/-- The command line of a machine fails for the lack of a program before any device is asked. -/
theorem describe_of_headD_eq {m : Machine} (h : m.binary.headD "" = "") :
    m.describe = .error .emptyBinary := by
  show (m.allocated.commandLine >>= _) = _
  have hbinary : m.allocated.commandLine = .error .emptyBinary := by
    show (CommandLine.ofBinary m.binary >>= _) = _
    rw [CommandLine.ofBinary_of_eq h, error_bind]
  rw [hbinary, error_bind]

/-- With a program, describing a machine fails exactly if its devices do. -/
theorem describe_eq_error_of_headD_ne {m : Machine} (h : m.binary.headD "" ≠ "") {e : Error} :
    m.describe = .error e ↔ m.allocated.tree.args = .error e := by
  have hbinary : CommandLine.ofBinary m.allocated.binary = .ok ⟨m.binary⟩ :=
    CommandLine.ofBinary_of_ne h
  show (m.allocated.commandLine >>= _) = .error e ↔ _
  rw [commandLine, hbinary, ok_bind, CommandLine.withDevices]
  cases m.allocated.tree.args with
  | ok ws => exact ⟨nofun, nofun⟩
  | error e' => rw [error_bind, error_bind, Except.error.injEq, Except.error.injEq]

/-- The first device of a machine at which something is wrong, and the cause of the error `e` that
it leads to. -/
def FirstFails (m : Machine) (e : Error) : Prop :=
  ∃ before d after, m.tree.leaves = before ++ d :: after ∧ (∀ d' ∈ before, ∀ e', ¬d'.Fails e') ∧
    d.Fails e.rootCause

/-- With a program, describing a machine fails for the first device at which something is wrong, and
only then. -/
theorem firstFails_of_describe {m : Machine} (h : m.binary.headD "" ≠ "") {e : Error}
    (he : m.describe = .error e) : m.FirstFails e := by
  obtain ⟨before', d', after', hleaves', hbefore', cause, hcause, hroot⟩ :=
    DeviceTree.firstFails_of_args_eq_error _ ((describe_eq_error_of_headD_ne h).1 he)
  have hnumbered := m.forall₂_leaves_allocated
  rw [hleaves'] at hnumbered
  have hbefore := List.forall₂_take_append _ _ _ hnumbered
  obtain ⟨d, after, ⟨first, rfl⟩, -, hafter⟩ :=
    List.forall₂_cons_right_iff.1 (List.forall₂_drop_append _ _ _ hnumbered)
  refine ⟨_, d, after, by rw [← hafter, List.take_append_drop], fun d' hmem e' ↦ ?_, ?_⟩
  · obtain ⟨i, hi⟩ := List.mem_iff_getElem?.1 hmem
    obtain ⟨_, hnumbered', first', rfl⟩ := forall₂_getElem? hbefore hi
    obtain ⟨ws, hws⟩ := hbefore' _ (List.mem_of_getElem? hnumbered')
    exact Device.not_fails_of_args hws
  · have hfails := Device.fails_of_args hcause
    rwa [hroot, hfails.rootCause_eq]

/-- Describing a machine fails for the lack of a program if it has none, and only then. -/
theorem describe_eq_emptyBinary_iff {m : Machine} :
    m.describe = .error .emptyBinary ↔ m.binary.headD "" = "" := by
  refine ⟨fun he ↦ ?_, describe_of_headD_eq⟩
  by_contra hbinary
  obtain ⟨-, d, -, -, -, hfails⟩ := firstFails_of_describe hbinary he
  -- no device lacks a program
  cases hfails

/-- Nothing is wrong with the devices of a machine that has a description. -/
theorem not_fails_of_describe {m : Machine} {description : Description}
    (h : m.describe = .ok description) : ∀ d ∈ m.tree.leaves, ∀ e, ¬d.Fails e := by
  intro d hmem e
  obtain ⟨-, ws, hws, -⟩ := assemble_eq_ok h
  obtain ⟨i, hi⟩ := List.mem_iff_getElem?.1 hmem
  obtain ⟨_, hnumbered, first, rfl⟩ := forall₂_getElem? m.forall₂_leaves_allocated hi
  obtain ⟨chunk, hchunk⟩ :=
    DeviceTree.leaf_args_of_args_eq_ok hws _ (List.mem_of_getElem? hnumbered)
  exact Device.not_fails_of_args hchunk

/-- Describing a machine fails exactly if there is no program, if some tap backend among its devices
has no taps, or if some free-form property of them has no rendering. A missing program is reported
before anything else. Otherwise the cause of the error tells what is wrong with the first device at
which anything is; so it is never that a handle has no number, and never that a record does not fit
its schema. -/
theorem describe_eq_error_iff (m : Machine) :
    ((∃ e, m.describe = .error e) ↔ m.binary.headD "" = "" ∨
      (∃ n, .tapNetwork n ∈ m.tree.leaves ∧ n.queues = []) ∨
      ∃ d ∈ m.tree.leaves, d.HasUnrenderable) ∧
    (m.binary.headD "" = "" → m.describe = .error .emptyBinary) ∧
    (m.binary.headD "" ≠ "" → ∀ e, m.describe = .error e → m.FirstFails e) ∧
    ∀ e, m.describe = .error e → (∀ name, e.rootCause ≠ .unassignedHandle name) ∧
      ∀ path expected found, e.rootCause ≠ .schemaMismatch path expected found := by
  have hcause : ∀ e, m.describe = .error e →
      e = .emptyBinary ∨ ∃ d : Device, d.Fails e.rootCause := by
    intro e he
    by_cases hbinary : m.binary.headD "" = ""
    · rw [describe_of_headD_eq hbinary] at he
      exact .inl (Except.error.inj he).symm
    · obtain ⟨-, d, -, -, -, hfails⟩ := firstFails_of_describe hbinary he
      exact .inr ⟨d, hfails⟩
  refine ⟨⟨?_, ?_⟩, describe_of_headD_eq, fun hbinary e he ↦ firstFails_of_describe hbinary he, ?_⟩
  · rintro ⟨e, he⟩
    by_cases hbinary : m.binary.headD "" = ""
    · exact .inl hbinary
    · obtain ⟨before, d, after, hleaves, -, hfails⟩ := firstFails_of_describe hbinary he
      have hmem : d ∈ m.tree.leaves := by simp [hleaves]
      generalize e.rootCause = cause at hfails
      cases hfails with
      | @lacksTaps n hqueues => exact .inr (.inl ⟨n, hmem, hqueues⟩)
      | refused h => exact .inr (.inr ⟨d, hmem, h⟩)
  · intro h
    cases hdescribe : m.describe with
    | error e => exact ⟨e, rfl⟩
    | ok description =>
      have hfine := not_fails_of_describe hdescribe
      rcases h with hbinary | ⟨n, hmem, hqueues⟩ | ⟨d, hmem, h⟩
      · rw [describe_of_headD_eq hbinary] at hdescribe
        cases hdescribe
      · exact absurd (.lacksTaps hqueues) (hfine _ hmem _)
      · exact absurd (.refused h [] .plainList) (hfine d hmem _)
  · intro e he
    rcases hcause e he with rfl | ⟨d, hfails⟩
    · exact ⟨nofun, nofun⟩
    · generalize e.rootCause = cause at hfails ⊢
      cases hfails <;> exact ⟨nofun, nofun⟩

end Machine

end MachineArgs
