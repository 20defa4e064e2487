import MachineArgs.Proofs.Device.Causes
import MachineArgs.Proofs.Machine.Numbering

/-!
# Grouping does not matter

A group is there for whoever declares devices. What a machine comes to is told by its present
devices in a row (`Leaf.rowArgs`), however they are nested and wherever entries are absent: the
arguments, the numbers and the resources are the same, and so is the cause of an error, whose
positions alone show the grouping (`Machine.describe_regroup`).

* Up to positions the arguments of a tree are those of its leaves in a row
  (`DeviceTree.mapError_args`), because positions go on the outside of an error and no error of a
  device has any.
* Numbers are given along the leaves (`DeviceTree.leaves_allocate_congr`).

So a tree may as well be added to a command line one leaf after the other (`CommandLine.withEach`).
Of the leaves no more is used than that they fail with causes (`Machine.regroup_of_hasCauses`).
-/

namespace MachineArgs

variable {δ : Type} [Leaf δ]

/-- The arguments of leaves in a row, up to the first that has none. -/
def Leaf.rowArgs : List δ → Except Error (List String)
  | [] => .ok []
  | d :: ds => do
    let here ← Leaf.args d
    let rest ← rowArgs ds
    return here ++ rest

open Leaf (rowArgs)

theorem Leaf.rowArgs_append (ds ds' : List δ) :
    rowArgs (ds ++ ds') = (do
      let here ← rowArgs ds
      let rest ← rowArgs ds'
      return here ++ rest) := by
  induction ds with
  | nil =>
    show rowArgs ds' = rowArgs ds' >>= fun rest ↦ .ok rest
    cases rowArgs ds' <;> rfl
  | cons d ds ih =>
    rw [List.cons_append, rowArgs, rowArgs, ih]
    simp only [bind_assoc, pure_eq_ok, ok_bind, List.append_assoc]

theorem Leaf.HasCauses.mapError_args (hcauses : HasCauses δ) (d : δ) :
    (args d).mapError Error.rootCause = args d := by
  cases h : args d with
  | ok ws => rfl
  | error e => exact congrArg Except.error (hcauses d e h).rootCause_eq

namespace DeviceTree

/-! ### Arguments of a tree, up to positions -/

mutual

/-- But for the positions in an error, the arguments of a tree are those of its leaves. -/
theorem mapError_args (hcauses : Leaf.HasCauses δ) :
    ∀ t : DeviceTree δ, t.args.mapError Error.rootCause = rowArgs t.leaves
  | leaf d => by
    rw [args, leaves, rowArgs, rowArgs, hcauses.mapError_args]
    cases Leaf.args d <;> simp
  | group entries => by
    rw [args, leaves]
    exact mapError_entriesArgs hcauses 0 entries

theorem mapError_entriesArgs (hcauses : Leaf.HasCauses δ) (position : Nat) :
    ∀ entries : List (Option (DeviceTree δ)),
      (entriesArgs position entries).mapError Error.rootCause = rowArgs (entriesLeaves entries)
  | [] => rfl
  | none :: entries => by
    rw [entriesArgs, entriesLeaves]
    exact mapError_entriesArgs hcauses (position + 1) entries
  | some t :: entries => by
    -- the cause of an error with a position around it is the cause of what is inside
    have hhere : (t.args.mapError (Error.child position)).mapError Error.rootCause =
        rowArgs t.leaves := by
      rw [mapError_mapError]
      exact mapError_args hcauses t
    rw [entriesArgs, entriesLeaves, Leaf.rowArgs_append, mapError_bind, hhere,
      ← mapError_entriesArgs hcauses (position + 1) entries]
    refine congrArg _ (funext fun here ↦ ?_)
    rw [mapError_bind]
    rfl

end

/-- Numbering gives the same leaves for any grouping of them. -/
theorem leaves_allocate_congr {t t' : DeviceTree δ} (h : t.leaves = t'.leaves) (offset : Nat) :
    (t.allocate offset).leaves = (t'.allocate offset).leaves := by
  rw [allocate, allocate, mapHandles, mapHandles, leaves_mapHandlesFrom, leaves_mapHandlesFrom, h]

theorem handles_congr {t t' : DeviceTree δ} (h : t.leaves = t'.leaves) :
    t.handles = t'.handles := by
  rw [handles_eq_flatMap, handles_eq_flatMap, h]

end DeviceTree

namespace CommandLine

/-- Adds leaves one after the other, up to the first that has no arguments. -/
def withEach (c : CommandLine) (ds : List δ) : Except Error CommandLine :=
  ds.foldlM (fun c d ↦ c.withDevices (.leaf d)) c

/-- Adding leaves one after the other adds their arguments in a row. -/
theorem withEach_eq (c : CommandLine) (ds : List δ) :
    c.withEach ds = (rowArgs ds).map c.append := by
  induction ds generalizing c with
  | nil =>
    show Except.ok c = .ok (c.append [])
    rw [append, List.append_nil]
  | cons d ds ih =>
    have hstep : c.withEach (d :: ds) = c.withDevices (.leaf d) >>= fun c ↦ c.withEach ds :=
      List.foldlM_cons
    rw [hstep, rowArgs, withDevices, DeviceTree.args]
    cases Leaf.args d with
    | error e => rfl
    | ok here =>
      rw [ok_bind, ok_bind, pure_eq_ok, ok_bind, ih]
      cases rowArgs ds with
      | error e => rfl
      | ok rest =>
        show Except.ok ((c.append here).append rest) = .ok (c.append (here ++ rest))
        rw [append, append, append, List.append_assoc]

/-- A tree may be added leaf by leaf. -/
theorem mapError_withDevices (hcauses : Leaf.HasCauses δ) (c : CommandLine) (t : DeviceTree δ) :
    (c.withDevices t).mapError Error.rootCause = c.withEach t.leaves := by
  rw [withEach_eq, ← t.mapError_args hcauses, withDevices]
  cases t.args <;> rfl

end CommandLine

namespace Machine

/-- But for the positions in an error, what a numbered machine comes to is told by its leaves. -/
theorem mapError_assemble_congr (hcauses : Leaf.HasCauses δ) {m m' : Machine δ}
    (hbinary : m.binary = m'.binary) (hkeeps : m.keeps = m'.keeps)
    (hleaves : m.tree.leaves = m'.tree.leaves) :
    m.assemble.mapError Error.rootCause = m'.assemble.mapError Error.rootCause := by
  have hcommandLine : m.commandLine.mapError Error.rootCause =
      m'.commandLine.mapError Error.rootCause := by
    rw [commandLine, commandLine, mapError_bind, mapError_bind, hbinary, hkeeps]
    simp only [CommandLine.mapError_withDevices hcauses, hleaves]
  rw [assemble, assemble, mapError_bind, mapError_bind, hcommandLine,
    DeviceTree.handles_congr hleaves]

/-- What a machine comes to under another grouping of leaves that fail with causes. -/
theorem regroup_of_hasCauses (hcauses : Leaf.HasCauses δ) (m : Machine δ)
    {entries : List (Option (DeviceTree δ))}
    (h : (DeviceTree.group entries).leaves = m.tree.leaves) :
    ({ m with devices := entries } : Machine δ).describe.mapError Error.rootCause =
      m.describe.mapError Error.rootCause ∧
    ∀ offset, ((DeviceTree.group entries).allocate offset).leaves =
        (m.tree.allocate offset).leaves ∧
      ∀ c : CommandLine, (c.withDevices (m.tree.allocate offset)).mapError Error.rootCause =
        c.withEach (m.tree.allocate offset).leaves := by
  refine ⟨?_, fun offset ↦ ⟨DeviceTree.leaves_allocate_congr h offset, fun c ↦
    c.mapError_withDevices hcauses _⟩⟩
  have hleaves : ({ m with devices := entries } : Machine δ).allocated.tree.leaves =
      m.allocated.tree.leaves := by
    rw [leaves_allocated, leaves_allocated, ← h]
    rfl
  exact mapError_assemble_congr hcauses rfl rfl hleaves

/-- Two groups of devices with the same leaves in order give the same description, with the same
arguments and the same resources, or the same cause of failure. Their leaves have the same handles
with the same numbers after numbering, from any number on; and adding these one by one to a command
line gives what adding the group gives, or fails with the same cause. -/
theorem describe_regroup (m : Machine) {entries : List (Option DeviceTree)}
    (h : (DeviceTree.group entries).leaves = m.tree.leaves) :
    ({ m with devices := entries } : Machine).describe.mapError Error.rootCause =
      m.describe.mapError Error.rootCause ∧
    ∀ offset, ((DeviceTree.group entries).allocate offset).leaves =
        (m.tree.allocate offset).leaves ∧
      ∀ c : CommandLine, (c.withDevices (m.tree.allocate offset)).mapError Error.rootCause =
        c.withEach (m.tree.allocate offset).leaves :=
  regroup_of_hasCauses Device.hasCauses m h

/-- The devices of the nested machine side by side, before an absent entry and an empty group. -/
def sideBySide : List (Option DeviceTree) :=
  nested.tree.leaves.map (fun d ↦ some (.leaf d)) ++ [none, some (.group [])]

theorem sideBySide_describe : (DeviceTree.group sideBySide).leaves = nested.tree.leaves ∧
    ({ nested with devices := sideBySide } : Machine).describe.mapError Error.rootCause =
      nested.describe.mapError Error.rootCause ∧
    ∃ d, nested.describe = .ok d :=
  have h : (DeviceTree.group sideBySide).leaves = nested.tree.leaves := by rfl
  ⟨h, (describe_regroup nested h).1, _, by rfl⟩

end Machine

end MachineArgs
