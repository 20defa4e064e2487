import MachineArgs.Machine
import MachineArgs.Proofs.Device.Numbers
import MachineArgs.Proofs.DeviceTree.Leaves

/-!
# Numbers on the command line

A description lists resources, and its command line names them by number. The two come from
different traversals of the devices, and nothing compares them at run time.
`describeInPlace_numbers` says that they agree: whatever numbers the handles had before, each has
the number of its place in the traversal afterwards, the resources are listed by that place, and
every device that writes numbers writes those of its own handles.

What it rests on: both traversals meet the same leaves (`DeviceTree.args_eq_ok_iff`,
`DeviceTree.leaf_of_leaves_mapHandles`), and a leaf renders the numbers that it was given
(`Device.rendersFrom_of_args`).
-/

namespace MachineArgs

namespace CommandLine

theorem words_of_ofBinary {binary : List String} {c : CommandLine} (h : ofBinary binary = .ok c) :
    c.words = binary := by
  by_cases hbinary : binary.headD "" = ""
  · rw [ofBinary_of_eq hbinary] at h
    cases h
  · rw [ofBinary_of_ne hbinary] at h
    rw [← Except.ok.inj h]

/-- The baseline flags are written in a fixed order, each unless its baseline is kept. -/
theorem words_withBaseline (c : CommandLine) (isKept : Baseline → Bool) :
    (c.withBaseline isKept).words = c.words ++
      ((if isKept .defaults then [] else ["-nodefaults"]) ++
        (if isKept .userConfig then [] else ["-no-user-config"])) := by
  rw [withBaseline, append]
  cases hd : isKept .defaults <;> cases hu : isKept .userConfig <;>
    simp [Baseline.all, Baseline.flag, hd, hu]

end CommandLine

namespace Machine

section Leaves

variable {δ : Type} [Leaf δ]

/-- A description lists the resources of all handles, and its words are the binary, the baseline
flags and the arguments of the devices. -/
theorem assemble_eq_ok {m : Machine δ} {d : Description} (h : m.assemble = .ok d) :
    d.resources = m.tree.handles.map Handle.resource ∧ ∃ ws, m.tree.args = .ok ws ∧
      d.words = m.binary ++ ((if m.keepDefaults then [] else ["-nodefaults"]) ++
        (if m.keepUserConfig then [] else ["-no-user-config"])) ++ ws := by
  obtain ⟨c, hc, h⟩ := bind_eq_ok.1 h
  obtain rfl := Except.ok.inj h
  obtain ⟨c₀, hbinary, hc⟩ := bind_eq_ok.1 hc
  obtain ⟨ws, hws, hc⟩ := bind_eq_ok.1 hc
  obtain rfl := Except.ok.inj hc
  refine ⟨rfl, ws, hws, ?_⟩
  show (c₀.withBaseline m.keeps).words ++ ws = _
  rw [CommandLine.words_withBaseline, CommandLine.words_of_ofBinary hbinary]
  rfl

/-- The devices of a machine with numbered handles are its devices in order, and the numbers go on
from one device to the next. -/
theorem leaves_allocated (m : Machine δ) :
    m.allocated.tree.leaves = DeviceTree.mapLeavesFrom
      (fun position h ↦ h.withIndex (Handle.firstIndex + position)) 0 m.tree.leaves := by
  rw [← DeviceTree.leaves_mapHandlesFrom]
  exact congrArg DeviceTree.leaves m.numbered_eq_numberFrom

end Leaves

/-- Describing a machine numbers its handles by their places in the traversal of the devices, from 3
on and whatever numbers they had, even if there is no description in the end. If there is one, it
lists the resources of the handles by place. Its words are the binary, the baseline flags that are
not turned off, and one chunk of arguments for each device in the same order; and a device whose
handles come after those of the devices `before` writes the numbers from there on. -/
theorem describeInPlace_numbers (m : Machine) :
    m.describeInPlace.2.tree.handles = m.tree.handles.mapIdx (fun p h ↦ h.withIndex (3 + p)) ∧
    ∀ d, m.describeInPlace.1 = .ok d →
      d.resources = m.tree.handles.map Handle.resource ∧
      ∃ chunks : List (List String),
        d.words = m.binary ++ ((if m.keepDefaults then [] else ["-nodefaults"]) ++
          (if m.keepUserConfig then [] else ["-no-user-config"])) ++ chunks.flatten ∧
        List.Forall₂ (fun leaf chunk ↦ leaf.args = .ok chunk)
          m.describeInPlace.2.tree.leaves chunks ∧
        ∀ before leaf after, m.tree.leaves = before ++ leaf :: after →
          let first := 3 + (before.flatMap Device.handles).length
          m.describeInPlace.2.tree.leaves[before.length]? = some (leaf.numberedFrom first) ∧
            ∃ chunk, chunks[before.length]? = some chunk ∧
              (leaf.numberedFrom first).RendersFrom first chunk := by
  have htree : m.describeInPlace.2.tree = m.tree.numberFrom Handle.firstIndex :=
    m.numbered_eq_numberFrom
  have hhandles := m.tree.handles_numberFrom Handle.firstIndex
  rw [htree]
  refine ⟨hhandles, fun d h ↦ ?_⟩
  obtain ⟨hresources, ws, hws, hwords⟩ := assemble_eq_ok h
  have htree' : m.allocated.tree = m.tree.numberFrom Handle.firstIndex := htree
  rw [htree'] at hresources hws
  obtain ⟨chunks, hchunks, rfl⟩ := (DeviceTree.args_eq_ok_iff _).1 hws
  refine ⟨?_, chunks, hwords, hchunks, fun before leaf after hleaves ↦ ?_⟩
  · rw [hresources, hhandles]
    -- A number is no part of what a handle refers to.
    apply List.ext_getElem <;> simp [Handle.withIndex]
  · intro first
    have hleaf : (m.tree.numberFrom Handle.firstIndex).leaves[before.length]? =
        some (leaf.numberedFrom first) := by
      rw [DeviceTree.numberFrom, DeviceTree.leaf_of_leaves_mapHandles _ hleaves]
      show some (Device.mapHandles _ leaf) = some (Device.mapHandles _ leaf)
      congr 2
      funext position handle
      rw [← Nat.add_assoc]
      rfl
    obtain ⟨chunk, hchunk, hargs⟩ := forall₂_getElem? hchunks hleaf
    exact ⟨hleaf, chunk, hchunk, Device.rendersFrom_of_args (by omega) hargs⟩

/-- A machine whose first device is a kernel in a nested group, with a number from earlier on its
ramdisk, and whose second device follows an absent one. -/
def nested : Machine where
  binary := ["qemu", "-S"]
  keepUserConfig := true
  devices :=
    [some (.group [none, some (.leaf (.kernel
        { kernel := some (.ofFile "kernel" "/boot/vmlinuz")
          initrd := some ((Handle.ofFile "initrd" "/boot/initrd").withIndex 9) }))]),
     none, some (.leaf (.socketPair (.create "serial0")))]

theorem nested_numbers : ∃ d, nested.describeInPlace.1 = .ok d ∧
    d.words = ["qemu", "-S", "-nodefaults", "-kernel", "/dev/fd/3", "-initrd", "/dev/fd/4",
      "-chardev", "socket,id=serial0,fd=5"] ∧
    d.resources = nested.tree.handles.map Handle.resource := by
  obtain ⟨d, hd, hwords⟩ : ∃ d, nested.describeInPlace.1 = .ok d ∧
      d.words = ["qemu", "-S", "-nodefaults", "-kernel", "/dev/fd/3", "-initrd", "/dev/fd/4",
        "-chardev", "socket,id=serial0,fd=5"] := ⟨_, by rfl, by rfl⟩
  exact ⟨d, hd, hwords, ((describeInPlace_numbers nested).2 d hd).1⟩

end Machine

end MachineArgs
