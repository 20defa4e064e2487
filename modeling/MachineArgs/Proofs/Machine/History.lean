import MachineArgs.Machine
import MachineArgs.Proofs.DeviceTree.Handles

/-!
# Descriptions forget what handles were before

The command line of a machine does not tell how its handles are called, what they refer to or which
numbers they had. Two machines are told apart by none of this if they are the same machine once
every handle is replaced by a blank one (`Machine.bare`).

Numbers come to handles one at a time, by numbering all of them, or by describing the machine, which
may fail. Describing a machine after any row of such steps (`Machine.after`) is describing it in the
first place, since numbering comes before anything is read and reaches every handle
(`allocated_renumber`). With blank handles the command line is the same (`describe_bare`), because
devices read the numbers of their handles only. Both together are `describe_words_eq`.
-/

namespace MachineArgs

/-- A handle about which nothing is known. -/
def Handle.blank : Handle :=
  { name := "", resource := .descriptor }

/-- What gives numbers to handles of a machine. -/
inductive Renumbering where
  /-- One handle is given a number. -/
  | setIndex (position index : Nat)
  /-- All handles are numbered from some number on. -/
  | allocate (offset : Nat)
  /-- The machine is described, with success or without. -/
  | describe

namespace Machine

variable {f g : Nat → Handle → Handle}

/-- Applies a function to each handle and its position among the handles. -/
def mapHandles (f : Nat → Handle → Handle) (m : Machine) : Machine :=
  { m with devices := DeviceTree.mapEntriesFrom f 0 m.devices }

/-- The machine with blank handles. -/
def bare (m : Machine) : Machine :=
  m.mapHandles fun _ _ ↦ .blank

/-- The machine with new numbers. -/
def renumber (m : Machine) : Renumbering → Machine
  | .setIndex position index =>
    m.mapHandles fun p h ↦ if p = position then h.withIndex (Handle.word index) else h
  | .allocate offset =>
    m.mapHandles fun position h ↦ h.withIndex (Handle.word (offset + position))
  | .describe => m.describeInPlace.2

/-- The machine after some steps that give numbers to its handles. -/
def after (m : Machine) (history : List Renumbering) : Machine :=
  history.foldl renumber m

/-- A change of all handles is one of the devices as a tree. -/
theorem tree_mapHandles (f : Nat → Handle → Handle) (m : Machine) :
    (m.mapHandles f).tree = m.tree.mapHandles f := by
  rw [tree, tree, DeviceTree.mapHandles, DeviceTree.mapHandlesFrom]
  rfl

/-- Giving one handle of a machine a number is giving it to that handle of its tree. -/
theorem tree_setIndex (position index : Nat) (m : Machine) :
    (m.renumber (.setIndex position index)).tree = m.tree.setIndex position index :=
  m.tree_mapHandles _

/-- Numbering the handles of a machine is numbering its tree. -/
theorem tree_allocate (offset : Nat) (m : Machine) :
    (m.renumber (.allocate offset)).tree = m.tree.allocate offset :=
  m.tree_mapHandles _

theorem mapHandles_mapHandles (f g : Nat → Handle → Handle) (m : Machine) :
    (m.mapHandles f).mapHandles g = m.mapHandles fun position h ↦ g position (f position h) := by
  rw [mapHandles, mapHandles, mapHandles, DeviceTree.mapEntriesFrom_mapEntriesFrom]

/-! ### What a description reads -/

/-- Only the numbers of handles matter for a command line. -/
theorem commandLine_mapHandles_congr (hfg : SameNumbers f g) (m : Machine) :
    (m.mapHandles f).commandLine = (m.mapHandles g).commandLine := by
  have hargs : (m.mapHandles f).tree.args = (m.mapHandles g).tree.args := by
    rw [tree_mapHandles, tree_mapHandles]
    exact DeviceTree.args_mapHandlesFrom_congr hfg 0 m.tree
  show (CommandLine.ofBinary m.binary >>= fun c ↦
    (c.withBaseline m.keeps).withDevices (m.mapHandles f).tree) = _
  simp only [CommandLine.withDevices, hargs]
  rfl

theorem map_words_assemble (m : Machine) :
    m.assemble.map Description.words = m.commandLine.map CommandLine.words := by
  rw [assemble]
  cases m.commandLine <;> rfl

/-- The command line is the same for blank handles. -/
theorem describe_bare (m : Machine) :
    m.bare.describe.map Description.words = m.describe.map Description.words := by
  have hnumbers : SameNumbers
      (fun position _ ↦ Handle.blank.withIndex (Handle.firstIndex + position))
      fun position h ↦ h.withIndex (Handle.firstIndex + position) :=
    fun position _ ↦ ⟨Handle.firstIndex + position, rfl, rfl⟩
  have hbare : m.bare.allocated = m.mapHandles fun position _ ↦
      Handle.blank.withIndex (Handle.firstIndex + position) :=
    m.mapHandles_mapHandles _ _
  show m.bare.allocated.assemble.map _ = m.allocated.assemble.map _
  rw [map_words_assemble, map_words_assemble, hbare, commandLine_mapHandles_congr hnumbers]
  rfl

/-! ### Numbers from before -/

/-- Numbering a machine overwrites the numbers of one step before. -/
theorem allocated_renumber (m : Machine) (step : Renumbering) :
    (m.renumber step).allocated = m.allocated := by
  cases step with
  | setIndex position index =>
    refine (m.mapHandles_mapHandles _ _).trans (congrArg m.mapHandles ?_)
    funext p h
    split <;> rfl
  | allocate offset => exact m.mapHandles_mapHandles _ _
  | describe => exact m.mapHandles_mapHandles _ _

theorem allocated_after (m : Machine) (history : List Renumbering) :
    (m.after history).allocated = m.allocated := by
  induction history generalizing m with
  | nil => rfl
  | cons step history ih => exact (ih (m.renumber step)).trans (m.allocated_renumber step)

/-- Describing a machine forgets the numbers that its handles were given before. -/
theorem describe_after (m : Machine) (history : List Renumbering) :
    (m.after history).describe = m.describe :=
  congrArg assemble (m.allocated_after history)

/-- Two machines that are the same but for the names of their handles, for what these refer to and
for their numbers, each after any steps that gave numbers to its handles, have the same command line
or fail with the same error, cause and positions included. The description itself, with the
resources that it lists, does not depend on the steps; so it is the same when it is made again. -/
theorem describe_words_eq {m m' : Machine} (h : m.bare = m'.bare)
    (history history' : List Renumbering) :
    (m.after history).describe.map Description.words =
        (m'.after history').describe.map Description.words ∧
      (m.after history).describe = m.describe := by
  refine ⟨?_, m.describe_after history⟩
  rw [describe_after, describe_after, ← m.describe_bare, ← m'.describe_bare, h]

/-- A machine that boots a kernel from a handle. -/
def booting (kernel : Handle) : Machine where
  binary := ["qemu"]
  devices := [some (.group [none, some (.leaf (.kernel { kernel := some kernel }))])]

theorem booting_describe :
    let m := booting (.ofFile "kernel" "/boot/vmlinuz")
    let m' := booting ((Handle.ofResource (.memory "image")).withIndex 9)
    m.bare = m'.bare ∧
      (m.after [.setIndex 0 7, .describe]).describe.map Description.words =
        (m'.after [.allocate 20]).describe.map Description.words ∧
      m'.describe.map Description.words =
        .ok ["qemu", "-nodefaults", "-no-user-config", "-kernel", "/dev/fd/3"] :=
  ⟨by rfl, (describe_words_eq (by rfl) _ _).1, by rfl⟩

end Machine

end MachineArgs
