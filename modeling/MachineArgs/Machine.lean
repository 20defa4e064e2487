import MachineArgs.CommandLine

/-!
# Machines

A machine is the emulator's program, the baselines to keep, and a group of devices, which are those
of the catalogue unless another type of leaves is given. Describing it numbers the handles of all
devices first and writes the command line after that, so every number on the command line is the
place of its resource in the description. The handles keep their numbers, whether or not there is a
command line (`describeInPlace`).
-/

namespace MachineArgs

/-- The emulator that runs if nothing names another. -/
def defaultEmulator : String :=
  "qemu-system-x86_64"

/-- Everything that a command line is made of. -/
structure Machine (δ : Type := Device) where
  /-- The program and its leading arguments. -/
  binary : List String := [defaultEmulator]
  /-- The emulator's default devices are kept. -/
  keepDefaults : Bool := false
  /-- The configuration files of the host's user are read. -/
  keepUserConfig : Bool := false
  /-- The devices; an entry may be absent. -/
  devices : List (Option (DeviceTree δ)) := []

/-- A command line and the resources that its emulator inherits. -/
structure Description where
  /-- The command line. -/
  commandLine : CommandLine
  /-- The resources: the one at position `p` becomes descriptor `Handle.firstIndex + p`. -/
  resources : List Resource

namespace Machine

variable {δ : Type}

/-- The devices as one group. -/
def tree (m : Machine δ) : DeviceTree δ :=
  .group m.devices

/-- Whether a baseline is kept. -/
def keeps (m : Machine δ) : Baseline → Bool
  | .defaults => m.keepDefaults
  | .userConfig => m.keepUserConfig

/-- The machine with one more device. -/
def add (m : Machine δ) (d : δ) : Machine δ :=
  { m with devices := m.devices ++ [some (.leaf d)] }

/-- The machine with more devices. -/
def addAll (m : Machine δ) (ds : List δ) : Machine δ :=
  ds.foldl add m

variable [Leaf δ]

/-- The machine with the handles of its devices numbered. So many handles that the numbers from
`Handle.firstIndex` on are no machine words do not fit into memory. -/
def allocated (m : Machine δ) : Machine δ :=
  { m with
    devices := DeviceTree.mapEntriesFrom
      (fun position h ↦ h.withIndex (Handle.firstIndex + position)) 0 m.devices }

/-- The devices with their handles numbered. -/
def numbered (m : Machine δ) : DeviceTree δ :=
  m.allocated.tree

/-- The command line of a machine with the numbers that its handles have. -/
def commandLine (m : Machine δ) : Except Error CommandLine := do
  let c ← CommandLine.ofBinary m.binary
  (c.withBaseline m.keeps).withDevices m.tree

/-- The description of a machine with the numbers that its handles have. -/
def assemble (m : Machine δ) : Except Error Description := do
  let commandLine ← m.commandLine
  return { commandLine, resources := m.tree.handles.map Handle.resource }

/-- Numbers the handles of a machine and then assembles it. The machine that is left has its handles
numbered even if assembling it fails. -/
def describeInPlace (m : Machine δ) : Except Error Description × Machine δ :=
  (m.allocated.assemble, m.allocated)

/-- The description of a machine. -/
def describe (m : Machine δ) : Except Error Description :=
  m.describeInPlace.1

/-- The devices of a machine are numbered like any other tree. -/
theorem numbered_eq_numberFrom (m : Machine δ) :
    m.numbered = m.tree.numberFrom Handle.firstIndex := by
  rw [numbered, tree, tree, DeviceTree.numberFrom, DeviceTree.mapHandles,
    DeviceTree.mapHandlesFrom]
  rfl

/-- The devices of a machine are numbered in machine words, unless these run out. -/
theorem numbered_eq_allocate {m : Machine δ}
    (h : Handle.firstIndex + m.tree.handles.length ≤ Text.capacity 64) :
    m.numbered = m.tree.allocate Handle.firstIndex := by
  rw [numbered_eq_numberFrom, DeviceTree.allocate_eq_numberFrom h]

end Machine

namespace Description

/-- The program and then its arguments. -/
def words (d : Description) : List String :=
  d.commandLine.words

/-- The program. -/
def program (d : Description) : String :=
  d.words.headD ""

/-- The arguments after the program. -/
def args (d : Description) : List String :=
  d.words.tail

/-- The words of the command line between blanks, for display. -/
def text (d : Description) : String :=
  " ".intercalate d.words

end Description

end MachineArgs
