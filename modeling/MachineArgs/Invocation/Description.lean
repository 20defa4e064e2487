import MachineArgs.Host
import MachineArgs.Invocation

/-!
# From an invocation to a command line

An invocation is carried out on a host: the settings are read, the devices of a standard machine
are put together, the files that they need are opened, and the command line is written.
-/

namespace MachineArgs

namespace Invocation

/-- The settings of an invocation. -/
def settings (inv : Invocation) (host : Host) : Attempt Settings :=
  (inv.config.elim host.usualSettings host.readSettings).mapError (.settings .loadSettings)

/-! ### Devices -/

/-- The identity of the guest, if it has a name. -/
def identityDevices (inv : Invocation) (host : Host) : List Device :=
  inv.name.toList.map fun name ↦ .identity { name, uuid := host.uuid }

/-- Memory and processors. What the invocation says wins over the settings. -/
def coreDevices (inv : Invocation) (s : MachineSettings) : List Device :=
  [.memory { size := inv.memory.getD s.memory },
   .processors { cpus := some (inv.processors.getD s.cpus) }] ++
  (inv.model <|> s.model).toList.map .processorModel ++
  if inv.acceleration || s.accelerated then [.acceleration] else []

/-- Whether a file to boot from is somewhere on the web. -/
def isRemote (source : String) : Bool :=
  "http://".toList.isPrefixOf source.toList || "https://".toList.isPrefixOf source.toList

/-- Opens a file to boot from, or downloads it. -/
def openBootFile (host : Host) (source : String) : Attempt Handle :=
  if isRemote source then (host.fetch source).mapError (.command (.fetchFile source))
  else (host.openHandle .read source).mapError (.command (.openFile source))

/-- The kernel, its ramdisk and its command line, if there is a kernel. -/
def kernelDevices (inv : Invocation) (host : Host) : Attempt (List Device) :=
  match inv.kernel with
  | none => .ok []
  | some path => do
    let kernel ← openBootFile host path
    let initrd ← inv.initrd.mapM (openBootFile host)
    let cmdline := inv.append.elim [] Text.wordsOf
    return [.kernel { kernel := some kernel, initrd, cmdline }]

/-- The adapter that disks sit on. -/
def adapter : ScsiAdapter :=
  ⟨"scsi0"⟩

/-- The extension of a file name: what follows its last dot, if something stands before that. -/
def extension? (path : String) : Option String :=
  let parts := (path.toList.splitOn '/').filter fun part ↦ !part.isEmpty && part != ['.']
  match parts.getLast? with
  | none => none
  | some name =>
    if name == ['.', '.'] then none
    else
      let pieces := name.splitOn '.'
      if pieces.length ≤ 1 || pieces.dropLast == [[]] then none
      else pieces.getLast?.map String.ofList

/-- Whether a disk image grows with its contents, by its name. -/
def isQcow2 (path : String) : Bool :=
  extension? path == some "qcow2"

/-- The devices of the disk with a number: a node for its file, a node for its format, and what
the guest sees. The first disk boots. -/
def diskDevices (index : Nat) (isQcow2 : Bool) (file : Handle) : List Device :=
  let fileName := "file" ++ toString index
  let formatName := "disk" ++ toString index
  let options : NodeOptions := { name := formatName }
  [.fileNode { options := { name := fileName }, file },
   if isQcow2 then .qcow2Node { options, file := ⟨fileName⟩ }
   else .rawNode { options, file := ⟨fileName⟩ },
   .storage
     { model := .scsiDisk { target := some (index % Text.capacity 32) }
       name := "hd" ++ toString index
       drive := ⟨formatName⟩
       bus := adapter.bus
       boot := ⟨if index = 0 then some 0 else none⟩ }]

/-- The devices of the disks from a number on, whose images are opened in order. -/
def disksFrom (host : Host) (index : Nat) : List String → Attempt (List Device)
  | [] => .ok []
  | path :: paths => do
    let file ← (host.openHandle .readWrite path).mapError (.command (.openDrive path))
    let rest ← disksFrom host (index + 1) paths
    return diskDevices index (isQcow2 path) file ++ rest

/-- The disks and the adapter that they sit on, if there are any. -/
def driveDevices (inv : Invocation) (host : Host) : Attempt (List Device) :=
  if inv.drives.isEmpty then .ok []
  else do
    let disks ← disksFrom host 0 inv.drives
    return .scsiAdapter adapter :: disks

/-- The name of the network backend. -/
def networkName : String :=
  "net0"

/-- The network card on the backend. -/
def card : Device :=
  .networkCard { model := "virtio-net-pci", peer := ⟨networkName⟩ }

/-- Networking in user mode, if it is asked for. -/
def userNetworkDevices (inv : Invocation) : List Device :=
  if inv.userNetwork then
    [.userNetwork { name := networkName, hostForwards := inv.forwards }, card]
  else []

/-- Networking over a bridge, if it is asked for. -/
def bridgeDevices (inv : Invocation) (host : Host) : Attempt (List Device) :=
  match inv.bridge with
  | none => .ok []
  | some bridge => do
    let (outcome, isPassed) := host.tap bridge
    let tap ← (Helper.openTap Helper.bridgeProgram bridge outcome isPassed).mapError
      (.command (.openTap bridge))
    return [.tapNetwork { name := networkName, queues := [tap] }, card]

/-- An emulated TPM and its interface, if they are asked for. -/
def tpmDevices (inv : Invocation) (host : Host) : Attempt (List Device) :=
  match inv.tpm with
  | none => .ok []
  | some directory => do
    let tpm ← (Helper.startTpm Helper.tpmProgram "tpm0"
      ["--tpm2", "--tpmstate", "dir=" ++ directory] host.tpm).mapError (.command .startTpm)
    return [.tpm tpm, .tpmInterface { backend := ⟨tpm.backend.name⟩ }]

/-! ### The machine -/

/-- The machine of an invocation by some settings. Files are opened and programs are started in
the order of the devices. -/
def machine (inv : Invocation) (host : Host) (s : Settings) : Attempt Machine := do
  let empty ← (Machine.ofSettings s host.environment host.splitWords).mapError
    (.settings .chooseBinary)
  let kernel ← inv.kernelDevices host
  let drives ← inv.driveDevices host
  let bridge ← inv.bridgeDevices host
  let tpm ← inv.tpmDevices host
  let kept : Machine :=
    { empty with
      keepDefaults := inv.keepDefaults || s.keepDefaults
      keepUserConfig := inv.keepUserConfig || s.keepUserConfig }
  return kept.addAll
    (inv.identityDevices host ++ inv.coreDevices s.machine ++ kernel ++ drives ++
      inv.userNetworkDevices ++ bridge ++ tpm)

/-- Carries out an invocation on a host. -/
def describe (inv : Invocation) (host : Host) : Attempt Description := do
  let settings ← inv.settings host
  let machine ← inv.machine host settings
  machine.describe.mapError (.command .assemble)

end Invocation

end MachineArgs
