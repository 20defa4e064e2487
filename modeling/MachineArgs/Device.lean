import MachineArgs.Device.Block
import MachineArgs.Device.Chardev
import MachineArgs.Device.Kernel
import MachineArgs.Device.Machine
import MachineArgs.Device.Network
import MachineArgs.Device.Storage
import MachineArgs.Device.Tpm

/-!
# Devices

The catalogue of everything that contributes arguments. A device has arguments, the handles that
the emulator must inherit for it, and, for most kinds, a value that its arguments encode.

* `args` reads the numbers of the device's handles, so it is asked after they were numbered.
* `handles` lists them in the order in which they are inherited.
* `mapHandles` changes them in place. The handles afterwards are the changed ones in the same order
  (`handles_mapHandles`), and nothing else of the device changes: what the change does elsewhere is
  no matter (`mapHandles_congr`), and one that leaves the handles as they are leaves the device as
  it is (`mapHandles_eq_self`).
-/

namespace MachineArgs

/-- A unit of the emulator's configuration. -/
inductive Device where
  /-- Fixed arguments. -/
  | raw (args : List String)
  /-- Guest memory. -/
  | memory (m : Memory)
  /-- Acceleration by the host's hypervisor. -/
  | acceleration
  /-- The model of the processors. -/
  | processorModel (model : String)
  /-- The topology of the processors. -/
  | processors (p : Processors)
  /-- The machine type. -/
  | board (b : Board)
  /-- The name and identifier of the guest. -/
  | identity (i : Identity)
  /-- The boot order of the firmware. -/
  | bootOrder (b : BootOrder)
  /-- Options of any group. -/
  | generic (d : GenericDevice)
  /-- A kernel to boot. -/
  | kernel (k : LinuxKernel)
  /-- Networking in user mode. -/
  | userNetwork (n : UserNetwork)
  /-- Networking over taps. -/
  | tapNetwork (n : TapNetwork)
  /-- A network card. -/
  | networkCard (c : NetworkCard)
  /-- A character device that drops everything. -/
  | nullChardev (c : NullChardev)
  /-- A character device at a path. -/
  | pathChardev (c : PathChardev)
  /-- A character device over an inherited socket. -/
  | fdSocket (c : FdSocket)
  /-- A character device over TCP. -/
  | tcpSocket (c : TcpSocket)
  /-- A character device over a local socket. -/
  | unixSocket (c : UnixSocket)
  /-- A character device over UDP. -/
  | udpSocket (c : UdpSocket)
  /-- A character device over a socket pair. -/
  | socketPair (p : SocketPair)
  /-- A block node that reads an inherited file. -/
  | fileNode (n : FileNode)
  /-- A raw block node. -/
  | rawNode (n : RawNode)
  /-- A qcow2 block node. -/
  | qcow2Node (n : Qcow2Node)
  /-- A block node of any driver. -/
  | genericNode (n : GenericNode)
  /-- A storage device. -/
  | storage (d : StorageDevice)
  /-- A SCSI adapter. -/
  | scsiAdapter (a : ScsiAdapter)
  /-- An emulated TPM. -/
  | tpm (t : Tpm)
  /-- The backend of a TPM on its own. -/
  | tpmBackend (b : TpmBackend)
  /-- The interface of a TPM. -/
  | tpmInterface (i : TpmInterface)

namespace Device

/-- The value that a device's arguments encode, for devices with one record. -/
def value? : Device → Option Value
  | raw _ | acceleration | processorModel _ | tapNetwork _ | socketPair _ | tpm _ => none
  | memory m => some (toValue m)
  | processors p => some (toValue p)
  | board b => some (toValue b)
  | identity i => some (toValue i)
  | bootOrder b => some (toValue b)
  | generic d => some (toValue d)
  | kernel k => some (toValue k)
  | userNetwork n => some (toValue n)
  | networkCard c => some (toValue c)
  | nullChardev c => some (toValue c)
  | pathChardev c => some (toValue c)
  | fdSocket c => some (toValue c)
  | tcpSocket c => some (toValue c)
  | unixSocket c => some (toValue c)
  | udpSocket c => some (toValue c)
  | fileNode n => some (toValue n)
  | rawNode n => some (toValue n)
  | qcow2Node n => some (toValue n)
  | genericNode n => some (toValue n)
  | storage d => some (toValue d)
  | scsiAdapter a => some (toValue a)
  | tpmBackend b => some (toValue b)
  | tpmInterface i => some (toValue i)

/-- The option group that is selected before a device's value is encoded. Most values select
their group themselves. -/
def group? : Device → Option String
  | generic d => some d.option
  | networkCard _ => some NetworkCard.group
  | _ => none

/-- The arguments of a device that is not one record. -/
def plainArgs : Device → Except Error (List String)
  | raw args => .ok args
  | acceleration => .ok ["-enable-kvm"]
  | processorModel model => .ok ["-cpu", model]
  | tapNetwork n => n.args
  | socketPair p => p.args
  | tpm t => t.args
  | _ => .ok []

/-- The arguments that a device contributes. -/
def args (d : Device) : Except Error (List String) :=
  match d.value? with
  | some v => v.args d.group?
  | none => d.plainArgs

/-- The handles that the emulator inherits for a device, in order. -/
def handles : Device → List Handle
  | kernel k => k.handles
  | tapNetwork n => n.queues
  | fileNode n => [n.file]
  | socketPair p => [p.guest]
  | tpm t => [t.conduit.guest]
  | _ => []

/-- Applies a function to each handle and its position among the device's handles. -/
def mapHandles (f : Nat → Handle → Handle) : Device → Device
  | kernel k => kernel (k.mapHandles f)
  | tapNetwork n => tapNetwork { n with queues := n.queues.mapIdx f }
  | fileNode n => fileNode { n with file := f 0 n.file }
  | socketPair p => socketPair { p with guest := f 0 p.guest }
  | tpm t => tpm { t with conduit := { t.conduit with guest := f 0 t.conduit.guest } }
  | d => d

/-- The name by which other devices refer to a device, for devices that have one. -/
def name? : Device → Option String
  | userNetwork n => some n.name
  | tapNetwork n => some n.name
  | nullChardev c => some c.name
  | pathChardev c => some c.name
  | fdSocket c => some c.name
  | tcpSocket c => some c.name
  | unixSocket c => some c.name
  | udpSocket c => some c.name
  | socketPair p => some p.name
  | fileNode n => some n.options.name
  | rawNode n => some n.options.name
  | qcow2Node n => some n.options.name
  | genericNode n => some n.options.name
  | storage d => some d.name
  | scsiAdapter a => some a.name
  | tpm t => some t.backend.name
  | tpmBackend b => some b.name
  | _ => none

/-- A reference to a device with a name. -/
def reference? (d : Device) : Option Reference :=
  d.name?.map Reference.mk

/-- The handles after a change are the changed handles. -/
theorem handles_mapHandles (f : Nat → Handle → Handle) (d : Device) :
    (d.mapHandles f).handles = d.handles.mapIdx f := by
  cases d with
  | kernel k =>
    obtain ⟨kernel, initrd, cmdline⟩ := k
    cases kernel <;> cases initrd <;>
      simp [mapHandles, handles, LinuxKernel.handles, LinuxKernel.mapHandles]
  | _ => simp [mapHandles, handles]

/-- Only what a change does to the declared handles matters. -/
theorem mapHandles_congr {f g : Nat → Handle → Handle} {d : Device}
    (h : ∀ position handle, d.handles[position]? = some handle →
      f position handle = g position handle) : d.mapHandles f = d.mapHandles g := by
  cases d with
  | kernel k =>
    obtain ⟨kernel, initrd, cmdline⟩ := k
    have hkernel : kernel.map (f 0) = kernel.map (g 0) :=
      Option.map_congr fun handle hk ↦ h 0 handle (by simp [handles, LinuxKernel.handles, hk])
    have hinitrd : initrd.map (f kernel.toList.length) = initrd.map (g kernel.toList.length) :=
      Option.map_congr fun handle hi ↦ h _ handle (by simp [handles, LinuxKernel.handles, hi])
    rw [mapHandles, mapHandles, LinuxKernel.mapHandles, LinuxKernel.mapHandles, hkernel, hinitrd]
  | tapNetwork n =>
    have hqueues : n.queues.mapIdx f = n.queues.mapIdx g := by
      refine List.ext_getElem? fun position ↦ ?_
      rw [List.getElem?_mapIdx, List.getElem?_mapIdx]
      exact Option.map_congr fun handle hq ↦ h position handle hq
    rw [mapHandles, mapHandles, hqueues]
  | fileNode n => rw [mapHandles, mapHandles, h 0 n.file rfl]
  | socketPair p => rw [mapHandles, mapHandles, h 0 p.guest rfl]
  | tpm t => rw [mapHandles, mapHandles, h 0 t.conduit.guest rfl]
  | _ => rfl

/-- A change that leaves the declared handles as they are leaves the device as it is. -/
theorem mapHandles_eq_self {f : Nat → Handle → Handle} {d : Device}
    (h : ∀ position handle, d.handles[position]? = some handle → f position handle = handle) :
    d.mapHandles f = d := by
  refine (mapHandles_congr (g := fun _ handle ↦ handle) h).trans ?_
  cases d with
  | tapNetwork n =>
    have hqueues : n.queues.mapIdx (fun _ handle ↦ handle) = n.queues :=
      List.ext_getElem? fun position ↦ by simp
    rw [mapHandles, hqueues]
  | _ => simp [mapHandles, LinuxKernel.mapHandles]

end Device

end MachineArgs
