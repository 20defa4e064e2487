import MachineArgs.Device.Machine
import MachineArgs.Device.Reference
import MachineArgs.Encoding

/-!
# Storage devices

What the guest sees of a disk: an option of the group `device` that refers to a block node. Some
models have fields of their own, which follow the common ones. SCSI disks sit on the bus of an
adapter.
-/

namespace MachineArgs

/-- The place of a SCSI disk on its adapter. -/
structure ScsiAddress where
  /-- The channel. -/
  channel : Option Nat := none
  /-- The target. -/
  target : Option Nat := none
  /-- The logical unit. -/
  lun : Option Nat := none

namespace ScsiAddress

/-- The fields of a SCSI address. -/
def schema : Schema :=
  ⟨"ScsiAddress",
    [.field (.plain "channel"),
     .field (.kebab "scsi_id"),
     .field (.plain "lun")]⟩

instance : ToValue ScsiAddress where
  toValue a := .record schema [toValue a.channel, toValue a.target, toValue a.lun]

end ScsiAddress

/-- The model of a storage device and the fields of its own that it has. -/
inductive StorageModel where
  /-- A CD drive on an IDE bus. -/
  | ideCd
  /-- A disk on an IDE bus. -/
  | ideDisk
  /-- A CD drive on a SCSI bus. -/
  | scsiCd (address : ScsiAddress)
  /-- A disk on a SCSI bus. -/
  | scsiDisk (address : ScsiAddress)
  /-- An NVMe controller. -/
  | nvme (serial : String)
  /-- A namespace of an NVMe controller. -/
  | nvmeNamespace (eui64 : Option Nat) (uuid : Option Uuid)

namespace StorageModel

/-- How a model is written. -/
def text : StorageModel → String
  | ideCd => "ide-cd"
  | ideDisk => "ide-hd"
  | scsiCd _ => "scsi-cd"
  | scsiDisk _ => "scsi-hd"
  | nvme _ => "nvme"
  | nvmeNamespace _ _ => "nvme-ns"

/-- The fields of an NVMe controller. -/
def nvmeSchema : Schema :=
  ⟨"Nvme", [.field (.plain "serial")]⟩

/-- The fields of a namespace of an NVMe controller. -/
def namespaceSchema : Schema :=
  ⟨"NvmeNs", [.field (.plain "eui64"), .field (.plain "uuid")]⟩

/-- The record of the fields that a model has of its own. -/
def extras : StorageModel → Value
  | ideCd | ideDisk => .absent
  | scsiCd address | scsiDisk address => toValue address
  | nvme serial => .record nvmeSchema [toValue serial]
  | nvmeNamespace eui64 uuid => .record namespaceSchema [toValue eui64, toValue uuid]

end StorageModel

/-- A disk or drive of the guest:
`-device scsi-hd,id=hd0,drive=disk0,bus=scsi0.0,bootindex=0,scsi-id=1`. -/
structure StorageDevice where
  /-- The model. -/
  model : StorageModel
  /-- The name of the device. -/
  name : String := ""
  /-- The block node with its contents. -/
  drive : Reference := {}
  /-- The bus that it sits on. -/
  bus : String := ""
  /-- Its place in the boot order. -/
  boot : BootIndex := {}

namespace StorageDevice

/-- The fields of a storage device. -/
def schema : Schema :=
  ⟨"StorageDevice",
    [.group "device",
     .field (.unnamed "model"),
     .field (.named "name" "id"),
     .field (.plain "drive"),
     .field (.plain "bus"),
     .field (.embedded "bootable"),
     .field (.embedded "kind")]⟩

instance : ToValue StorageDevice where
  toValue d := .record schema
    [toValue d.model.text, toValue d.name, toValue d.drive, toValue d.bus, toValue d.boot,
     d.model.extras]

end StorageDevice

/-- A SCSI adapter: `-device virtio-scsi-pci,id=scsi0`. -/
structure ScsiAdapter where
  /-- The name of the adapter. -/
  name : String := ""

namespace ScsiAdapter

/-- The fields of a SCSI adapter. -/
def schema : Schema :=
  ⟨"VirtioScsiPci",
    [.group "device", .field (.unnamed "model"), .field (.named "name" "id")]⟩

/-- The bus that disks of the adapter sit on. -/
def bus (a : ScsiAdapter) : String :=
  a.name ++ ".0"

instance : ToValue ScsiAdapter where
  toValue a := .record schema [toValue "virtio-scsi-pci", toValue a.name]

end ScsiAdapter

end MachineArgs
