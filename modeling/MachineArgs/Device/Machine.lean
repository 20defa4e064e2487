import MachineArgs.Property
import MachineArgs.Uuid

/-!
# Machine-wide options

Memory, processors, the machine type, the identity of the guest, the boot order, and options of
any other group. Sizes of memory are in MiB.
-/

namespace MachineArgs

/-- Guest memory: `-m size=2048,slots=2,maxmem=8192`. -/
structure Memory where
  /-- The size at the start. -/
  size : Nat := 0
  /-- The number of slots for further modules. -/
  slots : Nat := 0
  /-- The size that further modules may lead to. -/
  maxSize : Nat := 0

namespace Memory

/-- The fields of guest memory. -/
def schema : Schema :=
  ⟨"Ram",
    [.field { Field.plain "size" with group := some "m" },
     .field (.plain "slots"),
     .field (.plain "max_mem")]⟩

instance : ToValue Memory where
  toValue m := .record schema [toValue m.size, toValue m.slots, toValue m.maxSize]

end Memory

/-- The topology of the processors: `-smp cpus=4,sockets=1,cores=2,threads=2`. -/
structure Processors where
  /-- Processors at the start. -/
  cpus : Option Nat := none
  /-- Processors that may be added up to. -/
  maxCpus : Option Nat := none
  /-- Sockets of the machine. -/
  sockets : Option Nat := none
  /-- Dies of a socket. -/
  dies : Option Nat := none
  /-- Clusters of a die. -/
  clusters : Option Nat := none
  /-- Cores of a cluster. -/
  cores : Option Nat := none
  /-- Threads of a core. -/
  threads : Option Nat := none

namespace Processors

/-- The fields of the topology. -/
def schema : Schema :=
  ⟨"Smp",
    [.group "smp",
     .field (.plain "cpus"),
     .field (.plain "max_cpus"),
     .field (.plain "sockets"),
     .field (.plain "dies"),
     .field (.plain "clusters"),
     .field (.plain "cores"),
     .field (.plain "threads")]⟩

instance : ToValue Processors where
  toValue p := .record schema
    [toValue p.cpus, toValue p.maxCpus, toValue p.sockets, toValue p.dies, toValue p.clusters,
     toValue p.cores, toValue p.threads]

end Processors

/-- The machine type and its accelerators: `-machine type=q35,accel=kvm:tcg`. -/
structure Board where
  /-- The machine type. -/
  kind : String := ""
  /-- Accelerators, the preferred one first. -/
  accelerators : List String := []
  /-- Guest memory is part of a core dump. -/
  dumpsGuestCore : Bool := false
  /-- The table of memory attributes. -/
  hmat : Option Bool := none

namespace Board

/-- The fields of the machine type. -/
def schema : Schema :=
  ⟨"Machine",
    [.group "machine",
     .field (.named "kind" "type"),
     .field { Field.named "accelerators" "accel" with separator := some ":" },
     .field (.kebab "dump_guest_core"),
     .field (.plain "hmat")]⟩

instance : ToValue Board where
  toValue b := .record schema
    [toValue b.kind, toValue b.accelerators, toValue b.dumpsGuestCore, toValue b.hmat]

end Board

/-- The name and the identifier of the guest: `-name vm0 -uuid <uuid>`. -/
structure Identity where
  /-- The name of the guest. -/
  name : String := ""
  /-- The identifier of the guest. -/
  uuid : Uuid := .nil

namespace Identity

/-- The fields of the identity, each in a group of its own. -/
def schema : Schema :=
  ⟨"Identifiers",
    [.field { Field.unnamed "name" with group := some "name" },
     .field { Field.unnamed "uuid" with group := some "uuid" }]⟩

instance : ToValue Identity where
  toValue i := .record schema [toValue i.name, toValue i.uuid]

end Identity

/-- The boot order of the firmware: `-boot order=dc,once=d`. -/
structure BootOrder where
  /-- Drives in the order in which they are tried. -/
  order : String := ""
  /-- The order at the first start. -/
  once : String := ""

namespace BootOrder

/-- The fields of the boot order. -/
def schema : Schema :=
  ⟨"Boot", [.group "boot", .field (.plain "order"), .field (.plain "once")]⟩

instance : ToValue BootOrder where
  toValue b := .record schema [toValue b.order, toValue b.once]

end BootOrder

/-- The place of a device in the boot order of the firmware, part of devices that can boot. -/
structure BootIndex where
  /-- The place, if the device takes part. -/
  index : Option Nat := none

namespace BootIndex

/-- The field of the boot index. -/
def schema : Schema :=
  ⟨"Bootable", [.field (.plain "boot_index")]⟩

instance : ToValue BootIndex where
  toValue b := .record schema [toValue b.index]

end BootIndex

/-- Options of any group: bare arguments, then properties by ascending key. -/
structure GenericDevice where
  /-- The option group. -/
  option : String := ""
  /-- Bare arguments in order. -/
  arguments : List String := []
  /-- Properties by key. -/
  properties : List (String × Property) := []

namespace GenericDevice

/-- The fields of a generic device. -/
def schema : Schema :=
  ⟨"GenericDevice",
    [.field { Field.unnamed "arguments" with repeated := true },
     .field (.plain "properties")]⟩

instance : ToValue GenericDevice where
  toValue d := .record schema [toValue d.arguments, toValue (Property.object d.properties)]

end GenericDevice

end MachineArgs
