import MachineArgs.Address.Network
import MachineArgs.Device.Machine
import MachineArgs.Device.Reference
import MachineArgs.Encoding
import MachineArgs.Handle

/-!
# Networking

Backends are options of the group `netdev` and share their first two slots, the kind of backend
and its name. A network card is an option of the group `device` and refers to its backend.
-/

namespace MachineArgs

/-- The kind and the name of a backend: `-netdev <kind>,id=<name>`. -/
structure NetworkPeer where
  /-- The kind of backend. -/
  kind : String
  /-- The name of the backend. -/
  name : String

namespace NetworkPeer

/-- The fields that every backend starts with. -/
def schema : Schema :=
  ⟨"NetworkPeer", [.group "netdev", .field (.unnamed "kind"), .field (.named "name" "id")]⟩

instance : ToValue NetworkPeer where
  toValue p := .record schema [toValue p.kind, toValue p.name]

end NetworkPeer

/-- Networking in user mode. -/
structure UserNetwork where
  /-- The name of the backend. -/
  name : String := ""
  /-- The network that the guest sees. -/
  net : Option Network := none
  /-- The first address that is given out. -/
  dhcpStart : Option InternetAddress := none
  /-- Forwards from the host, such as `tcp::2222-:22`. -/
  hostForwards : List String := []
  /-- Forwards from the guest. -/
  guestForwards : List String := []

namespace UserNetwork

/-- The fields of networking in user mode. -/
def schema : Schema :=
  ⟨"UserNetwork",
    [.field (.embedded "peer"),
     .field (.plain "net"),
     .field (.plain "dhcp_start"),
     .field { Field.plain "host_fwd" with repeated := true },
     .field { Field.plain "guest_fwd" with repeated := true }]⟩

instance : ToValue UserNetwork where
  toValue n := .record schema
    [toValue (NetworkPeer.mk "user" n.name), toValue n.net, toValue n.dhcpStart,
     toValue n.hostForwards, toValue n.guestForwards]

end UserNetwork

/-- A backend over network taps, one inherited descriptor per queue: `-netdev
tap,id=tap0,fds=3:4`. -/
structure TapNetwork where
  /-- The name of the backend. -/
  name : String := ""
  /-- The taps, one per queue. -/
  queues : List Handle := []

namespace TapNetwork

/-- The field of the numbers of the taps, which share one slot. -/
def fdsField : Field :=
  { Field.plain "fds" with separator := some ":" }

/-- The fields of a tap backend. -/
def schema : Schema :=
  ⟨"TapNetwork", [.field (.embedded "peer"), .field fdsField]⟩

/-- The value of a tap backend whose taps have the given numbers. -/
def valueWith (n : TapNetwork) (fds : List Nat) : Value :=
  .record schema [toValue (NetworkPeer.mk "tap" n.name), toValue fds]

/-- The numbers of the taps. -/
def indices : List Handle → Except Error (List Nat)
  | [] => .ok []
  | h :: hs => do
    let index ← h.requireIndex
    let rest ← indices hs
    return index :: rest

/-- The value of a tap backend, which needs at least one tap. -/
def value (n : TapNetwork) : Except Error Value :=
  if n.queues.isEmpty then .error (.noResources ("tap(" ++ n.name ++ ")"))
  else do
    let fds ← indices n.queues
    return n.valueWith fds

/-- The arguments of a tap backend. -/
def args (n : TapNetwork) : Except Error (List String) := do
  let v ← n.value
  v.args none

end TapNetwork

/-- A network card. Without an address of its own it has the one that belongs to its number. -/
structure NetworkCard where
  /-- The model of the card. -/
  model : String := ""
  /-- Its place in the boot order. -/
  boot : BootIndex := {}
  /-- The number of the card. -/
  index : UInt32 := 0
  /-- The address, if it is given. -/
  address : Option HardwareAddress := none
  /-- The backend. -/
  peer : Reference := {}

namespace NetworkCard

/-- The group of network cards. -/
def group : String :=
  "device"

/-- The fields of a network card. -/
def schema : Schema :=
  ⟨"Nic",
    [.field (.unnamed "model"),
     .field (.embedded "bootable"),
     .field (.plain "mac"),
     .field (.named "peer" "netdev")]⟩

/-- The address that the card has in the guest. -/
def effectiveAddress (c : NetworkCard) : HardwareAddress :=
  c.address.getD (.forIndex c.index)

instance : ToValue NetworkCard where
  toValue c := .record schema
    [toValue c.model, toValue c.boot, toValue c.effectiveAddress, toValue c.peer]

end NetworkCard

end MachineArgs
