import MachineArgs.Address.Hardware
import MachineArgs.Address.Internet

/-!
# Networks

An internet address with the length of its network part, written `192.168.1.1/24`. The length is
at most the width of the address; reading checks this. Reading an address that cannot be read
gives an `AddressError`, which keeps the text for its message.
-/

namespace MachineArgs

/-- An address and the number of its leading bits that name the network. -/
structure Network where
  /-- The address. -/
  address : InternetAddress
  /-- The length of the network part in bits. -/
  bits : Nat
deriving DecidableEq

namespace Network

/-- The written form, as characters. -/
def chars (n : Network) : List Char :=
  n.address.chars ++ '/' :: Nat.toDigits 10 n.bits

/-- The written form. -/
def text (n : Network) : String :=
  String.ofList n.chars

/-- Reads characters: an address, a slash, and a length within the width of the address. -/
def ofChars? (cs : List Char) : Option Network :=
  match cs.dropWhile (· != '/') with
  | _ :: bits => do
    let address ← InternetAddress.ofChars? (cs.takeWhile (· != '/'))
    let bits ← Text.readBounded address.width bits
    return { address, bits }
  | [] => none

/-- Reads a network, taking the whole text or refusing it. -/
def read? (s : String) : Option Network :=
  ofChars? s.toList

instance : ToValue Network := ⟨fun n ↦ .text n.text⟩

end Network

/-- Text that does not stand for an address. -/
inductive AddressError where
  /-- No hardware address. -/
  | hardware (text : String)
  /-- No network. -/
  | network (text : String)

namespace AddressError

/-- The wording of an error. -/
def message : AddressError → String
  | hardware text => "invalid MAC address '" ++ text ++ "'"
  | network text => "invalid network '" ++ text ++ "', expected <address>/<prefix>"

end AddressError

/-- Reads a hardware address or says that there is none. -/
def HardwareAddress.parse (s : String) : Except AddressError HardwareAddress :=
  match HardwareAddress.read? s with
  | some a => .ok a
  | none => .error (.hardware s)

/-- Reads a network or says that there is none. -/
def Network.parse (s : String) : Except AddressError Network :=
  match Network.read? s with
  | some n => .ok n
  | none => .error (.network s)

end MachineArgs
