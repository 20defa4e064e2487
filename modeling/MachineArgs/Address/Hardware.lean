import MachineArgs.Text.Numeral
import MachineArgs.Value

/-!
# Hardware addresses

The 48-bit address of a network interface, written as six pairs of lower-case hexadecimal digits
between colons. Reading also takes capital digits and hyphens, and a pair may be a plus sign with
one digit. `forIndex` is the locally administered address that an interface without an address
of its own gets from its number.
-/

namespace MachineArgs

/-- Six octets, the first one first. -/
structure HardwareAddress where
  /-- The octets in the order in which they are written. -/
  octets : List UInt8
  /-- There are six. -/
  length_octets : octets.length = 6 := by rfl
deriving DecidableEq

namespace HardwareAddress

/-- The address of the interface with the given number: `0e:00` and the number plus one. -/
def forIndex (index : UInt32) : HardwareAddress :=
  let n := index + 1
  { octets := [0x0e, 0x00, (n >>> 24).toUInt8, (n >>> 16).toUInt8, (n >>> 8).toUInt8, n.toUInt8] }

/-- The written form. -/
def text (a : HardwareAddress) : String :=
  String.ofList ([':'].intercalate (a.octets.map Text.hexPair))

/-- One octet: two hexadecimal digits, or a plus sign and one. -/
def readOctet : List Char → Option UInt8
  | ['+', low] => (Text.readHex [low]).map UInt8.ofNat
  | [high, low] => (Text.readHex [high, low]).map UInt8.ofNat
  | _ => none

/-- The octets between separators, a hyphen counting as a colon. -/
def readOctets (cs : List Char) : Option (List UInt8) :=
  ((cs.map fun c ↦ if c = '-' then ':' else c).splitOn ':').mapM readOctet

/-- Reads an address, taking the whole text or refusing it. -/
def read? (s : String) : Option HardwareAddress :=
  match readOctets s.toList with
  | none => none
  | some octets => if h : octets.length = 6 then some ⟨octets, h⟩ else none

instance : ToValue HardwareAddress := ⟨fun a ↦ .text a.text⟩

end HardwareAddress

end MachineArgs
