import MachineArgs.Text.Numeral
import MachineArgs.Value

/-!
# Identifiers

Identifiers of 128 bits in their hyphenated form: sixteen octets in lower-case hexadecimal, in
stretches of four, two, two, two and six. The identifier of zeros alone is a zero value that still
has a written form.
-/

namespace MachineArgs

/-- Sixteen octets. -/
structure Uuid where
  /-- The octets in the order in which they are written. -/
  octets : List UInt8
  /-- There are sixteen. -/
  length_octets : octets.length = 16
deriving DecidableEq

namespace Uuid

/-- The identifier of zeros alone. -/
def nil : Uuid :=
  ⟨List.replicate 16 0, rfl⟩

instance : Inhabited Uuid := ⟨nil⟩

/-- Whether all octets are zero. -/
def isNil (u : Uuid) : Bool :=
  u.octets.all (· == 0)

/-- The numbers of octets between hyphens. -/
def stretches : List Nat :=
  [4, 2, 2, 2, 6]

/-- Cuts a list into pieces of the given lengths. -/
def cut {α : Type} : List Nat → List α → List (List α)
  | [], _ => []
  | n :: ns, l => l.take n :: cut ns (l.drop n)

/-- The written form. -/
def text (u : Uuid) : String :=
  String.ofList (['-'].intercalate ((cut stretches u.octets).map (·.flatMap Text.hexPair)))

/-- Octets of pairs of hexadecimal digits. -/
def readOctets : List Char → Option (List UInt8)
  | [] => some []
  | high :: low :: cs => do
    let n ← Text.readHex [high, low]
    let octets ← readOctets cs
    return UInt8.ofNat n :: octets
  | [_] => none

/-- Reads the hyphenated form, in either case. -/
def read? (s : String) : Option Uuid := do
  let pieces := s.toList.splitOn '-'
  if pieces.map List.length ≠ stretches.map (2 * ·) then none
  let octets ← readOctets pieces.flatten
  if h : octets.length = 16 then return ⟨octets, h⟩ else none

/-- The identifier of sixteen random octets, four of whose bits give the version and two the
variant. -/
def ofRandom? (random : List UInt8) : Option Uuid :=
  let octets := random.mapIdx fun i octet ↦
    if i = 6 then (octet &&& 0x0f) ||| 0x40
    else if i = 8 then (octet &&& 0x3f) ||| 0x80
    else octet
  if h : octets.length = 16 then some ⟨octets, h⟩ else none

instance : ToValue Uuid := ⟨fun u ↦ .zeroIf u.isNil (.text u.text)⟩

end Uuid

end MachineArgs
