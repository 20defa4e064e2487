import MachineArgs.Text.Numeral
import MachineArgs.Value

/-!
# Internet addresses

Addresses of 32 bits, written as four decimal numbers between dots, and of 128 bits, written as
eight hexadecimal groups between colons. In the second form the first of the longest runs of at
least two zero groups is written `::`, and an address that embeds one of the first kind behind
`::ffff` shows it in dotted form.

Reading takes a stretch of text from the front and returns the rest. Numbers take as many digits
as there are and are refused if those are too many; a dotted number has no superfluous zero. Any
two groups of the long form may be a dotted address at its end, and `::` stands for at least one
zero group.
-/

namespace MachineArgs

/-- Four octets. -/
structure ShortAddress where
  /-- The octets in the order in which they are written. -/
  octets : List UInt8
  /-- There are four. -/
  length_octets : octets.length = 4 := by rfl
deriving DecidableEq

namespace ShortAddress

/-- The written form, as characters. -/
def chars (a : ShortAddress) : List Char :=
  ['.'].intercalate (a.octets.map fun octet ↦ Nat.toDigits 10 octet.toNat)

/-- A decimal number of at most 255, without superfluous zeros, and the text after it. -/
def takeOctet (cs : List Char) : Option (UInt8 × List Char) :=
  let digits := cs.takeWhile Char.isDigit
  let n := Nat.ofDigitChars 10 digits 0
  if digits.isEmpty || 3 < digits.length || (digits.head? == some '0' && 1 < digits.length) ||
      255 < n then none
  else some (UInt8.ofNat n, cs.dropWhile Char.isDigit)

/-- As many further octets as `count` says, each behind a dot. -/
def takeMore : (count : Nat) → List Char → Option (List UInt8 × List Char)
  | 0, cs => some ([], cs)
  | count + 1, '.' :: cs => do
    let (octet, cs) ← takeOctet cs
    let (octets, cs) ← takeMore count cs
    return (octet :: octets, cs)
  | _ + 1, _ => none

/-- An address at the front of a text, and the text after it. -/
def take? (cs : List Char) : Option (ShortAddress × List Char) := do
  let (first, cs) ← takeOctet cs
  let (more, cs) ← takeMore 3 cs
  if h : (first :: more).length = 4 then return (⟨first :: more, h⟩, cs) else none

end ShortAddress

/-- Eight groups of 16 bits. -/
structure LongAddress where
  /-- The groups in the order in which they are written. -/
  groups : List UInt16
  /-- There are eight. -/
  length_groups : groups.length = 8 := by rfl
deriving DecidableEq

namespace LongAddress

/-- The two octets of a group. -/
def octetsOf (group : UInt16) : List UInt8 :=
  [(group >>> 8).toUInt8, group.toUInt8]

/-- The group of two octets. -/
def groupOf (high low : UInt8) : UInt16 :=
  high.toUInt16 <<< 8 ||| low.toUInt16

/-- The short address that a long one embeds behind `::ffff`. -/
def embedded? (a : LongAddress) : Option ShortAddress :=
  match a.groups with
  | [0, 0, 0, 0, 0, 0xffff, high, low] => some { octets := octetsOf high ++ octetsOf low }
  | _ => none

/-- The number of zero groups at the front. -/
def leadingZeros (groups : List UInt16) : Nat :=
  (groups.takeWhile (· == 0)).length

/-- Start and length of the first of the longest runs of zero groups; `offset` is the position
of the first group. -/
def longestRun (offset : Nat) : List UInt16 → Nat × Nat
  | [] => (offset, 0)
  | group :: groups =>
    let here := leadingZeros (group :: groups)
    let later := longestRun (offset + 1) groups
    if later.2 ≤ here then (offset, here) else later

/-- Groups in hexadecimal between colons. -/
def groupChars (groups : List UInt16) : List Char :=
  [':'].intercalate (groups.map fun group ↦ Nat.toDigits 16 group.toNat)

/-- The written form, as characters. -/
def chars (a : LongAddress) : List Char :=
  match a.embedded? with
  | some short => [':', ':', 'f', 'f', 'f', 'f', ':'] ++ short.chars
  | none =>
    let (start, length) := longestRun 0 a.groups
    if 1 < length then
      groupChars (a.groups.take start) ++ [':', ':'] ++
        groupChars (a.groups.drop (start + length))
    else
      groupChars a.groups

/-- A hexadecimal group of at most four digits, and the text after it. -/
def takeGroup (cs : List Char) : Option (UInt16 × List Char) :=
  let digits := cs.takeWhile fun c ↦ (Text.hexValue? c).isSome
  if 4 < digits.length then none
  else (Text.readHex digits).map fun n ↦ (UInt16.ofNat n, cs.drop digits.length)

/-- The text behind the colon that every group but the first needs. -/
def takeColon (isFirst : Bool) : List Char → Option (List Char)
  | ':' :: cs => if isFirst then some (':' :: cs) else some cs
  | cs => if isFirst then some cs else none

/-- At most `limit` groups at the front of a text, whether the last two were a dotted address,
and the text after them. -/
def takeGroups :
    (limit : Nat) → (isFirst : Bool) → List Char → List UInt16 × Bool × List Char
  | 0, _, cs => ([], false, cs)
  | limit + 1, isFirst, cs =>
    match takeColon isFirst cs with
    | none => ([], false, cs)
    | some body =>
      let dotted? := if limit = 0 then none else ShortAddress.take? body
      match dotted? with
      | some (⟨[a, b, c, d], _⟩, rest) => ([groupOf a b, groupOf c d], true, rest)
      | _ =>
        match takeGroup body with
        | none => ([], false, cs)
        | some (group, rest) =>
          let (groups, isDotted, rest) := takeGroups limit false rest
          (group :: groups, isDotted, rest)

/-- The address with the given groups around a run of zeros that fills it up. -/
def around (front back : List UInt16) : Option LongAddress :=
  let groups := front ++ List.replicate (8 - front.length - back.length) 0 ++ back
  if h : groups.length = 8 then some ⟨groups, h⟩ else none

/-- An address at the front of a text, and the text after it. -/
def take? (cs : List Char) : Option (LongAddress × List Char) :=
  match takeGroups 8 true cs with
  | (front, isDotted, rest) =>
    if front.length = 8 then (around front []).map (·, rest)
    else if isDotted then none
    else match rest with
      | ':' :: ':' :: rest =>
        let (back, _, rest) := takeGroups (7 - front.length) true rest
        (around front back).map (·, rest)
      | _ => none

end LongAddress

/-- An internet address of either kind. -/
inductive InternetAddress where
  /-- 32 bits. -/
  | short (a : ShortAddress)
  /-- 128 bits. -/
  | long (a : LongAddress)
deriving DecidableEq

namespace InternetAddress

/-- The number of bits. -/
def width : InternetAddress → Nat
  | short _ => 32
  | long _ => 128

/-- Whether the address has 32 bits. -/
def isShort : InternetAddress → Bool
  | short _ => true
  | long _ => false

/-- The written form, as characters. -/
def chars : InternetAddress → List Char
  | short a => a.chars
  | long a => a.chars

/-- The written form. -/
def text (a : InternetAddress) : String :=
  String.ofList a.chars

/-- An address at the front of a text; the dotted form is tried first. -/
def take? (cs : List Char) : Option (InternetAddress × List Char) :=
  match ShortAddress.take? cs with
  | some (a, rest) => some (short a, rest)
  | none => (LongAddress.take? cs).map fun (a, rest) ↦ (long a, rest)

/-- Reads characters, taking all of them or refusing. -/
def ofChars? (cs : List Char) : Option InternetAddress :=
  match take? cs with
  | some (a, []) => some a
  | _ => none

/-- Reads an address, taking the whole text or refusing it. -/
def read? (s : String) : Option InternetAddress :=
  ofChars? s.toList

instance : ToValue InternetAddress := ⟨fun a ↦ .text a.text⟩

end InternetAddress

end MachineArgs
