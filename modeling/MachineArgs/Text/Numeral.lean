/-!
# Numerals

Reading whole numbers in decimal and hexadecimal, with the signs that each kind admits, and
writing two-digit hexadecimal. A reader takes the whole text or refuses it; leading zeros are
always allowed, a separator or a blank never is.
-/

namespace MachineArgs.Text

/-- How many numbers there are of the given number of binary digits. -/
def capacity (bits : Nat) : Nat :=
  Nat.pow 2 bits

/-- The number that a non-empty stretch of decimal digits stands for. -/
def readDigits (cs : List Char) : Option Nat :=
  if !cs.isEmpty && cs.all Char.isDigit then some (Nat.ofDigitChars 10 cs 0) else none

/-- An unsigned decimal numeral, which may carry a plus sign. -/
def readNatural : List Char → Option Nat
  | '+' :: cs => readDigits cs
  | cs => readDigits cs

/-- A decimal numeral with an optional sign. -/
def readInteger : List Char → Option Int
  | '-' :: cs => (readDigits cs).map fun n ↦ -(n : Int)
  | cs => (readNatural cs).map fun n ↦ (n : Int)

/-- An unsigned decimal numeral that must not exceed `bound`. -/
def readBounded (bound : Nat) (cs : List Char) : Option Nat :=
  (readNatural cs).filter (· ≤ bound)

/-- The value of a hexadecimal digit of either case. -/
def hexValue? (c : Char) : Option Nat :=
  if c.isDigit then some (c.toNat - '0'.toNat)
  else if 'a' ≤ c && c ≤ 'f' then some (c.toNat - 'a'.toNat + 10)
  else if 'A' ≤ c && c ≤ 'F' then some (c.toNat - 'A'.toNat + 10)
  else none

/-- The number that hexadecimal digits stand for after the digits of `init`. -/
def hexFrom (init : Nat) (cs : List Char) : Option Nat :=
  cs.foldlM (fun n c ↦ (hexValue? c).map (16 * n + ·)) init

/-- The number that a non-empty stretch of hexadecimal digits stands for. -/
def readHex (cs : List Char) : Option Nat :=
  if cs.isEmpty then none else hexFrom 0 cs

/-- Two lower-case hexadecimal digits, the high one first. -/
def hexPair (byte : UInt8) : List Char :=
  [Nat.digitChar (byte.toNat / 16), Nat.digitChar (byte.toNat % 16)]

/-- Writing a digit and reading it gives the digit back. -/
theorem hexValue?_digitChar {n : Nat} (h : n < 16) : hexValue? (Nat.digitChar n) = some n := by
  have all : ∀ m : Fin 16, hexValue? (Nat.digitChar m) = some m.val := by decide
  exact all ⟨n, h⟩

/-- Writing a byte and reading it gives the byte back. -/
theorem readHex_hexPair (byte : UInt8) : readHex (hexPair byte) = some byte.toNat := by
  have hlt : byte.toNat < 256 := byte.toNat_lt
  have high := hexValue?_digitChar (n := byte.toNat / 16) (by omega)
  have low := hexValue?_digitChar (n := byte.toNat % 16) (by omega)
  simp only [readHex, hexPair, hexFrom, List.isEmpty_cons, Bool.false_eq_true, if_false,
    List.foldlM_cons, List.foldlM_nil, high, low, Option.map_some]
  simp only [bind, pure, Option.bind_some, Option.some.injEq]
  omega

end MachineArgs.Text
