import MachineArgs.Binary
import MachineArgs.Text.Decimal
import MachineArgs.Value

/-!
# Free-form properties

Properties are trees of null, truth values, numbers, text, lists and objects. Objects are written
by ascending key. Of numbers, the whole ones between `-2^63` and `2^64 - 1` have a rendering;
every other number is of a kind without one, and so is a negative zero. Null contributes nothing.
-/

namespace MachineArgs

/-- The kind of numbers without a rendering. -/
def fractionKind : String :=
  "f64"

/-- The value of a fraction: without a rendering, and a zero if it is one. -/
def Value.ofFraction (isZero : Bool) : Value :=
  .zeroIf isZero (.unsupported fractionKind)

/-- The value of a fraction by its text, which is rounded once; text that is no decimal names an
infinity or no number at all. -/
def Value.ofFractionText (s : String) : Value :=
  .ofFraction ((Text.Decimal.read? s.toList).any Text.Decimal.roundsToZero)

/-- A free-form property. -/
inductive Property where
  /-- No value. -/
  | null
  /-- A truth value. -/
  | boolean (b : Bool)
  /-- A whole number. -/
  | whole (n : Int)
  /-- A number that was not written as a whole number, without its sign. -/
  | fraction (x : Binary)
  /-- Text. -/
  | text (s : String)
  /-- A list. -/
  | list (items : List Property)
  /-- Entries by key. -/
  | object (entries : List (String × Property))

namespace Property

/-- Whether a whole number has a rendering. -/
def isRenderable (n : Int) : Bool :=
  -(Text.capacity 63 : Int) ≤ n && n < Text.capacity 64

/-- The value of a whole number: unsigned if it can be. -/
def wholeValue (n : Int) : Value :=
  if isRenderable n then
    if 0 ≤ n then .natural n.toNat else .integer n
  else
    .unsupported fractionKind

mutual

/-- The value of a property. -/
def lower : Property → Value
  | null => .absent
  | boolean b => .boolean b
  | whole n => wholeValue n
  | fraction x => .ofFraction x.isZero
  | text s => .string s
  | list items => .list (lowerAll items)
  | object entries => .ofEntries (lowerEntries entries)

/-- The values of properties. -/
def lowerAll : List Property → List Value
  | [] => []
  | p :: ps => p.lower :: lowerAll ps

/-- The values of entries. -/
def lowerEntries : List (String × Property) → List (String × Value)
  | [] => []
  | (key, p) :: entries => (key, p.lower) :: lowerEntries entries

end

@[simp]
theorem lowerAll_eq_map (ps : List Property) : lowerAll ps = ps.map lower := by
  induction ps with
  | nil => rfl
  | cons p ps ih => simp [lowerAll, ih]

@[simp]
theorem lowerEntries_eq_map (entries : List (String × Property)) :
    lowerEntries entries = entries.map fun (key, p) ↦ (key, p.lower) := by
  induction entries with
  | nil => rfl
  | cons e entries ih => simp [lowerEntries, ih]

/-! ### Literals -/

/-- How many binary digits the significant digits of a literal may take up. -/
def significantBits : Nat :=
  64

/-- Appends decimal digits to a number while it stays small enough; gives the digits left over
as well. -/
def appendDigits (n : Nat) : List Char → Nat × List Char
  | [] => (n, [])
  | c :: cs =>
    let next := 10 * n + (c.toNat - '0'.toNat)
    if next < Text.capacity significantBits then appendDigits next cs else (n, c :: cs)

/-- The number that a literal with a fraction or an exponent stands for. Its significant digits
are a whole number of 64 bits; further digits in front of the point only scale it, and further
digits behind the point do not count. -/
def ofParts (p : Text.Decimal.Parts) : Option Binary :=
  let (front, scaling) := appendDigits 0 p.whole
  let (significand, ignored) := appendDigits front p.fraction
  (Binary.ofRatio significand 1).scale
    (p.exponent + scaling.length + ignored.length - p.fraction.length)

/-- The number that a literal stands for. A whole literal is one without fraction and exponent,
other than a negative zero. -/
def ofLiteral? (s : String) : Option Property :=
  match s.toList with
  | ['-', '0'] => some (fraction ⟨0⟩)
  | cs =>
    match Text.readInteger cs with
    | some n => some (whole n)
    | none => ((Text.Decimal.split? cs).bind ofParts).map fraction

instance : ToValue Property := ⟨lower⟩

end Property

end MachineArgs
