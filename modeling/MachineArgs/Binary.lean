import MachineArgs.Text.Numeral

/-!
# Binary fractions

Non-negative numbers with 53 significant binary digits and an exponent of eleven bits. Each is a
whole multiple of the least positive one, `2 ^ -1074`, so a number is held as its count of such
units and every operation is exact until it rounds. A quotient becomes the nearest number
(`ofRatio`); halfway between two it becomes the one whose last digit is even.

A number is scaled by a power of ten in steps of at most `10 ^ 308`, and each step rounds. The
result may differ from the nearest number to the exact product: that is what is wanted here.
-/

namespace MachineArgs

/-- A binary fraction. -/
structure Binary where
  /-- How many times it holds `2 ^ -1074`. -/
  units : Nat
deriving DecidableEq

namespace Binary

/-! ### Rounding -/

/-- The units of the number one. -/
def unitsOfOne : Nat :=
  Text.capacity 1074

/-- How many binary digits are significant. -/
def precision : Nat :=
  53

/-- The whole number nearest to a quotient, and of two the even one. -/
def roundDiv (num den : Nat) : Nat :=
  let twice := 2 * (num % den)
  if twice < den then num / den
  else if den < twice then num / den + 1
  else num / den + num / den % 2

/-- The distance between neighbours around a number of units. -/
def spacing (units : Nat) : Nat :=
  Text.capacity (units.log2 + 1 - precision)

/-- The number nearest to a quotient. -/
def ofRatio (num den : Nat) : Binary :=
  let step := spacing (num * unitsOfOne / den)
  ⟨step * roundDiv (num * unitsOfOne) (den * step)⟩

/-! ### Scaling -/

/-- Whether the number is zero. -/
def isZero (x : Binary) : Bool :=
  x.units == 0

/-- Whether the number is in range, below `2 ^ 1024`. -/
def isFinite (x : Binary) : Bool :=
  x.units < Text.capacity 1024 * unitsOfOne

/-- The number nearest to a power of ten. -/
def powerOfTen (places : Nat) : Binary :=
  ofRatio (Nat.pow 10 places) 1

/-- The greatest power of ten in range. -/
def maxPlaces : Nat :=
  308

/-- The number nearest to a product. -/
def mul (x y : Binary) : Binary :=
  ofRatio (x.units * y.units) (unitsOfOne * unitsOfOne)

/-- The number nearest to a quotient of numbers. -/
def div (x y : Binary) : Binary :=
  ofRatio x.units y.units

/-- Scales up by a power of ten, unless the result is out of range. -/
def scaleUp (x : Binary) (places : Nat) : Option Binary :=
  if x.isZero then some x
  else if places ≤ maxPlaces then some (x.mul (powerOfTen places)) |>.filter isFinite
  else none

/-- Scales down by a power of ten, step by step. -/
def scaleDown (x : Binary) (places : Nat) : Binary :=
  if places ≤ maxPlaces then x.div (powerOfTen places)
  else if x.isZero then x
  else scaleDown (x.div (powerOfTen maxPlaces)) (places - maxPlaces)
termination_by places
decreasing_by simp only [maxPlaces] at *; omega

/-- Scales by a power of ten. -/
def scale (x : Binary) : Int → Option Binary
  | .ofNat places => x.scaleUp places
  | .negSucc places => some (x.scaleDown (places + 1))

end Binary

end MachineArgs
