import MachineArgs.Text.Decimal

/-!
# Configuration values

The values that a configuration file holds. A table remembers how it came to be, because that
decides what may still be added to it:

* a table opened by a header takes entries below the header only;
* a table that a longer header or a dotted key runs through is open to more of the same kind;
* an inline table is complete.

An array remembers whether its elements are tables opened by headers, as only such an array grows.
-/

namespace MachineArgs.Toml

/-- How a table came to be. -/
inductive TableOrigin where
  /-- A header opened it, or it is the whole document. -/
  | header
  /-- A longer header runs through it. -/
  | implied
  /-- A dotted key runs through it. -/
  | dotted
  /-- It stands between braces. -/
  | inline
deriving DecidableEq

/-- A value in a configuration file. -/
inductive Value where
  /-- Text. -/
  | text (s : String)
  /-- A truth value. -/
  | boolean (b : Bool)
  /-- A whole number. -/
  | whole (n : Int)
  /-- A decimal fraction; its sign plays no part. -/
  | fraction (d : Text.Decimal)
  /-- An infinity, or no number. -/
  | special
  /-- A numeral that stands for no number. -/
  | malformed
  /-- A date, a time of day, or both. -/
  | moment
  /-- An array, and whether headers opened its elements. -/
  | array (byHeaders : Bool) (items : List Value)
  /-- A table. -/
  | table (origin : TableOrigin) (entries : List (String × Value))

/-- The entries of a table. -/
abbrev Entries : Type :=
  List (String × Value)

namespace Value

/-- The whole numbers that a reader can take in: those of 128 bits, signed or not. -/
def isReadable (n : Int) : Bool :=
  -(Text.capacity 127 : Int) ≤ n && n < Text.capacity 128

mutual

/-- Whether every number in a value can be taken in. -/
def fits : Value → Bool
  | whole n => isReadable n
  | fraction d => !d.overflows
  | malformed => false
  | array _ items => allFit items
  | table _ entries => entriesFit entries
  | _ => true

/-- Whether every number in some values can be taken in. -/
def allFit : List Value → Bool
  | [] => true
  | v :: vs => v.fits && allFit vs

/-- Whether every number in some entries can be taken in. -/
def entriesFit : List (String × Value) → Bool
  | [] => true
  | (_, v) :: entries => v.fits && entriesFit entries

end

end Value

end MachineArgs.Toml
