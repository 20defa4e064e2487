import MachineArgs.Toml.Moment
import MachineArgs.Toml.Value

/-!
# Scalars

Values that are written without delimiters: truth values, dates, times and numbers. A decimal
number may have a sign and has no leading zeros; hexadecimal, octal and binary numbers have a
letter behind a zero and no sign. Digits may be grouped by single underscores.

A numeral is judged in two steps. Where it stands, only its outline counts: how it begins, where
its underscores are, and for a fraction which parts it has. Next to an underscore, the letters
that are hexadecimal digits pass for digits in every whole number, and what stands in between is
not looked at. So some numerals stand for no number, such as `1_a`, or `0x` without digits. They
are values all the same (`malformed`), and are an error only if someone asks for the number.
-/

namespace MachineArgs.Toml.Scalar

/-! ### Underscores -/

/-- Whether a character is a hexadecimal digit. -/
def isHexDigit (c : Char) : Bool :=
  (Text.hexValue? c).isSome

/-- A numeral without its underscores. Each of them has a digit on either side. -/
def ungroup (isDigit : Char → Bool) (cs : List Char) : Option (List Char) :=
  let groups := cs.splitOn '_'
  let opensWell := groups.tail.all fun group ↦ group.head?.any isDigit
  let closesWell := groups.dropLast.all fun group ↦ group.getLast?.any isDigit
  if opensWell && closesWell then some groups.flatten else none

/-! ### Whole numbers -/

/-- A decimal whole number by its digits, signed or not. -/
def ofDigits (cs : List Char) : Value :=
  match Text.readInteger cs with
  | some n => .whole n
  | none => .malformed

/-- The whole number of a stretch of digits of any base up to sixteen. -/
def ofBase (base : Nat) (digits : List Char) : Value :=
  match digits.mapM Text.hexValue? with
  | some (d :: ds) => .whole (ds.foldl (fun n d ↦ base * n + d) d : Nat)
  | _ => .malformed

/-- Whether a character is a digit of a base. -/
def isDigitOf (base : Nat) (c : Char) : Bool :=
  (Text.hexValue? c).any (· < base)

/-- Reads a whole number behind the letter of its base. -/
def readBased (base : Nat) (cs : List Char) : Option Value :=
  if cs.all fun c ↦ c == '_' || isDigitOf base c then (ungroup isHexDigit cs).map (ofBase base)
  else none

/-! ### Fractions -/

/-- Whether a character may stand in a group of digits. -/
def isGrouped (c : Char) : Bool :=
  c.isDigit || c == '_'

/-- Digits and underscores at the front of a text, with at least one digit, and the rest. -/
def takeGroups (cs : List Char) : Option (List Char × List Char) :=
  let groups := cs.takeWhile isGrouped
  if groups.any Char.isDigit then some (groups, cs.dropWhile isGrouped) else none

/-- The text behind the whole part of a fraction, which has no leading zero. -/
def dropWhole (cs : List Char) : Option (List Char) := do
  let (groups, rest) ← takeGroups cs
  if groups.head? = some '0' && 1 < groups.countP Char.isDigit then none else some rest

/-- The text behind the decimal places of a fraction, which may be missing. -/
def dropPlaces : List Char → Option (List Char)
  | '.' :: cs => (takeGroups cs).map (·.2)
  | cs => some cs

/-- The text behind the exponent of a fraction, which may be missing. -/
def dropExponent : List Char → Option (List Char)
  | [] => some []
  | c :: cs =>
    if c == 'e' || c == 'E' then (takeGroups (Text.Decimal.unsigned cs)).map (·.2)
    else some (c :: cs)

/-- Whether text without a sign has the outline of a fraction. -/
def isFraction (cs : List Char) : Bool :=
  (((dropWhole cs).bind dropPlaces).bind dropExponent).any List.isEmpty

/-- Reads a fraction, signed or not. -/
def readFraction (cs : List Char) : Option Value :=
  if isFraction (Text.Decimal.unsigned cs) then
    ((ungroup Char.isDigit cs).bind Text.Decimal.read?).map .fraction
  else none

/-! ### Scalars -/

/-- Whether a character marks a numeral as a fraction. -/
def marksFraction (c : Char) : Bool :=
  c == '.' || c == 'e' || c == 'E'

/-- Reads a decimal number. What stands behind its first digits tells which kind it is. -/
def readDecimal (cs : List Char) : Option Value :=
  let body := Text.Decimal.unsigned cs
  match body.dropWhile Char.isDigit with
  | [] =>
    if body.isEmpty || (body.head? = some '0' && 1 < body.length) then none
    else some (ofDigits cs)
  | c :: rest =>
    if c == '-' || c == ':' || (c :: rest).contains ' ' then none
    else if (c :: rest).any marksFraction then readFraction cs
    else if c == '_' && body.head? ≠ some '0' then (ungroup isHexDigit cs).map ofDigits
    else none

/-- Reads a number. -/
def readNumber : List Char → Option Value
  | '0' :: 'x' :: cs => readBased 16 cs
  | '0' :: 'o' :: cs => readBased 8 cs
  | '0' :: 'b' :: cs => readBased 2 cs
  | cs => readDecimal cs

/-- Whether text names an infinity or no number. -/
def isSpecial (cs : List Char) : Bool :=
  let body := Text.Decimal.unsigned cs
  body == "inf".toList || body == "nan".toList

/-- Reads a scalar. -/
def read? (cs : List Char) : Option Value :=
  if cs == "true".toList then some (.boolean true)
  else if cs == "false".toList then some (.boolean false)
  else if isSpecial cs then some .special
  else if Moment.isMoment cs then some .moment
  else readNumber cs

end MachineArgs.Toml.Scalar
