import MachineArgs.Text.Case

/-!
# Hyphenated lower-case words

`camelCase`, `SHOUTING` and `snake_case` identifiers become words joined by hyphens, such as
`detect-zeroes` and `http-server`. Underscores and hyphens separate words; so does the step from
a lower-case letter or an ASCII digit to a capital, and the step from a capital to a capital that
a lower-case letter follows.

One pass suffices. It carries whether a hyphen would be superfluous (nothing was written yet, or
a hyphen was written last) and the character before the current one.
-/

namespace MachineArgs.Text

/-- Characters that separate words. -/
def isSeparator (c : Char) : Bool :=
  c == '_' || c == '-'

/-- Whether a word starts at `c`, by the character before it and the text after it. -/
def startsWord (before? : Option Char) (c : Char) (rest : List Char) : Bool :=
  match before? with
  | none => false
  | some before =>
    Case.isUpper c &&
      (Case.isLower before || before.isDigit ||
        (Case.isUpper before && (rest.head?.any Case.isLower)))

/-- The hyphenated form of text that follows `before?`; `atBreak` says that a hyphen would be
superfluous here. -/
def kebabAfter (atBreak : Bool) (before? : Option Char) : List Char → List Char
  | [] => []
  | c :: rest =>
    if isSeparator c then
      (if atBreak then [] else ['-']) ++ kebabAfter true (some c) rest
    else
      (if startsWord before? c rest then ['-'] else []) ++ Case.lower c ++
        kebabAfter false (some c) rest

/-- The hyphenated lower-case form of an identifier. -/
def kebab (ident : List Char) : List Char :=
  kebabAfter true none ident

/-- The hyphenated lower-case form of an identifier, as a string. -/
def kebabCase (ident : String) : String :=
  String.ofList (kebab ident.toList)

end MachineArgs.Text
