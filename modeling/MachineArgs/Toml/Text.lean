import MachineArgs.Text.Numeral

/-!
# Text in configuration files

Text stands between quotes: basic text between double quotes, with escapes, and literal text
between apostrophes, without. Three quotes start text of several lines; a newline right behind
them does not count, and one or two quotes may stand in front of the three that end it. In basic
text of several lines a backslash at the end of a line hides all blanks and newlines behind it.

Taking text apart has two steps: finding the end (`takeLine`, `takeLines`) and reading what stands
before it (`readLiteral`, `unescape`). Control characters other than tab are refused everywhere.
-/

namespace MachineArgs.Toml

/-- Blanks within a line. -/
def isSpace (c : Char) : Bool :=
  c == ' ' || c == '\t'

/-- Characters that stand nowhere in a file, apart from those that end a line. -/
def isControl (c : Char) : Bool :=
  (c < ' ' && c != '\t') || c == '\x7f'

/-- The text behind the newline at the start of a text. -/
def dropNewline? : List Char → Option (List Char)
  | '\n' :: cs => some cs
  | '\r' :: '\n' :: cs => some cs
  | _ => none

namespace Quotation

/-- Which quotes stand around a text. -/
inductive Kind where
  /-- Double quotes: there are escapes. -/
  | basic
  /-- Apostrophes: there are none. -/
  | literal
deriving DecidableEq

/-- The quote of a kind. -/
def Kind.quote : Kind → Char
  | basic => '"'
  | literal => '\''

/-- What stands before the quote that ends a line of text, and the rest. In basic text a
backslash protects the character behind it. -/
def takeLine (kind : Kind) : List Char → Option (List Char × List Char)
  | [] => none
  | c :: cs =>
    if c == kind.quote then some ([], cs)
    else if c == '\n' then none
    else if c == '\\' && kind = .basic then
      match cs with
      | [] => none
      | c' :: cs => (takeLine kind cs).map fun (body, rest) ↦ (c :: c' :: body, rest)
    else (takeLine kind cs).map fun (body, rest) ↦ (c :: body, rest)

/-- What stands before the three quotes that end text of several lines, and the rest. -/
def takeLines (kind : Kind) : List Char → Option (List Char × List Char)
  | [] => none
  | c :: cs =>
    if c == kind.quote && cs.take 2 == [kind.quote, kind.quote] then
      let extra := ((cs.drop 2).takeWhile (· == kind.quote)).take 2
      some (extra, cs.drop (2 + extra.length))
    else if c == '\\' && kind = .basic then
      match cs with
      | [] => none
      | c' :: cs => (takeLines kind cs).map fun (body, rest) ↦ (c :: c' :: body, rest)
    else (takeLines kind cs).map fun (body, rest) ↦ (c :: body, rest)

/-- Reads characters that stand for themselves. Text of several lines keeps its newlines as they
are. -/
def readLiteral (isLong : Bool) : List Char → Option (List Char)
  | [] => some []
  | c :: cs =>
    if isLong && c == '\n' then (readLiteral isLong cs).map ('\n' :: ·)
    else if isLong && c == '\r' && cs.head? = some '\n' then (readLiteral isLong cs).map (c :: ·)
    else if isControl c then none
    else (readLiteral isLong cs).map (c :: ·)

/-- What a letter behind a backslash stands for. -/
def escaped? (c : Char) : Option Char :=
  match c with
  | 'b' => some '\x08'
  | 't' => some '\t'
  | 'n' => some '\n'
  | 'f' => some '\x0c'
  | 'r' => some '\r'
  | 'e' => some '\x1b'
  | '"' => some '"'
  | '\\' => some '\\'
  | _ => none

/-- How many hexadecimal digits follow a letter behind a backslash. -/
def escapeWidth? (c : Char) : Option Nat :=
  match c with
  | 'x' => some 2
  | 'u' => some 4
  | 'U' => some 8
  | _ => none

/-- The character of a number in hexadecimal. -/
def readCode (cs : List Char) : Option Char :=
  (Text.readHex cs).bind fun n ↦ if n.isValidChar then some (Char.ofNat n) else none

/-- Whether a line ends here but for blanks. -/
def endsLine (cs : List Char) : Bool :=
  (dropNewline? (cs.dropWhile isSpace)).isSome

/-- What the reader of basic text is in the middle of. -/
inductive Mode where
  /-- Nothing. -/
  | plain
  /-- Blanks and newlines behind a backslash at the end of a line. -/
  | hidden
  /-- The digits of an escape: the ones so far, and how many follow. -/
  | code (digits : List Char) (missing : Nat)
  /-- An escape whose letter comes next. -/
  | escape

/-- Reads the rest of basic text. -/
def unescape (isLong : Bool) : Mode → List Char → Option (List Char)
  | .plain, [] | .hidden, [] => some []
  | _, [] => none
  | .escape, c :: cs =>
    match escapeWidth? c with
    | some width => unescape isLong (.code [] width) cs
    | none =>
      match escaped? c with
      | some c' => (unescape isLong .plain cs).map (c' :: ·)
      | none => none
  | .code digits missing, c :: cs =>
    if missing ≤ 1 then do
      let c' ← readCode (digits ++ [c])
      let rest ← unescape isLong .plain cs
      return c' :: rest
    else unescape isLong (.code (digits ++ [c]) (missing - 1)) cs
  | mode, c :: cs =>
    let isHidden := match mode with
      | .hidden => isSpace c || c == '\n' || (c == '\r' && cs.head? = some '\n')
      | _ => false
    if isHidden then unescape isLong .hidden cs
    else if c == '\\' then
      if isLong && endsLine cs then unescape isLong .hidden cs
      else unescape isLong .escape cs
    else if isLong && c == '\n' then (unescape isLong .plain cs).map ('\n' :: ·)
    else if isLong && c == '\r' && cs.head? = some '\n' then
      (unescape isLong .plain cs).map (c :: ·)
    else if isControl c then none
    else (unescape isLong .plain cs).map (c :: ·)

/-- Reads what stands between quotes. -/
def decode (kind : Kind) (isLong : Bool) (body : List Char) : Option (List Char) :=
  match kind with
  | .basic => unescape isLong .plain body
  | .literal => readLiteral isLong body

/-- Reads text behind its opening quote, which must end on the same line, and gives the rest. -/
def readShort (kind : Kind) (cs : List Char) : Option (String × List Char) := do
  let (body, rest) ← takeLine kind cs
  let text ← decode kind false body
  return (String.ofList text, rest)

/-- Reads text of several lines behind its opening quotes, and gives the rest. -/
def readLong (kind : Kind) (cs : List Char) : Option (String × List Char) := do
  let (body, rest) ← takeLines kind ((dropNewline? cs).getD cs)
  let text ← decode kind true body
  return (String.ofList text, rest)

/-- Reads text behind its first quote. -/
def read (kind : Kind) (cs : List Char) : Option (String × List Char) :=
  if cs.take 2 == [kind.quote, kind.quote] then readLong kind (cs.drop 2)
  else readShort kind cs

end Quotation

end MachineArgs.Toml
