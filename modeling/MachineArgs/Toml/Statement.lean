import MachineArgs.Toml.Scalar
import MachineArgs.Toml.Table
import MachineArgs.Toml.Text

/-!
# Statements

A configuration file is a sequence of statements, one a line: a header, or a key with its value.
Blanks, comments and empty lines stand between statements, and between the parts of arrays and
inline tables as well; in an inline table the parts are the keys, the signs behind them and the
values. Every reader takes the characters from some point on and gives what it read with the
characters behind it. Loops check that each round reads something, which is why they end; a bound
on how deep arrays and inline tables nest ends the recursion through values.
-/

namespace MachineArgs.Toml

/-- A line of a configuration file. -/
inductive Statement where
  /-- Opens a table, or adds one to an array. -/
  | header (isElement : Bool) (key : Key)
  /-- Defines an entry. -/
  | pair (key : Key) (v : Value)

/-- A reader: what it read, and the characters behind it. -/
abbrev Reader (α : Type) : Type :=
  List Char → Option (α × List Char)

/-- How deep arrays and inline tables nest, and how many parts a key has. -/
def maxDepth : Nat :=
  80

/-! ### Between the parts -/

/-- The text behind blanks, newlines and comments. Control characters are refused, and so is a
carriage return that ends no line. -/
def skipFiller (inComment : Bool) : List Char → Option (List Char)
  | [] => some []
  | c :: cs =>
    if c == '\n' then skipFiller false cs
    else if c == '\r' && cs.head? = some '\n' then skipFiller false cs
    else if isControl c then none
    else if inComment then skipFiller true cs
    else if isSpace c then skipFiller false cs
    else if c == '#' then skipFiller true cs
    else some (c :: cs)

/-- The text behind blanks. -/
def skipSpaces (cs : List Char) : Option (List Char) :=
  some (cs.dropWhile isSpace)

/-- The text behind a statement, which a newline, a comment or the end must follow. -/
def endStatement (cs : List Char) : Option (List Char) :=
  match cs.dropWhile isSpace with
  | [] => some []
  | '#' :: cs => skipFiller true cs
  | cs => (dropNewline? cs).bind (skipFiller false)

/-! ### Keys -/

/-- Characters of a key without quotes. -/
def isKeyChar (c : Char) : Bool :=
  c.isAlphanum || c == '_' || c == '-'

/-- Reads one key. -/
def readKeyPart : Reader String
  | '"' :: cs => Quotation.readShort .basic cs
  | '\'' :: cs => Quotation.readShort .literal cs
  | cs =>
    let name := cs.takeWhile isKeyChar
    if name.isEmpty then none else some (String.ofList name, cs.dropWhile isKeyChar)

/-- Reads a key of any length behind its path, with blanks around each part. -/
def readParts (cs : List Char) : Option (Key × List Char) := do
  let (part, rest) ← readKeyPart (cs.dropWhile isSpace)
  match rest.dropWhile isSpace with
  | '.' :: rest =>
    if rest.length < cs.length then do
      let (key, rest) ← readParts rest
      return ({ key with path := part :: key.path }, rest)
    else none
  | rest => return ({ path := [], last := part }, rest)
termination_by cs.length

/-- Reads a key behind its path. -/
def readKey (cs : List Char) : Option (Key × List Char) :=
  (readParts cs).filter fun (key, _) ↦ key.path.length < maxDepth

/-! ### Values -/

/-- Characters of a value without delimiters: all but those that stand between values or start a
comment. -/
def isScalarChar (c : Char) : Bool :=
  !" \t\r\n#=,[]\x7b\x7d".toList.contains c

/-- Whether more of a value without delimiters follows behind blanks. Quotes start another value
there. -/
def goesOn (cs : List Char) : Bool :=
  (cs.dropWhile isSpace).head?.any fun c ↦ isScalarChar c && c != '"' && c != '\''

/-- The characters of a value without delimiters, and the rest. Blanks inside belong to it. -/
def takeScalar : List Char → List Char × List Char
  | [] => ([], [])
  | c :: cs =>
    if isScalarChar c || (isSpace c && goesOn cs) then
      let (scalar, rest) := takeScalar cs
      (c :: scalar, rest)
    else ([], c :: cs)

/-- Reads the items behind an opening bracket, up to the closing one. -/
def readItems (item : Reader Value) (cs : List Char) : Option (List Value × List Char) := do
  match ← skipFiller false cs with
  | ']' :: rest => return ([], rest)
  | start => do
    let (v, rest) ← item start
    match ← skipFiller false rest with
    | ']' :: rest => return ([v], rest)
    | ',' :: rest =>
      if rest.length < cs.length then do
        let (vs, rest) ← readItems item rest
        return (v :: vs, rest)
      else none
    | _ => none
termination_by cs.length

/-- Reads a key and its value, with a gap on either side of the sign between them. -/
def readPair (skipGap : List Char → Option (List Char)) (value : Reader Value) (cs : List Char) :
    Option ((Key × Value) × List Char) := do
  let (key, rest) ← readKey cs
  match ← skipGap rest with
  | '=' :: rest => do
    let (v, rest) ← value (← skipGap rest)
    return ((key, v), rest)
  | _ => none

/-- Reads the entries behind an opening brace, up to the closing one. -/
def readEntries (value : Reader Value) (cs : List Char) :
    Option (List (Key × Value) × List Char) := do
  match ← skipFiller false cs with
  | '\x7d' :: rest => return ([], rest)
  | start => do
    let (pair, rest) ← readPair (skipFiller false) value start
    match ← skipFiller false rest with
    | '\x7d' :: rest => return ([pair], rest)
    | ',' :: rest =>
      if rest.length < cs.length then do
        let (pairs, rest) ← readEntries value rest
        return (pair :: pairs, rest)
      else none
    | _ => none
termination_by cs.length

/-- Reads a value in which arrays and inline tables nest at most to the given depth. -/
def readValue : Nat → Reader Value
  | _, '"' :: cs => (Quotation.read .basic cs).map fun (s, rest) ↦ (.text s, rest)
  | _, '\'' :: cs => (Quotation.read .literal cs).map fun (s, rest) ↦ (.text s, rest)
  | 0, '[' :: _ => none
  | 0, '\x7b' :: _ => none
  | depth + 1, '[' :: cs =>
    (readItems (readValue depth) cs).map fun (vs, rest) ↦ (.array false vs, rest)
  | depth + 1, '\x7b' :: cs => do
    let (pairs, rest) ← readEntries (readValue depth) cs
    let entries ← Entries.defineAll [] pairs
    return (.table .inline entries, rest)
  | _, cs => do
    let (scalar, rest) := takeScalar cs
    let v ← Scalar.read? scalar
    return (v, rest)

/-! ### Statements -/

/-- Reads a header behind its first bracket. -/
def readHeader : Reader Statement
  | '[' :: cs => do
    match ← readKey cs with
    | (key, ']' :: ']' :: rest) => return (.header true key, rest)
    | _ => none
  | cs => do
    match ← readKey cs with
    | (key, ']' :: rest) => return (.header false key, rest)
    | _ => none

/-- Reads a statement. The value of a key starts on its line. -/
def readStatement : Reader Statement
  | '[' :: cs => readHeader cs
  | cs =>
    (readPair skipSpaces (readValue maxDepth) cs).map fun ((key, v), rest) ↦ (.pair key v, rest)

/-- Reads the statements from the start of one on. -/
def readStatements (cs : List Char) : Option (List Statement) :=
  if cs.isEmpty then some []
  else do
    let (s, rest) ← readStatement cs
    let rest ← endStatement rest
    if rest.length < cs.length then do
      let ss ← readStatements rest
      return s :: ss
    else none
termination_by cs.length

/-- The statements of a file. A byte order mark at its start does not count. -/
def Statement.ofText? (text : String) : Option (List Statement) :=
  let cs := text.toList
  let body := if cs.head? = some '\ufeff' then cs.tail else cs
  (skipFiller false body).bind readStatements

end MachineArgs.Toml
