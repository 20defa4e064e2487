/-!
# Shell words

Splits text into words the way a shell reads a simple command, without expanding anything.
Blanks are space, tab and newline. Single quotes keep everything, double quotes let a backslash
protect `$`, the grave accent, `"`, a backslash and a newline, and elsewhere a backslash protects
any character; a protected newline vanishes. A `#` where a word could start hides the rest of its
line.

The splitter walks the text once and carries where it stands (`Mode`). It refuses text that ends
inside quotes or behind a backslash, and nothing else.
-/

namespace MachineArgs.Text.ShellWords

/-- Where in the text the splitter stands. -/
inductive Mode where
  /-- Between words. -/
  | gap
  /-- Behind a `#` that starts a word. -/
  | comment
  /-- Inside a word. -/
  | word
  /-- Inside a word, behind a backslash. -/
  | escaped
  /-- Inside single quotes. -/
  | single
  /-- Inside double quotes. -/
  | double
  /-- Inside double quotes, behind a backslash. -/
  | doubleEscaped
deriving DecidableEq

/-- Characters that end a word. -/
def isGap (c : Char) : Bool :=
  c == ' ' || c == '\t' || c == '\n'

/-- Characters that a backslash protects between double quotes. -/
def isProtected (c : Char) : Bool :=
  c == '$' || c == '\x60' || c == '"' || c == '\\'

/-- What a character inside a word, outside quotes, does to the mode; `none` adds it to the
word. -/
def wordStep (c : Char) : Option Mode :=
  if c == '"' then some .double
  else if c == '\'' then some .single
  else if c == '\\' then some .escaped
  else if isGap c then some .gap
  else none

/-- The words of the rest of the text; `word` is the current word so far. -/
def splitFrom (mode : Mode) (word : List Char) : List Char → Option (List (List Char))
  | [] =>
    match mode with
    | .gap | .comment => some []
    | .word => some [word]
    | _ => none
  | c :: cs =>
    match mode with
    | .gap =>
      if isGap c then splitFrom .gap [] cs
      else if c == '#' then splitFrom .comment [] cs
      else match wordStep c with
        | some mode' => splitFrom mode' [] cs
        | none => splitFrom .word [c] cs
    | .comment => splitFrom (if c == '\n' then .gap else .comment) [] cs
    | .word =>
      match wordStep c with
      | some .gap => (splitFrom .gap [] cs).map (word :: ·)
      | some mode' => splitFrom mode' word cs
      | none => splitFrom .word (word ++ [c]) cs
    | .escaped => splitFrom .word (if c == '\n' then word else word ++ [c]) cs
    | .single =>
      if c == '\'' then splitFrom .word word cs else splitFrom .single (word ++ [c]) cs
    | .double =>
      if c == '"' then splitFrom .word word cs
      else if c == '\\' then splitFrom .doubleEscaped word cs
      else splitFrom .double (word ++ [c]) cs
    | .doubleEscaped =>
      if isProtected c then splitFrom .double (word ++ [c]) cs
      else if c == '\n' then splitFrom .double word cs
      else splitFrom .double (word ++ ['\\', c]) cs

/-- The words of a text, or `none` if quotes are unbalanced or a backslash ends it. -/
def split? (text : String) : Option (List String) :=
  (splitFrom .gap [] text.toList).map (·.map String.ofList)

end MachineArgs.Text.ShellWords
