import MachineArgs.Text.Quoted.Table

/-!
# Quoted text

Text between double quotes for a message: the quote and the backslash are escaped, tab, carriage
return, newline and NUL have short escapes, and a character that cannot be seen on its own is
shown by its number in hexadecimal. An apostrophe stays as it is.
-/

namespace MachineArgs.Text.Quoted

/-- Whether a character is shown by its number. -/
def isNumbered (c : Char) : Bool :=
  let n := c.toNat
  if n < 128 then n < 32 || n == 127
  else numberedRuns.any fun (first, last) ↦ first ≤ n && n ≤ last

/-- How one character stands between the quotes. -/
def escape (c : Char) : List Char :=
  if c == '\x00' then ['\\', '0']
  else if c == '\t' then ['\\', 't']
  else if c == '\r' then ['\\', 'r']
  else if c == '\n' then ['\\', 'n']
  else if c == '"' || c == '\\' then ['\\', c]
  else if isNumbered c then ['\\', 'u', '\x7b'] ++ Nat.toDigits 16 c.toNat ++ ['\x7d']
  else [c]

/-- The text between quotes. -/
def quote (text : String) : String :=
  String.ofList ('"' :: text.toList.flatMap escape ++ ['"'])

end MachineArgs.Text.Quoted
