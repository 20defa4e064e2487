import MachineArgs.Text.Case.Table

/-!
# Letter case

Classification of letters and conversion to lower case, on characters and on text. ASCII is
decided by comparison and needs no table; everything else is looked up in the runs of the
character database.

Text differs from its characters in one place: a capital sigma that ends a word becomes `ς`. A
word ends where the next character that case conversion does not look through is no cased letter
(`endsWord`).
-/

namespace MachineArgs.Text.Case

/-- Whether one of the runs has `n` as a member. -/
def inRuns (runs : List (Nat × Nat × Nat)) (n : Nat) : Bool :=
  runs.any fun (first, last, step) ↦ first ≤ n && n ≤ last && (n - first) % step == 0

/-- Whether the code point of a character lies in ASCII. -/
def isAscii (c : Char) : Bool :=
  c.toNat < 128

/-- Upper-case letters. -/
def isUpper (c : Char) : Bool :=
  if isAscii c then c.isUpper else inRuns upperRuns c.toNat

/-- Lower-case letters. -/
def isLower (c : Char) : Bool :=
  if isAscii c then c.isLower else inRuns lowerRuns c.toNat

/-- Letters that have a case: upper, lower or title. -/
def isCased (c : Char) : Bool :=
  isUpper c || isLower c || inRuns titleRuns c.toNat

/-- Characters that case conversion looks through: `'`, `.`, `:`, `^`, the grave accent, marks,
modifiers and formats. -/
def isIgnorable (c : Char) : Bool :=
  if isAscii c then ['\'', '.', ':', '^', '\x60'].contains c else inRuns ignorableRuns c.toNat

/-- The lower-case form listed for a code point. -/
def lowered? (n : Nat) : Option Char :=
  loweredRuns.findSome? fun (first, last, step, form) ↦
    if first ≤ n && n ≤ last && (n - first) % step == 0 then
      some (Char.ofNat (form + (n - first)))
    else
      none

/-- The lower-case form of one character. Only the dotted capital I takes two characters. -/
def lower (c : Char) : List Char :=
  if isAscii c then [c.toLower]
  else if c = 'İ' then ['i', '\u0307']
  else [(lowered? c.toNat).getD c]

/-- Whether the first character that is not looked through is a cased letter. -/
def meetsCased (cs : List Char) : Bool :=
  match cs.dropWhile isIgnorable with
  | [] => false
  | c :: _ => isCased c

/-- Whether a letter between these two stretches ends a word; `before` is read backwards. -/
def endsWord (before after : List Char) : Bool :=
  meetsCased before && !meetsCased after

/-- Lower-cases text that follows `before`, which is given backwards. -/
def lowerAfter (before : List Char) : List Char → List Char
  | [] => []
  | c :: rest =>
    let form := if c = 'Σ' && endsWord before rest then ['ς'] else lower c
    form ++ lowerAfter (c :: before) rest

/-- The lower-case form of text. -/
def lowerText (cs : List Char) : List Char :=
  lowerAfter [] cs

/-! ### ASCII needs no table -/

theorem lower_of_isAscii {c : Char} (h : isAscii c = true) : lower c = [c.toLower] := by
  simp [lower, h]

theorem isUpper_of_isAscii {c : Char} (h : isAscii c = true) : isUpper c = c.isUpper := by
  simp [isUpper, h]

theorem isLower_of_isAscii {c : Char} (h : isAscii c = true) : isLower c = c.isLower := by
  simp [isLower, h]

/-- Away from the capital sigma, text is lowered character by character. -/
theorem lowerAfter_eq_flatMap {cs : List Char} (h : 'Σ' ∉ cs) (before : List Char) :
    lowerAfter before cs = cs.flatMap lower := by
  induction cs generalizing before with
  | nil => rfl
  | cons c rest ih =>
    simp only [List.mem_cons, not_or] at h
    have hc : c ≠ 'Σ' := fun hc ↦ h.1 hc.symm
    simp [lowerAfter, hc, ih h.2]

end MachineArgs.Text.Case
