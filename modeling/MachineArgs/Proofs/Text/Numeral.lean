import MachineArgs.Text.Numeral

/-!
# Written numbers

A number is written by its decimal digits, without zeros in front (`IsNumeral`), and these are read
as a number, also where a sign would be admitted. Hexadecimal digits are read back in the same way.

Digits that are followed by something else are told apart from it by their kind alone
(`takeWhile_append_of_head?`, `dropWhile_append_of_head?`).
-/

namespace MachineArgs.Text

/-! ### Decimal digits -/

/-- Decimal digits without zeros in front. -/
structure IsNumeral (cs : List Char) : Prop where
  /-- There is a digit. -/
  ne_nil : cs ≠ []
  /-- There is nothing but digits. -/
  isDigit : ∀ c ∈ cs, c.isDigit = true
  /-- A zero that comes first is the only digit. -/
  eq_zero : cs.head? = some '0' → cs = ['0']

theorem isDigit_of_mem_toDigits {n : Nat} {c : Char} (hc : c ∈ Nat.toDigits 10 n) :
    c.isDigit = true :=
  Nat.isDigit_of_mem_toDigits (by decide) (by decide) hc

/-- Only zero is written with a zero in front. -/
theorem eq_zero_of_head?_toDigits {n : Nat} (h : (Nat.toDigits 10 n).head? = some '0') :
    n = 0 := by
  induction n using Nat.strongRecOn with
  | ind n ih =>
    by_cases hn : n < 10
    · rw [Nat.toDigits_of_lt_base hn, List.head?_singleton, Option.some.injEq] at h
      exact Nat.digitChar_eq_zero.1 h
    · -- the first digit is that of the number without its last digit
      obtain ⟨c, cs, hcs⟩ :=
        List.exists_cons_of_ne_nil (Nat.toDigits_ne_nil (b := 10) (n := n / 10))
      rw [Nat.toDigits_eq_if (by decide), if_neg hn, hcs, List.cons_append, List.head?_cons] at h
      have hdiv := ih (n / 10) (by omega) (by rw [hcs, List.head?_cons, h])
      omega

theorem isNumeral_toDigits (n : Nat) : IsNumeral (Nat.toDigits 10 n) where
  ne_nil := Nat.toDigits_ne_nil
  isDigit _ := isDigit_of_mem_toDigits
  eq_zero h := by
    rw [eq_zero_of_head?_toDigits h]
    rfl

/-- What is written like a number is read as one. -/
theorem IsNumeral.readDigits_eq {cs : List Char} (h : IsNumeral cs) :
    readDigits cs = some (Nat.ofDigitChars 10 cs 0) := by
  have hdigits : cs.all Char.isDigit = true := List.all_eq_true.2 h.isDigit
  rw [readDigits, hdigits, if_pos]
  simp [h.ne_nil]

/-- A number is read back where a sign would be admitted. -/
theorem readNatural_toDigits (n : Nat) : readNatural (Nat.toDigits 10 n) = some n := by
  have hdigits : readDigits (Nat.toDigits 10 n) = some n := by
    rw [(isNumeral_toDigits n).readDigits_eq, Nat.ofDigitChars_toDigits (by decide) (by decide)]
  rw [readNatural.eq_def]
  split
  · next cs heq =>
    have hplus : '+' ∈ Nat.toDigits 10 n := heq ▸ List.mem_cons_self
    cases isDigit_of_mem_toDigits hplus
  · exact hdigits

theorem readBounded_eq_some_iff {bound n : Nat} {cs : List Char} :
    readBounded bound cs = some n ↔ readNatural cs = some n ∧ n ≤ bound := by
  rw [readBounded, Option.filter_eq_some_iff, decide_eq_true_eq]

/-! ### Hexadecimal digits -/

theorem hexFrom_concat (init : Nat) (cs : List Char) (c : Char) :
    hexFrom init (cs ++ [c]) =
      (hexFrom init cs).bind fun n ↦ (hexValue? c).map (16 * n + ·) := by
  rw [hexFrom, List.foldlM_append, ← hexFrom]
  cases hexFrom init cs with
  | none => rfl
  | some n => cases hc : hexValue? c <;> simp [hc]

theorem readHex_toDigits (n : Nat) : readHex (Nat.toDigits 16 n) = some n := by
  rw [readHex, if_neg (by simp [Nat.toDigits_ne_nil])]
  induction n using Nat.strongRecOn with
  | ind n ih =>
    rw [Nat.toDigits_eq_if (by decide)]
    split
    · next hn =>
      have hdigit := hexFrom_concat 0 [] (Nat.digitChar n)
      rw [hexValue?_digitChar hn] at hdigit
      simpa [hexFrom] using hdigit
    · rw [hexFrom_concat, ih (n / 16) (by omega), hexValue?_digitChar (by omega), Option.bind_some,
        Option.map_some, Nat.div_add_mod]

theorem isSome_hexValue?_of_mem_toDigits {n : Nat} {c : Char} (hc : c ∈ Nat.toDigits 16 n) :
    (hexValue? c).isSome = true := by
  induction n using Nat.strongRecOn with
  | ind n ih =>
    rw [Nat.toDigits_eq_if (by decide)] at hc
    split at hc
    · next hn => rw [List.mem_singleton.1 hc, hexValue?_digitChar hn, Option.isSome_some]
    · rcases List.mem_append.1 hc with hc | hc
      · exact ih (n / 16) (by omega) hc
      · rw [List.mem_singleton.1 hc, hexValue?_digitChar (by omega), Option.isSome_some]

/-! ### Pieces of text -/

section Append

variable {α : Type} {p : α → Bool} {xs rest : List α}

/-- What has a property, in front of something else, is found by the property. -/
theorem takeWhile_append_of_head? (hxs : ∀ x ∈ xs, p x = true)
    (hrest : ∀ x ∈ rest.head?, p x = false) : (xs ++ rest).takeWhile p = xs := by
  have hnone : rest.takeWhile p = [] := by
    cases rest with
    | nil => rfl
    | cons x rest => exact List.takeWhile_cons_of_neg (by simp [hrest x rfl])
  rw [List.takeWhile_append_of_pos hxs, hnone, List.append_nil]

/-- What stands behind it is found by the property as well. -/
theorem dropWhile_append_of_head? (hxs : ∀ x ∈ xs, p x = true)
    (hrest : ∀ x ∈ rest.head?, p x = false) : (xs ++ rest).dropWhile p = rest := by
  have hall : rest.dropWhile p = rest := by
    cases rest with
    | nil => rfl
    | cons x rest => exact List.dropWhile_cons_of_neg (by simp [hrest x rfl])
  rw [List.dropWhile_append_of_pos hxs, hall]

end Append

/-- The first piece, and the others behind a separator each. -/
theorem intercalate_singleton_cons {α : Type} (separator : α) (piece : List α)
    (pieces : List (List α)) : [separator].intercalate (piece :: pieces) =
      piece ++ pieces.flatMap (separator :: ·) := by
  induction pieces generalizing piece with
  | nil => simp
  | cons piece' pieces ih =>
    rw [List.intercalate_cons_cons, ih, List.flatMap_cons, List.append_assoc]
    rfl

/-- What is in no piece and no separator is not in the row. -/
theorem notMem_intercalate_singleton {α : Type} {separator a : α} {pieces : List (List α)}
    (hne : a ≠ separator) (hpieces : ∀ piece ∈ pieces, a ∉ piece) :
    a ∉ [separator].intercalate pieces := by
  cases pieces with
  | nil => simp
  | cons piece pieces =>
    rw [List.forall_mem_cons] at hpieces
    rw [intercalate_singleton_cons]
    simpa [hpieces.1, hne] using hpieces.2

end MachineArgs.Text
