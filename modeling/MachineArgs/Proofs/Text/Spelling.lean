import MachineArgs.Proofs.Text.Kebab
import MachineArgs.Proofs.Text.Numeral

/-!
# Spellings of a row of words

A row of words may be joined by underscores, or told apart by capitals. Both spellings have the same
hyphenated form, the words joined by hyphens (`kebabCase_spellings`).

The words are read one after the other, and what counts for the next one is the last character of
the one before. That is no capital, because a word has a second character
(`IsWord.kebabAfter_capitalized`); behind a word of one letter the next capital would start nothing.
-/

namespace MachineArgs.Text

/-! ### Words -/

/-- The characters of words: small ASCII letters and digits. -/
def isWordChar (c : Char) : Bool :=
  c.isLower || c.isDigit

/-- A small letter, and behind it at least one more small letter or digit. -/
def IsWord : List Char → Prop
  | [] => False
  | first :: rest => first.isLower = true ∧ rest ≠ [] ∧ rest.all isWordChar = true

instance : DecidablePred IsWord
  | [] => inferInstanceAs (Decidable False)
  | first :: rest =>
    inferInstanceAs (Decidable (first.isLower = true ∧ rest ≠ [] ∧ rest.all isWordChar = true))

/-- A word with a capital at the front. -/
def capitalized : List Char → List Char
  | [] => []
  | first :: rest => first.toUpper :: rest

/-- Words joined by underscores. -/
def snakeCase (words : List (List Char)) : List Char :=
  ['_'].intercalate words

/-- Words with capitals, one behind the other. -/
def camelCase (words : List (List Char)) : List Char :=
  words.flatMap capitalized

/-- Words joined by hyphens. -/
def hyphenated (words : List (List Char)) : List Char :=
  ['-'].intercalate words

theorem isAlphanum_of_isWordChar {c : Char} (h : isWordChar c = true) : c.isAlphanum = true := by
  rw [Char.isAlphanum, Char.isAlpha, Bool.or_assoc]
  exact Bool.or_eq_true_iff.2 (.inr h)

/-- A word character is no separator and no capital, and lowering leaves it as it is. -/
theorem isSmall_of_isWordChar {c : Char} (h : isWordChar c = true) :
    isSeparator c = false ∧ Case.isUpper c = false ∧ Case.lower c = [c] := by
  have hupper : ¬c.isUpper = true := by
    rcases Bool.or_eq_true_iff.1 h with hlower | hdigit
    · exact Char.not_isUpper_of_isLower hlower
    · simp only [Char.isDigit, Char.isUpper, Bool.and_eq_true, decide_eq_true_eq, ge_iff_le,
        UInt32.le_iff_toNat_le] at hdigit ⊢
      have : '9'.val.toNat < 'A'.val.toNat := by decide
      omega
  have halphanum := isAlphanum_of_isWordChar h
  have hascii := Case.isAscii_of_isAlphanum halphanum
  refine ⟨isSeparator_of_isAlphanum halphanum, ?_, ?_⟩
  · rw [Case.isUpper_of_isAscii hascii, Bool.eq_false_iff]
    exact hupper
  · rw [Case.lower_of_isAscii hascii, Char.toLower_eq_of_not_isUpper hupper]

/-- The capital of a small letter is no separator, and it is lowered to this letter. -/
theorem isCapital_toUpper {c : Char} (h : c.isLower = true) :
    isSeparator c.toUpper = false ∧ Case.isUpper c.toUpper = true ∧
      Case.lower c.toUpper = [c] := by
  have hupper : c.toUpper.isUpper = true := by
    rw [Char.isUpper_toUpper_eq_isAlpha, Char.isAlpha, h, Bool.or_true]
  have halphanum : c.toUpper.isAlphanum = true := by
    rw [Char.isAlphanum, Char.isAlpha, hupper, Bool.true_or, Bool.true_or]
  have hascii := Case.isAscii_of_isAlphanum halphanum
  refine ⟨isSeparator_of_isAlphanum halphanum, ?_, ?_⟩
  · rw [Case.isUpper_of_isAscii hascii, hupper]
  · rw [Case.lower_of_isAscii hascii, Char.toLower_toUpper_eq_toLower,
      Char.toLower_eq_of_not_isUpper (Char.not_isUpper_of_isLower h)]

/-- A capital starts a word behind a word character, and none at the front. -/
theorem startsWord_eq_isSome {before? : Option Char} (h : ∀ b ∈ before?, isWordChar b = true)
    {c : Char} (hc : Case.isUpper c = true) (rest : List Char) :
    startsWord before? c rest = before?.isSome := by
  cases before? with
  | none => rfl
  | some b =>
    have hletter : (Case.isLower b || b.isDigit) = true := by
      rcases Bool.or_eq_true_iff.1 (h b rfl) with hlower | hdigit
      · have hascii := Case.isAscii_of_isAlphanum (isAlphanum_of_isWordChar (h b rfl))
        rw [Case.isLower_of_isAscii hascii, hlower, Bool.true_or]
      · rw [hdigit, Bool.or_true]
    rw [startsWord, hc, hletter, Bool.true_or, Bool.true_and, Option.isSome_some]

/-- Word characters are written as they are. -/
theorem kebabAfter_append (atBreak : Bool) (before? : Option Char) {xs : List Char} (hne : xs ≠ [])
    (hxs : ∀ c ∈ xs, isWordChar c = true) (rest : List Char) :
    kebabAfter atBreak before? (xs ++ rest) = xs ++ kebabAfter false xs.getLast? rest := by
  induction xs generalizing atBreak before? with
  | nil => exact absurd rfl hne
  | cons c xs ih =>
    obtain ⟨hc, hxs⟩ := List.forall_mem_cons.1 hxs
    obtain ⟨hsep, hupper, hlower⟩ := isSmall_of_isWordChar hc
    rw [List.cons_append, kebabAfter, hsep, startsWord_of_isUpper_eq_false hupper, hlower]
    cases xs with
    | nil => rfl
    | cons d xs => exact congrArg (c :: ·) (ih false (some c) (List.cons_ne_nil _ _) hxs)

namespace IsWord

variable {w : List Char}

theorem ne_nil (h : IsWord w) : w ≠ [] := by
  rintro rfl
  exact h

theorem isWordChar (h : IsWord w) : ∀ c ∈ w, isWordChar c = true := by
  cases w with
  | nil => nofun
  | cons first rest =>
    refine List.forall_mem_cons.2 ⟨?_, List.all_eq_true.1 h.2.2⟩
    rw [Text.isWordChar, h.1, Bool.true_or]

theorem exists_getLast? (h : IsWord w) : ∃ b, w.getLast? = some b ∧ Text.isWordChar b = true :=
  ⟨w.getLast h.ne_nil, List.getLast?_eq_some_getLast h.ne_nil,
    h.isWordChar _ (List.getLast_mem h.ne_nil)⟩

/-- A capitalized word is told from what stands before it. What follows stands behind the last
character of the word, which is no capital because a word has a second character. -/
theorem kebabAfter_capitalized (h : IsWord w) (atBreak : Bool) {before? : Option Char}
    (hbefore : ∀ b ∈ before?, Text.isWordChar b = true) (rest : List Char) :
    kebabAfter atBreak before? (capitalized w ++ rest) =
      (if before?.isSome then ['-'] else []) ++ (w ++ kebabAfter false w.getLast? rest) := by
  cases w with
  | nil => exact absurd h id
  | cons first tail =>
    obtain ⟨hfirst, hne, htail⟩ := h
    obtain ⟨hsep, hupper, hlower⟩ := isCapital_toUpper hfirst
    rw [capitalized, List.cons_append, kebabAfter, if_neg (by simp [hsep]),
      startsWord_eq_isSome hbefore hupper, hlower,
      kebabAfter_append _ _ hne (List.all_eq_true.1 htail), List.getLast?_cons_of_ne_nil hne,
      List.append_assoc]
    rfl

end IsWord

/-! ### Rows of words -/

/-- Further words behind underscores. -/
theorem kebabAfter_underscores {words : List (List Char)} (hwords : ∀ w ∈ words, IsWord w)
    (before? : Option Char) :
    kebabAfter false before? (words.flatMap ('_' :: ·)) = words.flatMap ('-' :: ·) := by
  induction words generalizing before? with
  | nil => rfl
  | cons w words ih =>
    obtain ⟨hw, hrest⟩ := List.forall_mem_cons.1 hwords
    rw [List.flatMap_cons, List.cons_append, kebabAfter, if_pos (by decide),
      kebabAfter_append _ _ hw.ne_nil hw.isWordChar, ih hrest]
    rfl

/-- Further words behind capitals. -/
theorem kebabAfter_capitals {words : List (List Char)} (hwords : ∀ w ∈ words, IsWord w) {b : Char}
    (hb : isWordChar b = true) :
    kebabAfter false (some b) (words.flatMap capitalized) = words.flatMap ('-' :: ·) := by
  induction words generalizing b with
  | nil => rfl
  | cons w words ih =>
    obtain ⟨hw, hrest⟩ := List.forall_mem_cons.1 hwords
    obtain ⟨last, hlast, hlastChar⟩ := hw.exists_getLast?
    rw [List.flatMap_cons, hw.kebabAfter_capitalized false fun _ h ↦ Option.some.inj h ▸ hb, hlast,
      ih hrest hlastChar]
    rfl

/-- Words joined by underscores, and the same words told apart by capitals, are hyphenated to the
words joined by hyphens. -/
theorem kebabCase_spellings {words : List (List Char)} (hwords : ∀ w ∈ words, IsWord w) :
    kebabCase (String.ofList (snakeCase words)) = String.ofList (hyphenated words) ∧
      kebabCase (String.ofList (camelCase words)) = String.ofList (hyphenated words) := by
  rw [kebabCase, kebabCase, String.toList_ofList, String.toList_ofList]
  cases words with
  | nil => exact ⟨rfl, rfl⟩
  | cons w words =>
    obtain ⟨hw, hrest⟩ := List.forall_mem_cons.1 hwords
    obtain ⟨last, hlast, hlastChar⟩ := hw.exists_getLast?
    have hnone : ∀ b ∈ (none : Option Char), isWordChar b = true := by simp
    rw [hyphenated, intercalate_singleton_cons]
    constructor
    · rw [snakeCase, intercalate_singleton_cons, kebab,
        kebabAfter_append _ _ hw.ne_nil hw.isWordChar, kebabAfter_underscores hrest]
    · rw [camelCase, List.flatMap_cons, kebab, hw.kebabAfter_capitalized true hnone, hlast,
        kebabAfter_capitals hrest hlastChar]
      rfl

/-- Three words, the first of them with a digit at its end. -/
def cacheWords : List (List Char) :=
  [['l', '2'], ['c', 'a', 'c', 'h', 'e'], ['s', 'i', 'z', 'e']]

theorem cacheWords_spellings :
    (∀ w ∈ cacheWords, IsWord w) ∧ String.ofList (snakeCase cacheWords) = "l2_cache_size" ∧
      String.ofList (camelCase cacheWords) = "L2CacheSize" ∧
      kebabCase "l2_cache_size" = "l2-cache-size" ∧ kebabCase "L2CacheSize" = "l2-cache-size" := by
  have hwords : ∀ w ∈ cacheWords, IsWord w := by decide
  have hsnake : String.ofList (snakeCase cacheWords) = "l2_cache_size" := by cbv
  have hcamel : String.ofList (camelCase cacheWords) = "L2CacheSize" := by cbv
  have hkebab : String.ofList (hyphenated cacheWords) = "l2-cache-size" := by cbv
  have h := kebabCase_spellings hwords
  rw [hsnake, hcamel, hkebab] at h
  exact ⟨hwords, hsnake, hcamel, h⟩

end MachineArgs.Text
