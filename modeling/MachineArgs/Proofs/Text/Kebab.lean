import Mathlib
import MachineArgs.Schema

/-!
# Hyphens in identifiers

Hyphenation inserts hyphens and lowers letters, and changes nothing else: without its hyphens the
result is the lowered characters of the identifier, separators left out (`filter_kebabAfter`). The
hyphens stand apart from each other and never come first (`isChain_kebabAfter`), because a word
starts only behind a letter or a digit, never behind a separator. From these two facts follows all
that `kebabCase_isHyphenated` says, hyphenating twice included: an ASCII text with hyphens of this
kind and without capitals is left as it is (`kebabAfter_eq_self`).
-/

namespace MachineArgs.Text

/-! ### Characters -/

theorem isSeparator_eq_false_iff {c : Char} : isSeparator c = false ↔ c ≠ '_' ∧ c ≠ '-' := by
  simp [isSeparator]

theorem isSeparator_of_isAlphanum {c : Char} (h : c.isAlphanum = true) : isSeparator c = false := by
  rw [isSeparator_eq_false_iff]
  constructor <;> rintro rfl <;> cases h

namespace Case

theorem isAscii_of_isAlphanum {c : Char} (h : c.isAlphanum = true) : isAscii c = true := by
  simp only [Char.isAlphanum, Char.isAlpha, Char.isUpper, Char.isLower, Char.isDigit,
    Bool.or_eq_true, Bool.and_eq_true, decide_eq_true_eq, ge_iff_le, UInt32.le_iff_toNat_le] at h
  rw [isAscii, decide_eq_true_eq]
  show c.val.toNat < 128
  rcases h with (⟨-, h⟩ | ⟨-, h⟩) | ⟨-, h⟩ <;> exact Nat.lt_of_le_of_lt h (by decide)

theorem isAlphanum_toLower {c : Char} (h : c.isUpper = true) : c.toLower.isAlphanum = true := by
  rw [Char.isAlphanum, Char.isAlpha_toLower_eq_isAlpha, Char.isAlpha, h, Bool.true_or, Bool.true_or]

theorem isAscii_toLower {c : Char} (hc : isAscii c = true) : isAscii c.toLower = true := by
  by_cases hupper : c.isUpper = true
  · exact isAscii_of_isAlphanum (isAlphanum_toLower hupper)
  · rwa [Char.toLower_eq_of_not_isUpper hupper]

/-- The forms that are listed lie behind the ASCII capitals, or are no characters at all. -/
theorem toNat_of_lowered? {n : Nat} {c : Char} (h : lowered? n = some c) :
    c.toNat = 0 ∨ 97 ≤ c.toNat := by
  have hforms : ∀ r ∈ loweredRuns, 97 ≤ r.2.2.2 := by decide +kernel
  obtain ⟨⟨first, last, step, form⟩, hmem, hform⟩ := List.exists_of_findSome?_eq_some h
  have hle : 97 ≤ form := hforms _ hmem
  dsimp only at hform
  split at hform
  · obtain rfl := Option.some.inj hform
    rw [Char.toNat_ofNat]
    split <;> omega
  · cases hform

theorem lower_ne_nil (c : Char) : lower c ≠ [] := by
  rw [lower]
  split
  · exact List.cons_ne_nil _ _
  · split <;> exact List.cons_ne_nil _ _

/-- Lowering makes no separators. -/
theorem isSeparator_of_mem_lower {c d : Char} (hc : isSeparator c = false) (hd : d ∈ lower c) :
    isSeparator d = false := by
  rw [lower] at hd
  split at hd
  · obtain rfl := List.mem_singleton.1 hd
    cases hupper : c.isUpper with
    | false => rwa [Char.toLower_eq_of_not_isUpper (by simp [hupper])]
    | true => exact isSeparator_of_isAlphanum (isAlphanum_toLower hupper)
  · split at hd
    · rcases List.mem_pair.1 hd with rfl | rfl <;> rfl
    · obtain rfl := List.mem_singleton.1 hd
      cases hform : lowered? c.toNat with
      | none => exact hc
      | some d =>
        rw [Option.getD_some, isSeparator_eq_false_iff]
        have hnat := toNat_of_lowered? hform
        constructor <;> rintro rfl <;> revert hnat <;> decide

theorem hyphen_notMem_lower {c : Char} (hc : isSeparator c = false) : '-' ∉ lower c :=
  fun hmem ↦ (isSeparator_eq_false_iff.1 (isSeparator_of_mem_lower hc hmem)).2 rfl

end Case

/-! ### What hyphenation keeps -/

/-- Without its hyphens, the hyphenated form is the lowered characters without the separators. -/
theorem filter_kebabAfter (atBreak : Bool) (before? : Option Char) (cs : List Char) :
    (kebabAfter atBreak before? cs).filter (· != '-') =
      (cs.filter fun c ↦ !isSeparator c).flatMap Case.lower := by
  induction cs generalizing atBreak before? with
  | nil => rfl
  | cons c rest ih =>
    rw [kebabAfter]
    cases hc : isSeparator c with
    | true =>
      rw [if_pos rfl, List.filter_append, ih, List.filter_cons_of_neg (by simp [hc])]
      cases atBreak <;> rfl
    | false =>
      have hlower : (Case.lower c).filter (· != '-') = Case.lower c := by
        refine List.filter_eq_self.2 fun d hd ↦ ?_
        simpa using (isSeparator_eq_false_iff.1 (Case.isSeparator_of_mem_lower hc hd)).2
      rw [if_neg (by simp), List.filter_append, List.filter_append, ih, hlower,
        List.filter_cons_of_pos (by simp [hc]), List.flatMap_cons]
      cases startsWord before? c rest <;> rfl

/-- No word starts behind a separator, and none at the front. -/
theorem startsWord_eq_false {before? : Option Char} (h : ∀ b ∈ before?, isSeparator b = true)
    (c : Char) (rest : List Char) : startsWord before? c rest = false := by
  cases before? with
  | none => rfl
  | some b =>
    have hb : b = '_' ∨ b = '-' := by simpa [isSeparator] using h b rfl
    have hletter : Case.isLower b = false ∧ b.isDigit = false ∧ Case.isUpper b = false := by
      rcases hb with rfl | rfl <;> decide
    rw [startsWord, hletter.1, hletter.2.1, hletter.2.2]
    simp

/-- No word starts but at a capital. -/
theorem startsWord_of_isUpper_eq_false {c : Char} (h : Case.isUpper c = false)
    (before? : Option Char) (rest : List Char) : startsWord before? c rest = false := by
  cases before? with
  | none => rfl
  | some b => rw [startsWord, h, Bool.false_and]

/-- Neighbours that are not both hyphens. -/
def Apart (a b : Char) : Prop :=
  a = '-' → b ≠ '-'

/-- Characters other than hyphens may stand in front of anything. -/
theorem isChain_apart_append {xs ys : List Char} (hxs : '-' ∉ xs) (hys : ys.IsChain Apart) :
    (xs ++ ys).IsChain Apart := by
  induction xs with
  | nil => exact hys
  | cons x xs ih =>
    rw [List.mem_cons, not_or] at hxs
    exact List.isChain_cons.2 ⟨fun _ _ hx ↦ absurd hx.symm hxs.1, ih hxs.2⟩

/-- A hyphen may stand in front of characters other than hyphens. -/
theorem isChain_apart_cons {xs ys : List Char} (hne : xs ≠ []) (hxs : '-' ∉ xs)
    (hys : ys.IsChain Apart) : ('-' :: (xs ++ ys)).IsChain Apart := by
  refine List.isChain_cons.2 ⟨fun x hx _ heq ↦ hxs ?_, isChain_apart_append hxs hys⟩
  rw [List.head?_append_of_ne_nil _ hne] at hx
  exact heq ▸ List.mem_of_mem_head? hx

/-- Hyphens stand apart, also from one that was written before. -/
theorem isChain_kebabAfter (atBreak : Bool) (before? : Option Char) (cs : List Char)
    (h : atBreak = true → ∀ b ∈ before?, isSeparator b = true) :
    ((if atBreak then ['-'] else []) ++ kebabAfter atBreak before? cs).IsChain Apart := by
  induction cs generalizing atBreak before? with
  | nil => cases atBreak <;> simp [kebabAfter]
  | cons c rest ih =>
    rw [kebabAfter]
    cases hc : isSeparator c with
    | true =>
      -- one hyphen comes before the rest, whether it is written here or was written before
      have hrest := ih true (some c) fun _ b hb ↦ Option.some.inj hb ▸ hc
      cases atBreak <;> exact hrest
    | false =>
      have hrest := ih false (some c) nofun
      have hword : (Case.lower c ++ kebabAfter false (some c) rest).IsChain Apart :=
        isChain_apart_append (Case.hyphen_notMem_lower hc) hrest
      have hhyphen : ('-' :: (Case.lower c ++ kebabAfter false (some c) rest)).IsChain Apart :=
        isChain_apart_cons (Case.lower_ne_nil c) (Case.hyphen_notMem_lower hc) hrest
      rw [if_neg Bool.false_ne_true, List.append_assoc]
      cases atBreak with
      | true =>
        rw [startsWord_eq_false (h rfl)]
        exact hhyphen
      | false =>
        cases startsWord before? c rest with
        | true => exact hhyphen
        | false => exact hword

/-- Text without capitals and underscores whose hyphens stand apart is left as it is. -/
theorem kebabAfter_eq_self (atBreak : Bool) (before? : Option Char) {cs : List Char}
    (hplain : ∀ c ∈ cs, c ≠ '_' ∧ Case.isAscii c = true ∧ c.isUpper = false)
    (hapart : ((if atBreak then ['-'] else []) ++ cs).IsChain Apart) :
    kebabAfter atBreak before? cs = cs := by
  induction cs generalizing atBreak before? with
  | nil => rfl
  | cons c rest ih =>
    obtain ⟨⟨hunderscore, hascii, hupper⟩, hrest⟩ := List.forall_mem_cons.1 hplain
    rw [kebabAfter]
    by_cases hc : c = '-'
    · subst hc
      cases atBreak with
      | true => exact absurd rfl ((List.isChain_cons.1 hapart).1 _ rfl rfl)
      | false =>
        rw [if_pos (by decide), ih true (some '-') hrest hapart]
        rfl
    · have hsep : isSeparator c = false := isSeparator_eq_false_iff.2 ⟨hunderscore, hc⟩
      have hstart : startsWord before? c rest = false :=
        startsWord_of_isUpper_eq_false ((Case.isUpper_of_isAscii hascii).trans hupper) _ _
      have hchain : rest.IsChain Apart := by
        cases atBreak with
        | true => exact (List.isChain_cons.1 (List.isChain_cons.1 hapart).2).2
        | false => exact (List.isChain_cons.1 hapart).2
      rw [hsep, hstart, Case.lower_of_isAscii hascii,
        Char.toLower_eq_of_not_isUpper (by simp [hupper]),
        ih false (some c) hrest hchain]
      rfl

/-- The hyphenated form is made of hyphens and lowered characters of the identifier. -/
theorem eq_or_mem_lower_of_mem_kebab {cs : List Char} {d : Char} (hd : d ∈ kebab cs) :
    d = '-' ∨ ∃ c ∈ cs, isSeparator c = false ∧ d ∈ Case.lower c := by
  by_cases heq : d = '-'
  · exact .inl heq
  · have hmem : d ∈ (kebab cs).filter (· != '-') := List.mem_filter.2 ⟨hd, by simpa using heq⟩
    rw [kebab, filter_kebabAfter, List.mem_flatMap] at hmem
    obtain ⟨c, hc, hdc⟩ := hmem
    rw [List.mem_filter, Bool.not_eq_true'] at hc
    exact .inr ⟨c, hc.1, hc.2, hdc⟩

theorem underscore_notMem_kebab (cs : List Char) : '_' ∉ kebab cs := by
  intro hmem
  rcases eq_or_mem_lower_of_mem_kebab hmem with heq | ⟨c, -, hc, hd⟩
  · cases heq
  · cases Case.isSeparator_of_mem_lower hc hd

theorem isChain_kebab (cs : List Char) : ('-' :: kebab cs).IsChain Apart :=
  isChain_kebabAfter true none cs fun _ ↦ nofun

/-- Hyphenating twice comes to hyphenating once. -/
theorem kebab_kebab {cs : List Char} (hascii : ∀ c ∈ cs, Case.isAscii c = true) :
    kebab (kebab cs) = kebab cs := by
  refine kebabAfter_eq_self true none (fun d hd ↦ ?_) (isChain_kebab cs)
  refine ⟨fun heq ↦ underscore_notMem_kebab cs (heq ▸ hd), ?_⟩
  rcases eq_or_mem_lower_of_mem_kebab hd with rfl | ⟨c, hmem, -, hdc⟩
  · exact ⟨rfl, rfl⟩
  · rw [Case.lower_of_isAscii (hascii c hmem), List.mem_singleton] at hdc
    exact hdc ▸ ⟨Case.isAscii_toLower (hascii c hmem), Char.isUpper_toLower_eq_false c⟩

/-- Text in which every hyphen stands behind another character, without underscores. -/
structure IsHyphenated (cs : List Char) : Prop where
  /-- There is no underscore. -/
  underscore_notMem : '_' ∉ cs
  /-- There is no hyphen at the front. -/
  head?_ne : cs.head? ≠ some '-'
  /-- No hyphen follows another. -/
  no_pair : ¬['-', '-'] <:+: cs

theorem isHyphenated_kebab (cs : List Char) : IsHyphenated (kebab cs) where
  underscore_notMem := underscore_notMem_kebab cs
  head?_ne h := (List.isChain_cons.1 (isChain_kebab cs)).1 '-' h rfl rfl
  no_pair := by
    rintro ⟨before, after, heq⟩
    have hchain := (List.isChain_cons.1 (isChain_kebab cs)).2
    rw [← heq, List.append_assoc] at hchain
    have hpair := (List.isChain_append.1 hchain).2.1
    exact (List.isChain_cons.1 hpair).1 '-' rfl rfl rfl

/-- What hyphenation makes of an identifier: no underscore, no hyphen at the front and no two in a
row, and apart from the hyphens the lowered characters, separators left out, in their order. For an
ASCII identifier nothing changes when it is hyphenated again, and, if it has no hyphens of its own,
the characters are those of the key that a field without directives derives from it. -/
theorem kebabCase_isHyphenated (s : String) :
    IsHyphenated (kebabCase s).toList ∧
      (kebabCase s).toList.filter (· != '-') =
        (s.toList.filter fun c ↦ c != '_' && c != '-').flatMap Case.lower ∧
      ((∀ c ∈ s.toList, Case.isAscii c = true) →
        kebabCase (kebabCase s) = kebabCase s ∧
          ('-' ∉ s.toList → (Field.plain s).key? =
            some (String.ofList ((kebabCase s).toList.filter (· != '-'))))) := by
  have hletters : (kebab s.toList).filter (· != '-') =
      (s.toList.filter fun c ↦ c != '_' && c != '-').flatMap Case.lower := by
    rw [kebab, filter_kebabAfter]
    simp only [isSeparator, Bool.not_or]
    rfl
  rw [kebabCase, String.toList_ofList]
  refine ⟨isHyphenated_kebab _, hletters, fun hascii ↦ ⟨?_, fun hhyphen ↦ ?_⟩⟩
  · rw [kebabCase, String.toList_ofList, kebab_kebab hascii]
  · have hfilter : (s.toList.filter fun c ↦ c != '_' && c != '-') = s.toList.filter (· != '_') := by
      refine List.filter_congr fun c hc ↦ ?_
      have hne : c ≠ '-' := fun heq ↦ hhyphen (heq ▸ hc)
      simp [hne]
    -- no capital sigma occurs, so that lowering the text is lowering its characters
    have hsigma : 'Σ' ∉ s.toList.filter (· != '_') := fun hmem ↦
      absurd (hascii _ (List.mem_filter.1 hmem).1) (by decide)
    rw [hletters, hfilter, ← Case.lowerAfter_eq_flatMap hsigma []]
    rfl

/-- A name with separators of both kinds, capitals and a digit. -/
theorem cacheSize_isHyphenated :
    (∀ c ∈ "_L2Cache__sizeMAX_".toList, Case.isAscii c = true) ∧
      '-' ∉ "_L2Cache__sizeMAX_".toList ∧
      kebabCase "_L2Cache__sizeMAX_" = "l2-cache-size-max-" ∧
      IsHyphenated "l2-cache-size-max-".toList ∧
      kebabCase "l2-cache-size-max-" = "l2-cache-size-max-" ∧
      (Field.plain "_L2Cache__sizeMAX_").key? = some "l2cachesizemax" := by
  have hascii : ∀ c ∈ "_L2Cache__sizeMAX_".toList, Case.isAscii c = true :=
    List.all_eq_true.1 (by cbv)
  have hhyphen : '-' ∉ "_L2Cache__sizeMAX_".toList := by decide
  have hkebab : kebabCase "_L2Cache__sizeMAX_" = "l2-cache-size-max-" := by cbv
  obtain ⟨hform, -, hsame⟩ := kebabCase_isHyphenated "_L2Cache__sizeMAX_"
  obtain ⟨hagain, hkey⟩ := hsame hascii
  rw [hkebab] at hform hagain hkey
  exact ⟨hascii, hhyphen, hkebab, hform, hagain, (hkey hhyphen).trans (by cbv)⟩

end MachineArgs.Text
