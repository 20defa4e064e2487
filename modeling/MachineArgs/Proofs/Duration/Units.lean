import Mathlib.Algebra.Group.Nat.Defs
import MachineArgs.Duration
import MachineArgs.Encoding
import MachineArgs.Proofs.Text.Numeral

/-!
# Durations and their units

A duration is written as a number and the name of a unit, the largest one of which it is a multiple
(`IsWritten`). Units are tried from the largest one down, so the one that is found is the first that
divides the duration, and those before it do not (`exists_textIn_eq`).

Nothing is lost: what is written is read back as the duration (`read?_text`), so durations that
differ are written differently.
-/

namespace MachineArgs.Duration

open Text (IsNumeral readDigits)

/-! ### Units -/

/-- Units are listed from the largest one down. -/
theorem pairwise_units : units.Pairwise fun unit unit' ↦ unit'.2 < unit.2 := by
  decide

/-- The last unit divides everything. -/
theorem exists_dvd (n : Nat) : ∃ unit ∈ units, unit.2 ∣ n :=
  ⟨("ns", 1), by decide, Nat.one_dvd n⟩

/-- A span is written in the first unit that divides it. -/
theorem exists_textIn_eq {n : Nat} {us : List (String × Nat)} (h : ∃ unit ∈ us, unit.2 ∣ n) :
    ∃ before unit after, us = before ++ unit :: after ∧
      textIn n us = toString (n / unit.2) ++ unit.1 ∧ unit.2 ∣ n ∧
      ∀ unit' ∈ before, ¬unit'.2 ∣ n := by
  induction us with
  | nil =>
    obtain ⟨unit, hunit, -⟩ := h
    cases hunit
  | cons unit us ih =>
    by_cases hdvd : unit.2 ∣ n
    · refine ⟨[], unit, us, rfl, ?_, hdvd, by simp⟩
      rw [textIn, if_pos (Nat.mod_eq_zero_of_dvd hdvd)]
    · obtain ⟨unit', hunit', hdvd'⟩ := h
      have hrest : unit' ∈ us :=
        (List.mem_cons.1 hunit').resolve_left fun heq ↦ hdvd (heq ▸ hdvd')
      obtain ⟨before, first, after, rfl, htext, hfirst, hbefore⟩ := ih ⟨unit', hrest, hdvd'⟩
      refine ⟨unit :: before, first, after, rfl, ?_, hfirst,
        List.forall_mem_cons.2 ⟨hdvd, hbefore⟩⟩
      rw [textIn, if_neg fun hmod ↦ hdvd (Nat.dvd_of_mod_eq_zero hmod), htext]

/-! ### Written forms -/

/-- How a duration is written: digits, and a unit with its length in nanoseconds. The number is an
exact multiple of the unit, and no larger unit has such a multiple. -/
structure IsWritten (d : Duration) (digits : List Char) (unit : String × Nat) : Prop where
  /-- The text is the digits and the name of the unit. -/
  text_eq : d.text = String.ofList digits ++ unit.1
  /-- The digits are those of a number. -/
  isNumeral : IsNumeral digits
  /-- The unit is a second, or one of the three smaller ones. -/
  mem_units : unit ∈ [("s", 10 ^ 9), ("ms", 10 ^ 6), ("us", 10 ^ 3), ("ns", 1)]
  /-- So many units are the duration. -/
  total_eq : Nat.ofDigitChars 10 digits 0 * unit.2 = d.seconds * 10 ^ 9 + d.nanoseconds
  /-- No larger unit divides the duration. -/
  largest : ∀ length ∈ [10 ^ 9, 10 ^ 6, 10 ^ 3, 1], unit.2 < length →
    ¬length ∣ d.seconds * 10 ^ 9 + d.nanoseconds

theorem exists_isWritten (d : Duration) : ∃ digits unit, d.IsWritten digits unit := by
  obtain ⟨before, unit, after, hunits, htext, hdvd, hbefore⟩ :=
    exists_textIn_eq (exists_dvd d.total)
  have hmem : unit ∈ units := by
    rw [hunits]
    exact List.mem_append_right _ List.mem_cons_self
  refine ⟨Nat.toDigits 10 (d.total / unit.2), unit, ?_, Text.isNumeral_toDigits _, hmem, ?_, ?_⟩
  · rw [text, htext, Nat.toString_eq_ofList_toDigits]
  · rw [Nat.ofDigitChars_ten_toDigits, Nat.div_mul_cancel hdvd]
    rfl
  · intro length hlength hlt
    obtain ⟨unit', hunit', rfl⟩ : ∃ unit' ∈ units, unit'.2 = length := List.mem_map.1 hlength
    refine hbefore unit' ?_
    -- units from this one on are not larger
    have hsorted := pairwise_units
    rw [hunits, List.pairwise_append] at hsorted
    have hafter := (List.pairwise_cons.1 hsorted.2.1).1
    rw [hunits, List.mem_append, List.mem_cons] at hunit'
    rcases hunit' with hunit' | rfl | hunit'
    · exact hunit'
    · exact absurd hlt (Nat.lt_irrefl _)
    · exact absurd (hafter unit' hunit') (Nat.lt_asymm hlt)

/-! ### Reading -/

/-- The span of so many nanoseconds. -/
def ofTotal (n : Nat) : Duration where
  seconds := n / 1000000000
  nanoseconds := n % 1000000000

/-- Reads a number and the name of a unit. -/
def read? (s : String) : Option Duration := do
  let n ← readDigits (s.toList.takeWhile Char.isDigit)
  let size ← units.lookup (String.ofList (s.toList.dropWhile Char.isDigit))
  return ofTotal (n * size)

theorem ofTotal_eq {d : Duration} (h : d.nanoseconds < 10 ^ 9) :
    ofTotal (d.seconds * 10 ^ 9 + d.nanoseconds) = d := by
  obtain ⟨seconds, nanoseconds⟩ := d
  change nanoseconds < 1000000000 at h
  change Duration.mk ((seconds * 1000000000 + nanoseconds) / 1000000000)
    ((seconds * 1000000000 + nanoseconds) % 1000000000) = _
  rw [Duration.mk.injEq]
  constructor <;> omega

/-- The name of a unit does not begin with a digit, and it belongs to one unit only. -/
theorem read_unit : ∀ unit ∈ units,
    (∀ c ∈ unit.1.toList.head?, c.isDigit = false) ∧ units.lookup unit.1 = some unit.2 := by
  have hnames : ∀ unit ∈ units, unit.1.toList.head?.any Char.isDigit = false := by decide
  have hlookup : ∀ unit ∈ units, units.lookup unit.1 = some unit.2 := by decide
  intro unit hunit
  exact ⟨(Option.any_eq_false _ _).1 (hnames unit hunit), hlookup unit hunit⟩

/-- What is written is read back. -/
theorem read?_text {d : Duration} (h : d.nanoseconds < 10 ^ 9) : read? d.text = some d := by
  obtain ⟨digits, unit, hd⟩ := exists_isWritten d
  obtain ⟨hname, hlookup⟩ := read_unit unit hd.mem_units
  rw [read?, hd.text_eq, String.toList_append, String.toList_ofList,
    Text.takeWhile_append_of_head? hd.isNumeral.isDigit hname,
    Text.dropWhile_append_of_head? hd.isNumeral.isDigit hname, String.ofList_toList, hlookup,
    hd.isNumeral.readDigits_eq]
  show some (ofTotal (_ * unit.2)) = some d
  rw [hd.total_eq, ofTotal_eq h]

/-! ### Values -/

theorem text_ne_empty (d : Duration) : d.text ≠ "" := by
  obtain ⟨digits, unit, hd⟩ := exists_isWritten d
  intro hempty
  have hlist : digits ++ unit.1.toList = [] := by
    rw [← String.toList_ofList (l := digits), ← String.toList_append, ← hd.text_eq, hempty,
      String.toList_empty]
  exact hd.isNumeral.ne_nil (List.append_eq_nil_iff.1 hlist).1

theorem total_eq_zero_iff (d : Duration) : d.total = 0 ↔ d = ⟨0, 0⟩ := by
  obtain ⟨seconds, nanoseconds⟩ := d
  show seconds * 1000000000 + nanoseconds = 0 ↔ _
  rw [Duration.mk.injEq]
  omega

/-- Only the empty duration is a zero. -/
theorem isZero_toValue (d : Duration) : (toValue d : Value).isZero = true ↔ d = ⟨0, 0⟩ := by
  show (Value.zeroIf (d.total == 0) (.text d.text)).isZero = true ↔ _
  rw [← total_eq_zero_iff, Value.zeroIf]
  by_cases hzero : d.total = 0
  · simp [hzero, Value.isZero]
  · simp [hzero, Value.isZero, d.text_ne_empty]

/-- A duration is written exactly: as a number without zeros in front, of the largest unit that it
is a multiple of. It can be read back, so no other duration is written like it. Only the empty
duration is a zero, and that has a written form too. -/
theorem isWritten_toValue {d : Duration} (h : d.nanoseconds < 10 ^ 9) :
    (toValue d : Value).encoder = .scalar d.text ∧
      (∃ digits unit, d.IsWritten digits unit) ∧
      read? d.text = some d ∧
      (∀ d' : Duration, d'.nanoseconds < 10 ^ 9 → d'.text = d.text → d' = d) ∧
      ((toValue d : Value).isZero = true ↔ d = ⟨0, 0⟩) := by
  have hread := read?_text h
  refine ⟨?_, exists_isWritten d, hread, fun d' h' htext ↦ ?_, isZero_toValue d⟩
  · show (Value.zeroIf _ (.text d.text)).encoder = _
    rw [Value.zeroIf]
    split <;> rfl
  · have hread' := read?_text h'
    rw [htext, hread] at hread'
    exact (Option.some.inj hread').symm

/-- The longest span of whole milliseconds. -/
theorem isWritten_toValue_milliseconds :
    (Duration.mk 18446744073709551615 999000000).text = "18446744073709551615999ms" ∧
      read? "18446744073709551615999ms" = some ⟨18446744073709551615, 999000000⟩ := by
  have htext : (Duration.mk 18446744073709551615 999000000).text =
      "18446744073709551615999ms" := by decide +kernel
  obtain ⟨-, -, hread, -⟩ :=
    isWritten_toValue (d := ⟨18446744073709551615, 999000000⟩) (by decide)
  rw [htext] at hread
  exact ⟨htext, hread⟩

end MachineArgs.Duration
