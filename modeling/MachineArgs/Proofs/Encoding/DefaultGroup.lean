import Mathlib.Data.List.Nodup
import MachineArgs.Proofs.Encoding.Sections

/-!
# Default groups

A default group is a selection before everything else. This module compares the tables that come of
it with those of the same value without a default group, for values that write nothing before they
select a group themselves (`Value.SelectsFirst`). The default group then takes no write on its own
account: what it changes is that its table is there from the start (`NamedTables.IsLedBy`). If the
value selects the group anyway, its table is the same and comes first; if not, the table stays empty
and gives no arguments.

Both encodings leave the same journal behind, apart from the entry of the default group
(`SelectsBeforeWriting.journal_eq`), and the order of the groups is that of their first entries.
-/

namespace MachineArgs

/-! ### First entries without one group -/

/-- Leaving out one group does not change the order of the first entries of the others. -/
theorem eraseDups_filter_bne (l : List String) (n : String) :
    (l.filter (· != n)).eraseDups = l.eraseDups.filter (· != n) := by
  induction l using List.reverseRecOn with
  | nil => rfl
  | append_singleton l m ih =>
    rw [List.filter_append, eraseDups_concat]
    by_cases hm : m = n
    · subst hm
      rw [List.filter_singleton, bne_self_eq_false, cond_false, List.append_nil, ih]
      split <;> simp
    · have hne : (m != n) = true := by simpa using hm
      rw [List.filter_singleton, hne, cond_true, eraseDups_concat, ih]
      by_cases hmem : m ∈ l <;> simp [hmem, hm]

/-- An entry before all others makes its group the first. -/
theorem eraseDups_cons_eq (l : List String) (n : String) :
    (n :: l).eraseDups = n :: l.eraseDups.filter (· != n) := by
  rw [← eraseDups_filter_bne]
  exact List.eraseDups_cons

theorem filter_bne_eq_self {l : List String} {n : String} (h : n ∉ l) : l.filter (· != n) = l :=
  List.filter_eq_self.2 fun _ hm ↦ bne_iff_ne.2 (ne_of_mem_of_not_mem hm h)

/-! ### Journals of emissions that select first -/

/-- Something is selected before anything is written. -/
def SelectsBeforeWriting (es : List Emission) : Prop :=
  ∀ before e after, es = before ++ e :: after → e.isWrite = true → ∃ n, .select n ∈ before

/-- The groups entered by emissions, once a group is current, are those selected. -/
theorem mem_entered_journal {es : List Emission} {current n : String} :
    n ∈ entered (journal (some current) es) ↔ .select n ∈ es := by
  induction es generalizing current with
  | nil => simp [journal]
  | cons e es ih =>
    rw [journal, entered_append, List.mem_append, ih, List.mem_cons]
    cases e <;> simp [Emission.marks, written]

namespace SelectsBeforeWriting

variable {es : List Emission}

theorem of_select (n : String) (es : List Emission) : SelectsBeforeWriting (.select n :: es) := by
  intro before e after hsplit hwrite
  cases before with
  | nil =>
    obtain rfl := (List.cons.inj hsplit).1
    cases hwrite
  | cons e' before =>
    obtain rfl := (List.cons.inj hsplit).1
    exact ⟨n, List.mem_cons_self⟩

/-- A group that is current before makes no difference to what emissions leave behind. -/
theorem journal_eq (h : SelectsBeforeWriting es) (g : String) :
    journal (some g) es = journal none es := by
  cases es with
  | nil => rfl
  | cons e es =>
    cases e with
    | select n => rfl
    | set | add | append =>
      obtain ⟨n, hn⟩ := h [] _ es rfl rfl
      cases hn

end SelectsBeforeWriting

namespace NamedTables

/-- Tables `t'` with a default group compared with the tables `t` without one. -/
structure IsLedBy (g : String) (isSelected : Prop) (t t' : NamedTables) : Prop where
  /-- The default group comes first, and the others keep their order. -/
  names_eq : t'.names = g :: t.names.filter (· != g)
  /-- The tables of other groups are the same. -/
  get?_eq : ∀ n ≠ g, t'.get? n = t.get? n
  /-- If the group is selected again, its table is the same, and its arguments move to the front. -/
  of_selected : isSelected → ∃ table before behind,
    t.get? g = some table ∧ t'.get? g = some table ∧
      t.args = before ++ (groupArgs g table ++ behind) ∧
      t'.args = groupArgs g table ++ (before ++ behind)
  /-- If it is not, it has an empty table, and the arguments are the same. -/
  of_not_selected : ¬isSelected →
    t.get? g = none ∧ t'.get? g = some .empty ∧ t'.args = t.args

/-- The arguments that a journal tells of, group by group. -/
theorem args_ofJournal_eq_flatMap (ms : List Mark) (current : Option String) :
    (ofJournal ms current).args =
      (entered ms).eraseDups.flatMap fun n ↦ groupArgs n (tableIn ms n) := by
  rw [args, ofJournal, List.flatMap_map]

/-- An entry before all others puts its group in front. -/
theorem isLedBy_ofJournal {ms : List Mark} (h : WritesEntered ms) (g : String)
    (current current' : Option String) :
    IsLedBy g (g ∈ entered ms) (ofJournal ms current) (ofJournal (.enter g :: ms) current') := by
  -- the entry writes to no table
  have htable : tableIn (.enter g :: ms) = tableIn ms := rfl
  have hfront : (ofJournal (.enter g :: ms) current').get? g = some (tableIn ms g) := by
    rw [get?_ofJournal, if_pos (by simp), htable]
  have hargs : (ofJournal (.enter g :: ms) current').args =
      groupArgs g (tableIn ms g) ++ ((entered ms).eraseDups.filter (· != g)).flatMap
        fun n ↦ groupArgs n (tableIn ms n) := by
    rw [args_ofJournal_eq_flatMap, entered_enter, eraseDups_cons_eq, List.flatMap_cons, htable]
  constructor
  case names_eq =>
    rw [names_ofJournal, names_ofJournal, entered_enter, eraseDups_cons_eq]
  case get?_eq =>
    intro n hn
    simp only [get?_ofJournal, entered_enter, List.mem_cons, or_iff_right hn, htable]
  case of_selected =>
    intro hg
    obtain ⟨before, behind, hsplit⟩ := List.append_of_mem (List.mem_eraseDups.2 hg)
    have hnodup := nodup_eraseDups (entered ms)
    rw [hsplit, List.nodup_middle, List.nodup_cons] at hnodup
    have hothers : (before ++ g :: behind).filter (· != g) = before ++ behind := by
      rw [List.filter_append, List.filter_cons_of_neg (by simp), ← List.filter_append,
        filter_bne_eq_self hnodup.1]
    refine ⟨tableIn ms g, before.flatMap fun n ↦ groupArgs n (tableIn ms n),
      behind.flatMap fun n ↦ groupArgs n (tableIn ms n), ?_, hfront, ?_, ?_⟩
    · rw [get?_ofJournal, if_pos hg]
    · rw [args_ofJournal_eq_flatMap, hsplit, List.flatMap_append, List.flatMap_cons]
    · rw [hargs, hsplit, hothers, List.flatMap_append]
  case of_not_selected =>
    intro hg
    have hempty : tableIn ms g = .empty := by
      rw [tableIn, h.editsOf_eq_nil hg, OptionTable.edits_nil]
    have hothers : (entered ms).eraseDups.filter (· != g) = (entered ms).eraseDups :=
      filter_bne_eq_self (mt List.mem_eraseDups.1 hg)
    refine ⟨?_, hfront.trans (congrArg some hempty), ?_⟩
    · rw [get?_ofJournal, if_neg hg]
    · rw [hargs, hempty, hothers, args_ofJournal_eq_flatMap]
      rfl

end NamedTables

/-! ### Values -/

namespace Value

/-- A value selects a group before it writes anything, if it can be encoded at all. -/
def SelectsFirst (v : Value) : Prop :=
  ∀ es, v.emissions = .ok es → SelectsBeforeWriting es

/-- A value selects a group somewhere. -/
def Selects (v : Value) (g : String) : Prop :=
  ∃ es, v.emissions = .ok es ∧ .select g ∈ es

/-- A value that selects a group before it writes anything fails with the same errors under any
default group. If it does not fail, the default group comes first; it has the table that it has
without being the default, or an empty one if the value does not select it. Nothing else changes. -/
theorem tables_isLedBy {v : Value} (h : v.SelectsFirst) (g : String) :
    (∀ e, v.tables (some g) = .error e ↔ v.tables none = .error e) ∧
      ∀ t, v.tables none = .ok t →
        ∃ t', v.tables (some g) = .ok t' ∧ NamedTables.IsLedBy g (v.Selects g) t t' := by
  rw [tables, tables]
  cases hes : v.emissions with
  | error e =>
    refine ⟨fun e' ↦ Iff.rfl, fun t ht ↦ ?_⟩
    cases ht
  | ok es =>
    -- Neither encoding fails any more.
    refine ⟨fun e ↦ by simp, fun t ht ↦ ⟨_, rfl, ?_⟩⟩
    obtain rfl := Except.ok.inj ht
    have hjournal := (h es hes).journal_eq g
    have hselects : v.Selects g ↔ g ∈ entered (journal none es) := by
      rw [← hjournal, mem_entered_journal, Selects, hes]
      simp
    obtain ⟨hnone, hwrites⟩ := NamedTables.run_initial none es
    rw [hselects, hnone, (NamedTables.run_initial (some g) es).1, hjournal]
    exact NamedTables.isLedBy_ofJournal hwrites g _ _

end Value

/-- The interleaved record comes to its second group later on. As the default group it has the same
table, and its arguments come first. -/
theorem interleaved_tables_isLedBy :
    interleaved.SelectsFirst ∧
      interleaved.args none = .ok ["-drive", "a=1,x", "-device", "b=2,tail=t"] ∧
      interleaved.args (some "device") = .ok ["-device", "b=2,tail=t", "-drive", "a=1,x"] ∧
      ∃ t t', interleaved.tables none = .ok t ∧ interleaved.tables (some "device") = .ok t' ∧
        NamedTables.IsLedBy "device" (interleaved.Selects "device") t t' := by
  have hfirst : interleaved.SelectsFirst := by
    intro es hes
    obtain rfl := Except.ok.inj hes
    exact .of_select "drive" _
  obtain ⟨t, ht⟩ : ∃ t, interleaved.tables none = .ok t := ⟨_, rfl⟩
  obtain ⟨-, hok⟩ := Value.tables_isLedBy hfirst "device"
  obtain ⟨t', ht', hled⟩ := hok t ht
  exact ⟨hfirst, by rfl, by rfl, t, t', ht, ht', hled⟩

end MachineArgs
