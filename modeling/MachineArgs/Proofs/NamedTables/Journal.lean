import Mathlib.Data.List.Induction
import MachineArgs.NamedTables

/-!
# The journal of an encoding

A journal notes, in order, which group becomes current and which edit the table of a group takes
(`Mark`). Emissions leave a journal behind when they are performed from a given group on
(`journal`): a selection is noted as such, and a write is noted for the group that is current at
that moment. A write before any selection notes the implicit group first.

The journal tells everything about the tables at the end (`run_initial`): the groups are those
entered, in the order in which they were entered first, and the table of each group is the empty
one after the edits noted for this group, whatever was noted for other groups in between
(`ofJournal`).
-/

namespace MachineArgs

open OptionTable (Edit)

/-- A note in the journal of an encoding. -/
inductive Mark where
  /-- A group becomes current. -/
  | enter (group : String)
  /-- The table of a group takes an edit. -/
  | write (group : String) (edit : Edit)

namespace Mark

/-- The group that becomes current, if this is noted. -/
def entered? : Mark → Option String
  | enter group => some group
  | write _ _ => none

/-- The edit of the table of a group, if this is noted. -/
def editOf? (group : String) : Mark → Option Edit
  | enter _ => none
  | write group' e => if group' = group then some e else none

end Mark

/-! ### Journals -/

/-- The groups that become current, in order. -/
def entered (marks : List Mark) : List String :=
  marks.filterMap Mark.entered?

/-- The edits noted for a group, in order. -/
def editsOf (group : String) (marks : List Mark) : List Edit :=
  marks.filterMap (Mark.editOf? group)

/-- The table that a journal tells of for a group. -/
def tableIn (marks : List Mark) (group : String) : OptionTable :=
  OptionTable.empty.edits (editsOf group marks)

/-- Only groups that were entered are written to. -/
def WritesEntered (marks : List Mark) : Prop :=
  ∀ group e, Mark.write group e ∈ marks → group ∈ entered marks

@[simp]
theorem entered_nil : entered [] = [] :=
  rfl

@[simp]
theorem editsOf_nil (n : String) : editsOf n [] = [] :=
  rfl

@[simp]
theorem entered_append (ms ms' : List Mark) : entered (ms ++ ms') = entered ms ++ entered ms' :=
  List.filterMap_append

@[simp]
theorem editsOf_append (n : String) (ms ms' : List Mark) :
    editsOf n (ms ++ ms') = editsOf n ms ++ editsOf n ms' :=
  List.filterMap_append

@[simp]
theorem entered_enter (n : String) (ms : List Mark) :
    entered (.enter n :: ms) = n :: entered ms :=
  rfl

@[simp]
theorem entered_write (n : String) (e : Edit) (ms : List Mark) :
    entered (.write n e :: ms) = entered ms :=
  rfl

@[simp]
theorem editsOf_enter (n m : String) (ms : List Mark) :
    editsOf n (.enter m :: ms) = editsOf n ms :=
  rfl

@[simp]
theorem editsOf_write (n : String) (e : Edit) (ms : List Mark) :
    editsOf n (.write n e :: ms) = e :: editsOf n ms := by
  simp [editsOf, Mark.editOf?]

theorem editsOf_write_of_ne {n m : String} (h : m ≠ n) (e : Edit) (ms : List Mark) :
    editsOf n (.write m e :: ms) = editsOf n ms := by
  simp [editsOf, Mark.editOf?, h]

/-- Nothing is noted for a group that was never entered. -/
theorem WritesEntered.editsOf_eq_nil {ms : List Mark} (h : WritesEntered ms) {n : String}
    (hn : n ∉ entered ms) : editsOf n ms = [] := by
  rw [editsOf, List.filterMap_eq_nil_iff]
  intro mark hmark
  cases mark with
  | enter m => rfl
  | write m e =>
    have hne : m ≠ n := fun heq ↦ hn (heq ▸ h m e hmark)
    simp [Mark.editOf?, hne]

theorem WritesEntered.concat_enter {ms : List Mark} (h : WritesEntered ms) (n : String) :
    WritesEntered (ms ++ [.enter n]) := by
  intro m e hm
  have hold : Mark.write m e ∈ ms := by simpa using hm
  rw [entered_append]
  exact List.mem_append_left _ (h m e hold)

theorem WritesEntered.concat_write {ms : List Mark} (h : WritesEntered ms) {n : String}
    (hn : n ∈ entered ms) (e : Edit) : WritesEntered (ms ++ [.write n e]) := by
  intro m e' hm
  rw [entered_append]
  refine List.mem_append_left _ ?_
  rcases List.mem_append.1 hm with hm | hm
  · exact h m e' hm
  · obtain ⟨rfl, -⟩ := Mark.write.inj (List.mem_singleton.1 hm)
    exact hn

/-! ### First entries -/

/-- One more entry matters only if it is the first of its group. -/
theorem eraseDups_concat (l : List String) (n : String) :
    (l ++ [n]).eraseDups = if n ∈ l then l.eraseDups else l.eraseDups ++ [n] := by
  rw [List.eraseDups_append]
  by_cases hn : n ∈ l <;> simp [List.removeAll, List.eraseDups_cons, hn]

theorem eraseDups_eq_self {l : List String} (h : l.Nodup) : l.eraseDups = l := by
  induction l using List.reverseRecOn with
  | nil => rfl
  | append_singleton l n ih =>
    rw [List.nodup_append] at h
    have hn : n ∉ l := fun hmem ↦ h.2.2 n hmem n List.mem_cons_self rfl
    rw [eraseDups_concat, if_neg hn, ih h.1]

theorem nodup_eraseDups (l : List String) : l.eraseDups.Nodup := by
  induction l using List.reverseRecOn with
  | nil => simp
  | append_singleton l n ih =>
    rw [eraseDups_concat]
    split
    · exact ih
    · next hn =>
      refine List.nodup_append.2 ⟨ih, by simp, fun m hm k hk heq ↦ hn ?_⟩
      rw [List.mem_singleton] at hk
      rwa [← hk, ← heq, ← List.mem_eraseDups]

theorem lookup_map_self {α : Type} (f : String → α) (l : List String) (n : String) :
    (l.map fun m ↦ (m, f m)).lookup n = if n ∈ l then some (f n) else none := by
  induction l with
  | nil => rfl
  | cons m l ih =>
    rw [List.map_cons, List.lookup_cons, ih]
    by_cases h : n = m
    · simp [h]
    · have hne : (n == m) = false := by simpa using h
      simp [hne, h]

namespace NamedTables

/-! ### The tables that a journal tells of -/

/-- The groups entered, in the order of their first entries, each with the table that its own edits
make of an empty one. -/
def ofJournal (marks : List Mark) (current : Option String) : NamedTables where
  groups := (entered marks).eraseDups.map fun n ↦ (n, tableIn marks n)
  current := current

@[simp]
theorem names_ofJournal (ms : List Mark) (g : Option String) :
    (ofJournal ms g).names = (entered ms).eraseDups := by
  simp [names, ofJournal, Function.comp_def]

@[simp]
theorem get?_ofJournal (ms : List Mark) (g : Option String) (n : String) :
    (ofJournal ms g).get? n = if n ∈ entered ms then some (tableIn ms n) else none := by
  rw [get?, ofJournal, lookup_map_self]
  simp only [List.mem_eraseDups]

theorem initial_eq (g : Option String) : initial g = ofJournal (g.toList.map .enter) g := by
  cases g <;> rfl

theorem select_ofJournal {ms : List Mark} (h : WritesEntered ms) (g : Option String) (n : String) :
    (ofJournal ms g).select n = ofJournal (ms ++ [.enter n]) (some n) := by
  have htable : tableIn (ms ++ [.enter n]) = tableIn ms := funext fun m ↦ by simp [tableIn]
  rw [select, names_ofJournal]
  simp only [ofJournal, htable, entered_append, entered_enter, entered_nil, eraseDups_concat,
    List.contains_iff_mem, List.mem_eraseDups]
  by_cases hn : n ∈ entered ms
  · simp [hn]
  · simp [hn, tableIn, h.editsOf_eq_nil hn]

theorem modify_ofJournal (ms : List Mark) (g : Option String) (n : String) (e : Edit) :
    (ofJournal ms g).modify n (·.edit e) = ofJournal (ms ++ [.write n e]) g := by
  simp only [modify, ofJournal, tableIn, entered_append, entered_write, entered_nil,
    List.append_nil, List.map_map, editsOf_append, NamedTables.mk.injEq, and_true]
  refine List.map_congr_left fun m _ ↦ ?_
  by_cases hm : m = n
  · subst hm
    simp [OptionTable.edits, List.foldl_append]
  · simp [hm, editsOf_write_of_ne (Ne.symm hm)]

end NamedTables

/-! ### What emissions leave behind -/

/-- A write while a group is current, or before there is one. -/
def written (current : Option String) (e : Edit) : List Mark :=
  match current with
  | some group => [.write group e]
  | none => [.enter NamedTables.implicitGroup, .write NamedTables.implicitGroup e]

namespace Emission

/-- What an emission leaves behind. -/
def marks (current : Option String) : Emission → List Mark
  | select group => [.enter group]
  | set key value => written current (.setKeyed key value)
  | add key value => written current (.addKeyed key value)
  | append value => written current (.append [value])

/-- The group that is current after an emission. -/
def currentAfter (current : Option String) : Emission → String
  | select group => group
  | _ => current.getD NamedTables.implicitGroup

end Emission

/-- The journal of emissions that start while a group is current, or before there is one. -/
def journal (current : Option String) : List Emission → List Mark
  | [] => []
  | e :: es => e.marks current ++ journal (some (e.currentAfter current)) es

/-- The group that is current after emissions. -/
def currentAfter (current : Option String) : List Emission → Option String
  | [] => current
  | e :: es => currentAfter (some (e.currentAfter current)) es

theorem currentAfter_append (g : Option String) (es es' : List Emission) :
    currentAfter g (es ++ es') = currentAfter (currentAfter g es) es' := by
  induction es generalizing g with
  | nil => rfl
  | cons e es ih => exact ih _

theorem journal_append (g : Option String) (es es' : List Emission) :
    journal g (es ++ es') = journal g es ++ journal (currentAfter g es) es' := by
  induction es generalizing g with
  | nil => rfl
  | cons e es ih => rw [List.cons_append, journal, journal, ih, List.append_assoc]; rfl

namespace NamedTables

theorem onTarget_ofJournal {ms : List Mark} (h : WritesEntered ms) (g : Option String) (e : Edit) :
    (ofJournal ms g).onTarget (·.edit e) =
      ofJournal (ms ++ written g e) (some (g.getD implicitGroup)) := by
  cases g with
  | some n => exact modify_ofJournal ms (some n) n e
  | none =>
    calc ((ofJournal ms none).select implicitGroup).modify implicitGroup (·.edit e)
        = ofJournal (ms ++ [.enter implicitGroup] ++ [.write implicitGroup e])
            (some implicitGroup) := by rw [select_ofJournal h, modify_ofJournal]
      _ = _ := by rw [List.append_assoc]; rfl

/-- An emission does to the tables what it notes. -/
theorem perform_ofJournal {ms : List Mark} (h : WritesEntered ms) (g : Option String)
    (e : Emission) :
    (ofJournal ms g).perform e = ofJournal (ms ++ e.marks g) (some (e.currentAfter g)) := by
  cases e with
  | select n => exact select_ofJournal h g n
  | set k v => exact onTarget_ofJournal h g (.setKeyed k v)
  | add k v => exact onTarget_ofJournal h g (.addKeyed k v)
  | append v => exact onTarget_ofJournal h g (.append [v])

end NamedTables

theorem WritesEntered.append_written {ms : List Mark} (h : WritesEntered ms) {g : Option String}
    (hg : ∀ n, g = some n → n ∈ entered ms) (e : Edit) : WritesEntered (ms ++ written g e) := by
  cases g with
  | some n => exact h.concat_write (hg n rfl) e
  | none =>
    have hstep := (h.concat_enter NamedTables.implicitGroup).concat_write
      (n := NamedTables.implicitGroup) (by simp) e
    rwa [List.append_assoc] at hstep

theorem WritesEntered.append_marks {ms : List Mark} (h : WritesEntered ms) {g : Option String}
    (hg : ∀ n, g = some n → n ∈ entered ms) (e : Emission) : WritesEntered (ms ++ e.marks g) := by
  cases e with
  | select n => exact h.concat_enter n
  | set k v => exact h.append_written hg _
  | add k v => exact h.append_written hg _
  | append v => exact h.append_written hg _

/-- The group that is current after an emission was entered. -/
theorem currentAfter_mem_entered {ms : List Mark} {g : Option String}
    (hg : ∀ n, g = some n → n ∈ entered ms) (e : Emission) :
    e.currentAfter g ∈ entered (ms ++ e.marks g) := by
  rw [entered_append]
  cases e with
  | select n => simp [Emission.marks, Emission.currentAfter]
  | _ =>
    cases g with
    | some n => exact List.mem_append_left _ (hg n rfl)
    | none => simp [Emission.marks, Emission.currentAfter, written]

namespace NamedTables

/-- Emissions do to the tables what they note. -/
theorem run_ofJournal {ms : List Mark} (h : WritesEntered ms) {g : Option String}
    (hg : ∀ n, g = some n → n ∈ entered ms) (es : List Emission) :
    (ofJournal ms g).run es = ofJournal (ms ++ journal g es) (currentAfter g es) ∧
      WritesEntered (ms ++ journal g es) := by
  -- Carried along: only entered groups are written to, and the current group is one of them.
  induction es generalizing ms g with
  | nil => simpa [journal, currentAfter] using h
  | cons e es ih =>
    have hnext : ∀ n, some (e.currentAfter g) = some n → n ∈ entered (ms ++ e.marks g) := by
      rintro n ⟨⟩
      exact currentAfter_mem_entered hg e
    have hrest := ih (h.append_marks hg e) hnext
    rw [List.append_assoc] at hrest
    rw [run_cons, perform_ofJournal h]
    exact hrest

/-- The tables at the end of an encoding are those that its journal tells of, beginning with the
entry of the default group. -/
theorem run_initial (g : Option String) (es : List Emission) :
    (initial g).run es =
        ofJournal (g.toList.map .enter ++ journal g es) (currentAfter g es) ∧
      WritesEntered (g.toList.map .enter ++ journal g es) := by
  rw [initial_eq]
  apply run_ofJournal
  · intro n e hm
    simp at hm
  · rintro n rfl
    simp

end NamedTables

end MachineArgs
