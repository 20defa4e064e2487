import Mathlib.Data.List.Forall2
import MachineArgs.Proofs.Encoding.Plain

/-!
# Encodings in sections

Most descriptions are encoded in sections: a group is selected, something is written to it, and then
the next group is selected (`Sections`). Nothing is written before the first selection, so the group
without a name never comes into play (`Sections.names_eq`), and the arguments are pairs of a flag
and a table (`NamedTables.args_eq_pairs`).

`IsSectioned` says so of a value. It holds of the records that select a group at once, of those that
first embed a record that does, unless that record is zero, and of those with a default group.
-/

namespace MachineArgs

/-- Whether an emission writes something. -/
def Emission.isWrite : Emission → Bool
  | select _ => false
  | _ => true

/-- Emissions in sections, one for each group of a list in order: the group is selected, and then
there are writes only. -/
inductive Sections : List String → List Emission → Prop where
  /-- No section. -/
  | nil : Sections [] []
  /-- One section, then the others. -/
  | cons {group groups writes es} (hwrites : ∀ e ∈ writes, e.isWrite = true) :
      Sections groups es → Sections (group :: groups) (.select group :: (writes ++ es))

/-! ### The tables of sections -/

/-- Writes enter no group once a group is current, and leave it current. -/
theorem entered_journal_writes {writes : List Emission} (h : ∀ e ∈ writes, e.isWrite = true)
    (group : String) :
    entered (journal (some group) writes) = [] ∧ currentAfter (some group) writes = some group := by
  induction writes with
  | nil => exact ⟨rfl, rfl⟩
  | cons e writes ih =>
    rw [List.forall_mem_cons] at h
    have hrest := ih h.2
    cases e with
    | select name => exact absurd h.1 (by simp [Emission.isWrite])
    | set | add | append =>
      rw [journal, entered_append, currentAfter]
      exact ⟨by simpa [Emission.marks, Emission.currentAfter, written] using hrest.1, hrest.2⟩

/-- Writes before any selection enter the group without a name, if there are any. -/
theorem entered_journal_none_writes {writes : List Emission} (h : ∀ e ∈ writes, e.isWrite = true) :
    entered (journal none writes) = [] ∨ entered (journal none writes) = [""] := by
  cases writes with
  | nil => exact .inl rfl
  | cons e writes =>
    rw [List.forall_mem_cons] at h
    have hrest := (entered_journal_writes h.2 NamedTables.implicitGroup).1
    cases e with
    | select name => exact absurd h.1 (by simp [Emission.isWrite])
    | set | add | append =>
      right
      rw [journal, entered_append]
      exact congrArg ([""] ++ ·) hrest

namespace Sections

variable {groups : List String} {es : List Emission}

theorem entered_journal (h : Sections groups es) (current : Option String) :
    entered (journal current es) = groups := by
  induction h generalizing current with
  | nil => rfl
  | @cons group groups writes es hwrites _ ih =>
    rw [journal, entered_append, journal_append, entered_append, Emission.currentAfter,
      (entered_journal_writes hwrites group).1, ih]
    rfl

/-- The groups of sections are those of the tables. -/
theorem names_eq (h : Sections groups es) :
    ((NamedTables.initial none).run es).names = groups.eraseDups := by
  rw [(NamedTables.run_initial none es).1, NamedTables.names_ofJournal]
  exact congrArg List.eraseDups (h.entered_journal none)

theorem single {group : String} {writes : List Emission}
    (h : ∀ e ∈ writes, e.isWrite = true) : Sections [group] (.select group :: writes) := by
  have hsections : Sections [group] (.select group :: (writes ++ [])) := .cons h .nil
  rwa [List.append_nil] at hsections

end Sections

namespace NamedTables

/-- Tables whose groups all have names give pairs of a flag and a table, one for each table that is
not empty. -/
theorem args_eq_pairs {t : NamedTables} (h : "" ∉ t.names) :
    t.args =
      (t.groups.filter fun s ↦ !s.2.isEmpty).flatMap fun s ↦ ["-" ++ s.1, s.2.serialize] := by
  obtain ⟨groups, current⟩ := t
  have hnames : ∀ s ∈ groups, s.1 ≠ "" := fun s hs hname ↦
    h (List.mem_map.2 ⟨s, hs, hname⟩)
  clear h
  rw [args]
  show groups.flatMap _ = _
  induction groups with
  | nil => rfl
  | cons s groups ih =>
    rw [List.forall_mem_cons] at hnames
    rw [List.flatMap_cons, ih hnames.2]
    cases hempty : s.2.isEmpty with
    | true => simp [groupArgs, hempty]
    | false => simp [groupArgs, hempty, hnames.1]

end NamedTables

namespace Value

/-- A record is encoded along its schema if it is complete. -/
theorem emissions_record {schema : Schema} {values : List Value}
    (h : schema.fieldCount = values.length) :
    (record schema values).emissions =
      encodeEntries [schema.name] schema.entries (encoders values) :=
  encoder_record rfl h _

end Value

/-! ### Writes -/

theorem isWrite_write (key? : Option String) (s : String) :
    (Emission.write key? s).isWrite = true := by
  cases key? <;> rfl

theorem isWrite_writeNext (key? : Option String) (s : String) :
    (Emission.writeNext key? s).isWrite = true := by
  cases key? <;> rfl

theorem isWrite_cellEmissions {cells : List Cell} :
    ∀ e ∈ cellEmissions cells, e.isWrite = true := by
  intro e he
  obtain ⟨c, -, hc⟩ := List.mem_filterMap.1 he
  obtain ⟨s, -, rfl⟩ := Option.map_eq_some_iff.1 hc
  exact isWrite_write _ _

/-- A value whose records are not expanded selects no group. -/
theorem isWrite_of_encoder {v : Value} {d : Directives} (hflat : d.flattened = false)
    {path : List String} {es : List Emission} (h : v.encoder path d = .ok es) :
    ∀ e ∈ es, e.isWrite = true := by
  induction v using Value.induction generalizing d path es with
  | present inner ih | zero inner ih => exact ih hflat h
  | absent =>
    obtain rfl : [] = es := Except.ok.inj h
    simp
  | path name location =>
    cases location with
    | none => simp [Value.encoder, Encoder.location] at h
    | some s =>
      obtain rfl : [.write d.key s] = es := Except.ok.inj h
      simp [isWrite_write]
  | text | reference | string | boolean | integer | natural =>
    obtain rfl := Except.ok.inj h
    simp [isWrite_write]
  | record schema values ih => simp [Value.encoder, encodeRecord, hflat] at h
  | list items =>
    obtain ⟨texts, -, ⟨-, rfl⟩ | ⟨-, sep, -, rfl⟩ | ⟨-, -, -, rfl⟩⟩ := encodeList_eq.1 h
    · simp
    · simp [isWrite_write]
    · simp [isWrite_writeNext]
  | map entries ih =>
    rw [Value.encoder] at h
    induction entries generalizing es with
    | nil =>
      obtain rfl : [] = es := Except.ok.inj h
      simp
    | cons entry entries ih' =>
      obtain ⟨here, hhere, h⟩ := bind_eq_ok.1 h
      obtain ⟨rest, hrest, h⟩ := bind_eq_ok.1 h
      obtain rfl : here ++ rest = es := Except.ok.inj h
      rw [List.forall_mem_append]
      exact ⟨ih entry List.mem_cons_self rfl hhere,
        ih' (fun e he ↦ ih e (List.mem_cons_of_mem _ he)) hrest⟩
  | unsupported kind => simp [Value.encoder, Encoder.refuse] at h

/-! ### Records in sections -/

/-- A field with a value comes to writes only. -/
def Field.Writes (f : Field) (v : Value) : Prop :=
  ∀ path, ∃ es, encodeField path f v.isZero v.encoder = .ok es ∧ ∀ e ∈ es, e.isWrite = true

namespace Field.Writes

variable {f : Field} {v : Value}

theorem of_isSheetIn (h : v.isSheetIn f = true) : f.Writes v :=
  fun path ↦ ⟨_, encodeField_of_isSheetIn h path, isWrite_cellEmissions⟩

/-- Whatever can be encoded at all comes to writes only in a field that expands no records. -/
theorem of_encoder (hflat : f.flattened = false)
    (h : ∀ path, ∃ es, v.encoder path f.directives = .ok es) : f.Writes v := by
  intro path
  rw [encodeField]
  by_cases hskip : (f.skipped || v.isZero) = true
  · exact ⟨[], if_pos hskip, by simp⟩
  · obtain ⟨es, hes⟩ := h (path ++ [f.ident])
    exact ⟨es, by rw [if_neg hskip, hes], isWrite_of_encoder hflat hes⟩

end Field.Writes

theorem forall₂_writes_of_areSheets {fs : List Field} {values : List Value}
    (h : areSheets fs values = true) : List.Forall₂ Field.Writes fs values := by
  induction fs generalizing values with
  | nil =>
    obtain rfl : values = [] := List.length_eq_zero_iff.1 (length_of_areSheets h).symm
    exact .nil
  | cons f fs ih =>
    cases values with
    | nil => simp [areSheets] at h
    | cons v values =>
      rw [areSheets, Bool.and_eq_true] at h
      exact .cons (.of_isSheetIn h.1) (ih h.2)

/-- The group that an entry selects. -/
def Entry.group? : Entry → Option String
  | group name => some name
  | field f => f.group

/-- Whether entries select a group at once. -/
def selectsFirst (entries : List Entry) : Bool :=
  (entries.head?.bind Entry.group?).isSome

/-- Fields that come to writes are encoded in sections, one for each selection. What is written
before the first selection belongs to whichever section comes before; there is nothing if the first
entry selects a group. -/
theorem encodeEntries_sections {entries : List Entry} {values : List Value}
    (h : List.Forall₂ Field.Writes (entries.filterMap Entry.field?) values) (path : List String) :
    ∃ writes es, encodeEntries path entries (Value.encoders values) = .ok (writes ++ es) ∧
      (∀ e ∈ writes, e.isWrite = true) ∧ (selectsFirst entries = true → writes = []) ∧
      Sections (entries.filterMap Entry.group?) es := by
  induction entries generalizing values with
  | nil => exact ⟨[], [], rfl, by simp, fun _ ↦ rfl, .nil⟩
  | cons entry entries ih =>
    cases entry with
    | group name =>
      obtain ⟨writes, es, hes, hwrites, -, hsections⟩ := ih h
      exact ⟨[], .select name :: (writes ++ es), by rw [encodeEntries, hes]; rfl, by simp,
        fun _ ↦ rfl, .cons hwrites hsections⟩
    | field f =>
      obtain ⟨v, values, hfield, hrest, rfl⟩ := List.forall₂_cons_left_iff.1 h
      obtain ⟨here, hhere, hwritesHere⟩ := hfield path
      obtain ⟨writes, es, hes, hwrites, -, hsections⟩ := ih hrest
      have henc : encodeEntries path (.field f :: entries) (Value.encoders (v :: values)) =
          .ok (f.switch ++ here ++ (writes ++ es)) := by
        rw [Value.encoders, encodeEntries, hhere, hes]
        rfl
      have hall : ∀ e ∈ here ++ writes, e.isWrite = true :=
        List.forall_mem_append.2 ⟨hwritesHere, hwrites⟩
      cases hgroup : f.group with
      | none =>
        refine ⟨here ++ writes, es, ?_, hall, ?_, ?_⟩
        · rw [henc, Field.switch, hgroup]
          simp
        · simp [selectsFirst, Entry.group?, hgroup]
        · simpa [Entry.group?, hgroup] using hsections
      | some group =>
        refine ⟨[], .select group :: (here ++ writes ++ es), ?_, by simp, fun _ ↦ rfl, ?_⟩
        · rw [henc, Field.switch, hgroup]
          simp
        · simpa [Entry.group?, hgroup] using Sections.cons hall hsections

/-- A value is encoded in sections, once a default group was selected. -/
def IsSectioned (groups : List String) (default : Option String) (v : Value) : Prop :=
  ∃ es, v.emissions = .ok es ∧ Sections groups (default.toList.map .select ++ es)

namespace IsSectioned

/-- A record with one group is one section. -/
theorem of_leads {group : String} {v : Value} (h : Leads group v) : IsSectioned [group] none v :=
  ⟨_, h.encoder_eq _ rfl, .single isWrite_cellEmissions⟩

section Records

variable {schema : Schema} {values : List Value}

/-- A record that selects a group at once has a section for each of its selections. -/
theorem of_selectsFirst (hfirst : selectsFirst schema.entries = true)
    (h : List.Forall₂ Field.Writes schema.fields values) :
    IsSectioned (schema.entries.filterMap Entry.group?) none (.record schema values) := by
  obtain ⟨writes, es, hes, -, hnil, hsections⟩ := encodeEntries_sections h [schema.name]
  refine ⟨writes ++ es, ?_, ?_⟩
  · rw [Value.emissions_record h.length_eq, hes]
  · rw [hnil hfirst]
    exact hsections

/-- A record has a section for the group that is selected before it, and one for each of its own
selections. -/
theorem of_default (group : String) (h : List.Forall₂ Field.Writes schema.fields values) :
    IsSectioned (group :: schema.entries.filterMap Entry.group?) (some group)
      (.record schema values) := by
  obtain ⟨writes, es, hes, hwrites, -, hsections⟩ := encodeEntries_sections h [schema.name]
  have hgroups : Sections (group :: schema.entries.filterMap Entry.group?)
      (.select group :: (writes ++ es)) := .cons hwrites hsections
  exact ⟨writes ++ es, by rw [Value.emissions_record h.length_eq, hes], hgroups⟩

end Records

/-- A record has the section of a record with one group that it embeds first, if that is written,
and one for each of its own selections. -/
theorem of_embedded {group name ident : String} {schema : Schema} {inner values : List Value}
    {entries : List Entry} (hleads : Leads group (.record schema inner))
    (hzero : Value.areZero inner = false)
    (h : List.Forall₂ Field.Writes (entries.filterMap Entry.field?) values) :
    IsSectioned (group :: entries.filterMap Entry.group?) none
      (.record ⟨name, .field (.embedded ident) :: entries⟩ (.record schema inner :: values)) := by
  obtain ⟨writes, es, hes, hwrites, -, hsections⟩ := encodeEntries_sections h [name]
  have hcount : (Schema.mk name (.field (.embedded ident) :: entries)).fieldCount =
      (Value.record schema inner :: values).length := congrArg (· + 1) h.length_eq
  have hfield : encodeField [name] (.embedded ident) (Value.record schema inner).isZero
      (Value.record schema inner).encoder =
        .ok (.select group :: cellEmissions (Value.record schema inner).cells) := by
    rw [encodeField, Value.isZero, hzero]
    exact hleads.encoder_eq _ rfl
  refine ⟨.select group :: (cellEmissions (Value.record schema inner).cells ++ writes ++ es),
    ?_, .cons (List.forall_mem_append.2 ⟨isWrite_cellEmissions, hwrites⟩) hsections⟩
  rw [Value.emissions_record hcount, Value.encoders, encodeEntries, hfield, hes]
  simp [Field.switch, Field.embedded]

end IsSectioned

end MachineArgs
