import MachineArgs.Proofs.Encoding.Embedding
import MachineArgs.Proofs.Encoding.Sections

/-!
# Fields with zeros

A field with a zero is as good as no field. A record with such a field (`Insertion.longer`) and the
one without it (`Insertion.shorter`) come to the same tables, with the groups in the same order, and
fail with the same errors, wherever they stand inside a value. The field may stand at any place, in
front of a group entry or behind it, with any directives but a group switch.

The field is not visited, so it leaves nothing behind. The records around it do not notice it
either: a record is zero exactly if its values are, and one more zero among them makes no
difference. Both are carried through the layers around the record by `Similar.within`, here with
equality of errors.

If all values of a record are zero, only its group switches are left. They make tables without
slots, which give no arguments.
-/

namespace MachineArgs

/-! ### One more field -/

/-- A place in a record with as many values as fields, and a field with a zero that is to stand
there. -/
structure Insertion where
  /-- The name of the kind of record. -/
  name : String
  /-- The entries before the place. -/
  entriesBefore : List Entry
  /-- The entries behind the place. -/
  entriesBehind : List Entry
  /-- The values before the place. -/
  before : List Value
  /-- The values behind the place. -/
  behind : List Value
  /-- The field. -/
  field : Field
  /-- The value of the field. -/
  value : Value
  /-- There is a value for each field before the place. -/
  count_before : (entriesBefore.filterMap Entry.field?).length = before.length
  /-- There is a value for each field behind the place. -/
  count_behind : (entriesBehind.filterMap Entry.field?).length = behind.length
  /-- The field has no group switch. -/
  group_eq : field.group = none
  /-- The value is zero. -/
  isZero_value : value.isZero = true

namespace Insertion

variable (i : Insertion)

/-- The record without the field. -/
def shorter : Value :=
  .record ⟨i.name, i.entriesBefore ++ i.entriesBehind⟩ (i.before ++ i.behind)

/-- The record with the field. -/
def longer : Value :=
  .record ⟨i.name, i.entriesBefore ++ .field i.field :: i.entriesBehind⟩
    (i.before ++ i.value :: i.behind)

theorem fieldCount_shorter :
    (⟨i.name, i.entriesBefore ++ i.entriesBehind⟩ : Schema).fieldCount =
      (i.before ++ i.behind).length := by
  simp [Schema.fieldCount, Schema.fields, i.count_before, i.count_behind]

theorem fieldCount_longer :
    (⟨i.name, i.entriesBefore ++ .field i.field :: i.entriesBehind⟩ : Schema).fieldCount =
      (i.before ++ i.value :: i.behind).length := by
  simp [Schema.fieldCount, Schema.fields, Entry.field?, i.count_before, i.count_behind]

/-- Along the entries the field leaves nothing behind. -/
theorem encodeEntries_eq (path : List String) :
    encodeEntries path (i.entriesBefore ++ .field i.field :: i.entriesBehind)
        (Value.encoders (i.before ++ i.value :: i.behind)) =
      encodeEntries path (i.entriesBefore ++ i.entriesBehind)
        (Value.encoders (i.before ++ i.behind)) := by
  have hcount : (i.entriesBefore.filterMap Entry.field?).length =
      (Value.encoders i.before).length := by
    rw [encoders_length, i.count_before]
  have hfield : encodeEntries path (.field i.field :: i.entriesBehind)
      (Value.encoders (i.value :: i.behind)) =
        encodeEntries path i.entriesBehind (Value.encoders i.behind) := by
    rw [Value.encoders, encodeEntries, encodeField, i.isZero_value, Bool.or_true, if_pos rfl,
      Field.switch, i.group_eq]
    show (encodeEntries path i.entriesBehind _ >>= fun rest ↦ .ok rest) = _
    cases encodeEntries path i.entriesBehind (Value.encoders i.behind) <;> rfl
  rw [Value.encoders_append, Value.encoders_append, encodeEntries_append hcount,
    encodeEntries_append hcount, hfield]

theorem similar : Similar Eq i.longer i.shorter where
  isZero_eq := by simp [longer, shorter, Value.isZero, i.isZero_value]
  rootPath_eq := rfl
  agree path d := by
    have heq : i.longer.encoder path d = i.shorter.encoder path d := by
      cases hflat : d.flattened with
      | false =>
        -- the error names the kind of record, not its fields
        simp [longer, shorter, Value.encoder, encodeRecord, hflat]
      | true =>
        rw [longer, shorter, Value.encoder_record hflat i.fieldCount_longer,
          Value.encoder_record hflat i.fieldCount_shorter, i.encodeEntries_eq]
    rw [heq]
    exact .refl (fun _ ↦ rfl) _

end Insertion

/-! ### Nothing but zeros -/

/-- Of fields with zeros only the group switches are left. -/
theorem encodeEntries_of_areZero {values : List Value} (hzero : ∀ v ∈ values, v.isZero = true)
    {entries : List Entry} (hcount : (entries.filterMap Entry.field?).length = values.length)
    (path : List String) :
    encodeEntries path entries (Value.encoders values) =
      .ok ((entries.filterMap Entry.group?).map .select) := by
  induction entries generalizing values with
  | nil => rfl
  | cons entry entries ih =>
    cases entry with
    | group name =>
      rw [encodeEntries, ih hzero hcount]
      rfl
    | field f =>
      cases values with
      | nil => simp [Entry.field?] at hcount
      | cons v values =>
        rw [List.forall_mem_cons] at hzero
        rw [Value.encoders, encodeEntries, encodeField, hzero.1, Bool.or_true, if_pos rfl,
          ih hzero.2 (by simpa [Entry.field?] using hcount), Field.switch]
        cases hgroup : f.group <;> simp [Entry.group?, hgroup]

namespace NamedTables

/-- Selections add tables without slots, which give no arguments. -/
theorem args_run_select (t : NamedTables) (names : List String) :
    (t.run (names.map .select)).args = t.args := by
  induction names generalizing t with
  | nil => rfl
  | cons name names ih =>
    rw [List.map_cons, run_cons, ih]
    show (t.select name).args = t.args
    rw [args, args, select]
    split
    · rfl
    · rw [List.flatMap_append]
      exact List.append_nil _

end NamedTables

theorem Value.args_of_areZero {schema : Schema} {values : List Value}
    (hcount : schema.fieldCount = values.length) (hzero : ∀ v ∈ values, v.isZero = true)
    (group : Option String) : (record schema values).args group = .ok [] := by
  rw [args, tables, emissions_record hcount, encodeEntries_of_areZero hzero hcount]
  show Except.ok ((NamedTables.initial group).run _).args = _
  rw [NamedTables.args_run_select]
  cases group <;> rfl

namespace Insertion

/-- A field that holds a zero and has no group switch may be added anywhere in a record with as many
values as fields, at any depth inside a value: tables, the order of groups and errors stay the same.
A record with as many values as fields, all of them zero, has no arguments. -/
theorem tables_inserted (i : Insertion) (layers : List Layer) (group : Option String) :
    (i.longer.within layers).tables group = (i.shorter.within layers).tables group ∧
      ∀ (schema : Schema) (values : List Value), schema.fieldCount = values.length →
        (∀ v ∈ values, v.isZero = true) → (Value.record schema values).args group = .ok [] :=
  ⟨((i.similar.within (fun _ ↦ rfl) layers).tables_agree group).eq,
    fun _ _ hcount hzero ↦ Value.args_of_areZero hcount hzero group⟩

/-- The schema of a cache, which selects a group between its fields and another one at its last. -/
def cacheSchema : Schema :=
  ⟨"Cache",
    [.field (.verbatim "size"), .group "device",
     .field { Field.verbatim "mode" with group := some "machine" }]⟩

/-- A disk with a cache that is expanded in place, before the disk selects a group. -/
def cache : Insertion where
  name := "Disk"
  entriesBefore := [.field (.verbatim "a")]
  entriesBehind := [.group "device", .field (.verbatim "b")]
  before := [.natural 1]
  behind := [.natural 2]
  field := .embedded "cache"
  value := .record cacheSchema [.natural 0, .absent]
  count_before := rfl
  count_behind := rfl
  group_eq := rfl
  isZero_value := rfl

/-- A disk inside another record does without a blank cache, and such a cache on its own has no
arguments. -/
theorem cache_tables_inserted :
    (cache.longer.within Embedding.outer).tables (some "drive") =
        (cache.shorter.within Embedding.outer).tables (some "drive") ∧
      (cache.longer.within Embedding.outer).args (some "drive") =
        .ok ["-drive", "a=1", "-device", "b=2,last=x"] ∧
      (Value.record cacheSchema [.natural 0, .absent]).args (some "drive") = .ok [] := by
  have hzero : ∀ v ∈ [Value.natural 0, .absent], v.isZero = true := by simp [Value.isZero]
  obtain ⟨hsame, hblank⟩ := tables_inserted cache Embedding.outer (some "drive")
  exact ⟨hsame, by rfl, hblank cacheSchema _ rfl hzero⟩

end Insertion

end MachineArgs
