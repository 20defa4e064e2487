import Mathlib.Data.List.Forall2
import MachineArgs.Proofs.Encoding.Walk

/-!
# Embedded records

A field that expands its record stands for the entries of that record, written where the field
stands. This module says how far that goes. The record that holds such a field (`Embedding.nested`)
is compared with the one in which the field is replaced by its group switch and the entries of the
embedded record (`Embedding.inPlace`), at any depth inside a value (`Value.within`).

* If the embedded record has a value that is not zero, both come to the same tables, and one fails
  exactly if the other does.
* If all its values are zero, nothing of it counts, its own group switches included. What is left is
  the group switch of the field (`Embedding.switched`).

The comparison is made for what values denote, and `Agree` says how close two outcomes are: results
are equal, errors are related. Paths show in errors only, so an embedded record comes to the same
emissions one level higher up (`encoder_agree`). The values around the place that changes are
dealt with once, for all relations of errors (`Similar.within`).
-/

namespace MachineArgs

/-! ### Outcomes that agree -/

/-- Two outcomes agree if they are the same result or errors that are related. -/
inductive Agree (R : Error → Error → Prop) {α : Type} : Except Error α → Except Error α → Prop where
  /-- The same result. -/
  | ok (a : α) : Agree R (.ok a) (.ok a)
  /-- Related errors. -/
  | error {e e' : Error} : R e e' → Agree R (.error e) (.error e')

/-- All errors are as good as each other. -/
def AnyError (_ _ : Error) : Prop :=
  True

/-- Errors are the same, but a complaint about a record with too few or too many values may count
one field and one value less. -/
inductive SameButCounts : Error → Error → Prop where
  /-- The same error. -/
  | refl (e : Error) : SameButCounts e e
  /-- One field and one value less. -/
  | counts (path : List String) (expected found : Nat) :
      SameButCounts (.schemaMismatch path (expected + 1) (found + 1))
        (.schemaMismatch path expected found)

namespace Agree

variable {R : Error → Error → Prop} {α β : Type} {x y : Except Error α}

theorem refl (hR : ∀ e, R e e) (x : Except Error α) : Agree R x x := by
  cases x with
  | ok a => exact .ok a
  | error e => exact .error (hR e)

theorem bind (h : Agree R x y) {f f' : α → Except Error β} (hf : ∀ a, Agree R (f a) (f' a)) :
    Agree R (x >>= f) (y >>= f') := by
  cases h with
  | ok a => exact hf a
  | error he => exact .error he

theorem toOption_eq (h : Agree R x y) : x.toOption = y.toOption := by
  cases h <;> rfl

/-- Outcomes that agree up to equal errors are equal. -/
theorem eq (h : Agree Eq x y) : x = y := by
  cases h with
  | ok a => rfl
  | error he => rw [he]

/-- If errors are told by others, so are outcomes. -/
theorem eq_mapError {f : Error → Error} (h : Agree (fun e e' ↦ e' = f e) x y) :
    y = x.mapError f := by
  cases h with
  | ok a => rfl
  | error he => rw [he]; rfl

end Agree

/-! ### Agreement along the parts of a value -/

section Parts

variable {R : Error → Error → Prop} {path path' : List String}

/-- The values of two fields are zero alike and agree, below different paths. -/
def AgreeBelow (R : Error → Error → Prop) (path path' : List String) (a b : Bool × Encoder) :
    Prop :=
  a.1 = b.1 ∧ ∀ ident d, Agree R (a.2 (path ++ [ident]) d) (b.2 (path' ++ [ident]) d)

theorem encodeField_agree {isZero : Bool} {encoder encoder' : Encoder} {f : Field}
    (h : ∀ d, Agree R (encoder (path ++ [f.ident]) d) (encoder' (path' ++ [f.ident]) d)) :
    Agree R (encodeField path f isZero encoder) (encodeField path' f isZero encoder') := by
  rw [encodeField, encodeField]
  split
  · exact .ok []
  · exact h _

/-- Along a schema, agreement of the values is enough. -/
theorem encodeEntries_agree {values values' : List (Bool × Encoder)}
    (h : List.Forall₂ (AgreeBelow R path path') values values') (entries : List Entry) :
    Agree R (encodeEntries path entries values) (encodeEntries path' entries values') := by
  induction entries generalizing values values' with
  | nil => exact .ok []
  | cons entry entries ih =>
    cases entry with
    | group name => exact (ih h).bind fun rest ↦ .ok _
    | field f =>
      cases h with
      | nil => exact .ok []
      | @cons a b _ _ hab hrest =>
        obtain ⟨isZero, encoder⟩ := a
        obtain ⟨isZero', encoder'⟩ := b
        obtain rfl : isZero = isZero' := hab.1
        exact (encodeField_agree fun d ↦ hab.2 f.ident d).bind fun here ↦
          (ih hrest).bind fun rest ↦ .ok _

theorem encodeMap_agree {entries : List (String × Encoder)}
    (h : ∀ e ∈ entries, ∀ d, Agree R (e.2 (path ++ [e.1]) d) (e.2 (path' ++ [e.1]) d))
    (d : Directives) : Agree R (encodeMap entries path d) (encodeMap entries path' d) := by
  induction entries with
  | nil => exact .ok []
  | cons e entries ih =>
    exact (h e List.mem_cons_self _).bind fun here ↦
      (ih fun e he ↦ h e (List.mem_cons_of_mem _ he)).bind fun rest ↦ .ok _

/-- Two records of one name agree if their entries do. Either both have as many values as fields, or
the complaints about them are related. -/
theorem encodeRecord_agree (hR : ∀ e, R e e) {name : String} {entries entries' : List Entry}
    {values values' : List (Bool × Encoder)} {n n' : Nat}
    (hn : (⟨name, entries⟩ : Schema).fieldCount = n)
    (hn' : (⟨name, entries'⟩ : Schema).fieldCount = n')
    (hcount : n = values.length ↔ n' = values'.length)
    (hmismatch : R (.schemaMismatch path n values.length) (.schemaMismatch path n' values'.length))
    (h : Agree R (encodeEntries path entries values) (encodeEntries path entries' values'))
    (d : Directives) :
    Agree R (encodeRecord ⟨name, entries⟩ values path d)
      (encodeRecord ⟨name, entries'⟩ values' path d) := by
  rw [encodeRecord, encodeRecord, hn, hn']
  split
  · exact .error (hR _)
  · by_cases heq : n = values.length
    · rw [if_neg (not_not.2 heq), if_neg (not_not.2 (hcount.1 heq))]
      exact h
    · rw [if_pos heq, if_pos (fun heq' ↦ heq (hcount.2 heq'))]
      exact .error hmismatch

end Parts

/-! ### Agreement at different paths -/

/-- Errors that show related paths are related. -/
structure Carries (P : List String → List String → Prop) (R : Error → Error → Prop) : Prop where
  /-- Related paths stay related one level further down. -/
  below {path path' : List String} (ident : String) :
    P path path' → P (path ++ [ident]) (path' ++ [ident])
  /-- So are complaints about a value at these paths. -/
  shape {path path' : List String} (misfit : Misfit) :
    P path path' → R (.unsupportedShape path misfit) (.unsupportedShape path' misfit)
  /-- So are complaints about the number of values. -/
  counts {path path' : List String} (expected found : Nat) :
    P path path' → R (.schemaMismatch path expected found) (.schemaMismatch path' expected found)
  /-- A complaint about a handle shows no path. -/
  handle (name : String) : R (.unassignedHandle name) (.unassignedHandle name)

section Paths

variable {P : List String → List String → Prop} {R : Error → Error → Prop}
variable (h : Carries P R) {path path' : List String}
include h

theorem elementText_agree (hpath : P path path') (v : Value) :
    Agree R (v.elementText path) (v.elementText path') := by
  induction v using Value.induction with
  | present inner ih | zero inner ih => exact ih
  | absent | text | reference | string | integer | natural => exact .ok _
  | path name location =>
    cases location with
    | none => exact .error (h.handle name)
    | some s => exact .ok _
  | record | list | map | boolean | unsupported => exact .error (h.shape _ hpath)

theorem elementTexts_agree (hpath : P path path') (items : List Value) :
    Agree R (elementTexts path items) (elementTexts path' items) := by
  induction items with
  | nil => exact .ok _
  | cons v items ih =>
    exact (elementText_agree h hpath v).bind fun text? ↦ ih.bind fun texts ↦ .ok _

theorem encodeList_agree (hpath : P path path') (items : List Value) (d : Directives) :
    Agree R (encodeList items path d) (encodeList items path' d) := by
  refine (elementTexts_agree h hpath items).bind fun texts ↦ ?_
  split
  · exact .ok _
  · split
    · exact .ok _
    · split
      · exact .ok _
      · exact .error (h.shape _ hpath)

/-- The path shows in errors only. -/
theorem encoder_agree (v : Value) (hpath : P path path') (d : Directives) :
    Agree R (v.encoder path d) (v.encoder path' d) := by
  induction v using Value.induction generalizing path path' d with
  | absent | text | reference | string | boolean | integer | natural => exact .ok _
  | present inner ih | zero inner ih => exact ih hpath d
  | path name location =>
    cases location with
    | none => exact .error (h.handle name)
    | some s => exact .ok _
  | record schema values ih =>
    rw [Value.encoder, encodeRecord, encodeRecord]
    split
    · exact .error (h.shape _ hpath)
    · split
      · exact .error (h.counts _ _ hpath)
      · rw [Value.encoders_eq_map]
        refine encodeEntries_agree (List.forall₂_map_left_iff.2 (List.forall₂_map_right_iff.2
          (List.forall₂_same.2 ?_))) _
        exact fun v hv ↦ ⟨rfl, fun ident d ↦ ih v hv (h.below ident hpath) d⟩
  | list items => exact encodeList_agree h hpath items d
  | map entries ih =>
    refine encodeMap_agree ?_ d
    rw [Value.entryEncoders_eq_map, List.forall_mem_map]
    exact fun e he d ↦ ih e he (h.below _ hpath) d
  | unsupported kind => exact .error (h.shape _ hpath)

end Paths

/-- Where errors do not matter, paths do not. -/
theorem carries_anyError : Carries (fun _ _ ↦ True) AnyError :=
  ⟨fun _ _ ↦ trivial, fun _ _ ↦ trivial, fun _ _ _ ↦ trivial, fun _ ↦ trivial⟩

/-! ### Places inside a value -/

/-- What stands immediately around a value. -/
inductive Layer where
  /-- A record, with its values before and behind. -/
  | record (schema : Schema) (before after : List Value)
  /-- An option. -/
  | present
  /-- A zero of a type. -/
  | zero

/-- A value with one layer around it. -/
def Layer.around (v : Value) : Layer → Value
  | record schema before after => .record schema (before ++ v :: after)
  | present => .present v
  | zero => .zero v

/-- A value with layers around it, the innermost first. -/
def Value.within (v : Value) : List Layer → Value
  | [] => v
  | layer :: layers => (layer.around v).within layers

/-- Values that are zero alike and denote outcomes that agree. -/
structure Similar (R : Error → Error → Prop) (v v' : Value) : Prop where
  /-- Both are zero, or none is. -/
  isZero_eq : v.isZero = v'.isZero
  /-- On their own both have the same path. -/
  rootPath_eq : v.rootPath = v'.rootPath
  /-- What they denote agrees everywhere. -/
  agree : ∀ path d, Agree R (v.encoder path d) (v'.encoder path d)

namespace Similar

variable {R : Error → Error → Prop} {v v' : Value}

/-- Records are similar if one value differs that is zero alike and agrees. -/
theorem record (hR : ∀ e, R e e) (hzero : v.isZero = v'.isZero)
    (hagree : ∀ path d, Agree R (v.encoder path d) (v'.encoder path d)) (schema : Schema)
    (before after : List Value) :
    Similar R (.record schema (before ++ v :: after)) (.record schema (before ++ v' :: after)) := by
  refine ⟨by simp [Value.isZero, hzero], rfl, fun path d ↦ ?_⟩
  have hlength : (Value.encoders (before ++ v :: after)).length =
      (Value.encoders (before ++ v' :: after)).length := by simp
  refine encodeRecord_agree hR rfl rfl (by rw [hlength]) (by rw [hlength]; exact hR _) ?_ d
  -- only one value differs
  have hsame : ∀ values, List.Forall₂ (AgreeBelow R path path) values values :=
    fun values ↦ List.forall₂_same.2 fun _ _ ↦ ⟨rfl, fun _ _ ↦ .refl hR _⟩
  rw [Value.encoders_eq_map, Value.encoders_eq_map, List.map_append, List.map_append,
    List.map_cons, List.map_cons]
  exact encodeEntries_agree (List.rel_append (hsame _)
    (.cons ⟨hzero, fun ident d ↦ hagree _ d⟩ (hsame _))) _

theorem around (hR : ∀ e, R e e) (h : Similar R v v') (layer : Layer) :
    Similar R (layer.around v) (layer.around v') := by
  cases layer with
  | present => exact ⟨rfl, rfl, h.agree⟩
  | zero => exact ⟨rfl, rfl, h.agree⟩
  | record schema before after => exact record hR h.isZero_eq h.agree schema before after

theorem within (hR : ∀ e, R e e) (h : Similar R v v') (layers : List Layer) :
    Similar R (v.within layers) (v'.within layers) := by
  induction layers generalizing v v' with
  | nil => exact h
  | cons layer layers ih => exact ih (h.around hR layer)

theorem tables_agree (h : Similar R v v') (group : Option String) :
    Agree R (v.tables group) (v'.tables group) := by
  rw [Value.tables, Value.tables, Value.emissions, Value.emissions, h.rootPath_eq]
  exact (h.agree _ _).bind fun es ↦ .ok _

end Similar

/-! ### Group directives as entries -/

/-- The entries that a field's group directive amounts to. -/
def Field.groupEntries (f : Field) : List Entry :=
  f.group.toList.map .group

theorem fields_groupEntries (f : Field) : f.groupEntries.filterMap Entry.field? = [] := by
  cases h : f.group <;> simp [Field.groupEntries, Entry.field?, h]

theorem encodeEntries_groupEntries (path : List String) (f : Field) (entries : List Entry)
    (values : List (Bool × Encoder)) :
    encodeEntries path (f.groupEntries ++ entries) values = (do
      let rest ← encodeEntries path entries values
      return f.switch ++ rest) := by
  rw [Field.groupEntries, Field.switch]
  cases f.group with
  | none =>
    show encodeEntries path entries values = _
    cases encodeEntries path entries values <;> rfl
  | some name => rfl

/-! ### Embedded records -/

/-- A record with a field that expands the record it holds. There is a value for each field before
that one and for each field of the embedded record; whether there are too few or too many behind it
is left open. -/
structure Embedding where
  /-- The name of the kind of record. -/
  name : String
  /-- The entries before the field. -/
  entriesBefore : List Entry
  /-- The field. -/
  field : Field
  /-- The entries behind the field. -/
  entriesBehind : List Entry
  /-- The values before the embedded record. -/
  before : List Value
  /-- The schema of the embedded record. -/
  schema : Schema
  /-- The values of the embedded record. -/
  values : List Value
  /-- The values behind the embedded record. -/
  behind : List Value
  /-- The embedded record stands in the field. -/
  count_before : (entriesBefore.filterMap Entry.field?).length = before.length
  /-- The field expands its record. -/
  flattened : field.flattened = true
  /-- The field is not passed over. -/
  not_skipped : field.skipped = false
  /-- The embedded record is complete. -/
  count_values : schema.fieldCount = values.length

namespace Embedding

variable (e : Embedding)

/-- The record as it is. -/
def nested : Value :=
  .record ⟨e.name, e.entriesBefore ++ .field e.field :: e.entriesBehind⟩
    (e.before ++ .record e.schema e.values :: e.behind)

/-- The record with the group switch of the field and the embedded entries in place of the field. -/
def inPlace : Value :=
  .record
    ⟨e.name, e.entriesBefore ++ (e.field.groupEntries ++ (e.schema.entries ++ e.entriesBehind))⟩
    (e.before ++ (e.values ++ e.behind))

/-- The record with the group switch of the field in place of the field. -/
def switched : Value :=
  .record ⟨e.name, e.entriesBefore ++ (e.field.groupEntries ++ e.entriesBehind)⟩
    (e.before ++ e.behind)

theorem count_before_encoders :
    (e.entriesBefore.filterMap Entry.field?).length = (Value.encoders e.before).length := by
  rw [encoders_length, e.count_before]

theorem count_values_encoders :
    (e.schema.entries.filterMap Entry.field?).length = (Value.encoders e.values).length := by
  rw [encoders_length, ← e.count_values]
  rfl

/-- The number of fields besides those of the embedded record. -/
def otherFields : Nat :=
  e.before.length + (e.entriesBehind.filterMap Entry.field?).length

theorem fieldCount_nested :
    (⟨e.name, e.entriesBefore ++ .field e.field :: e.entriesBehind⟩ : Schema).fieldCount =
      e.otherFields + 1 := by
  simp [Schema.fieldCount, Schema.fields, Entry.field?, otherFields, e.count_before, Nat.add_assoc]

theorem fieldCount_inPlace :
    (⟨e.name, e.entriesBefore ++ (e.field.groupEntries ++ (e.schema.entries ++ e.entriesBehind))⟩ :
      Schema).fieldCount = e.otherFields + e.values.length := by
  have hvalues : (e.schema.entries.filterMap Entry.field?).length = e.values.length :=
    e.count_values
  simp only [Schema.fieldCount, Schema.fields, List.filterMap_append, fields_groupEntries,
    List.length_append, List.length_nil, otherFields, e.count_before, hvalues]
  omega

theorem fieldCount_switched :
    (⟨e.name, e.entriesBefore ++ (e.field.groupEntries ++ e.entriesBehind)⟩ : Schema).fieldCount =
      e.otherFields := by
  simp [Schema.fieldCount, Schema.fields, fields_groupEntries, otherFields, e.count_before]

variable {e}

/-- An embedded record that is not zero is encoded as its own entries, one level higher up. -/
theorem encodeField_agree (h : Value.areZero e.values = false) (path : List String) :
    Agree AnyError
      (encodeField path e.field (Value.record e.schema e.values).isZero
        (Value.record e.schema e.values).encoder)
      (encodeEntries path e.schema.entries (Value.encoders e.values)) := by
  have hpath : Agree AnyError
      ((Value.record e.schema e.values).encoder (path ++ [e.field.ident]) e.field.directives)
      ((Value.record e.schema e.values).encoder path e.field.directives) :=
    encoder_agree carries_anyError _ trivial _
  have hplain : (Value.record e.schema e.values).encoder path e.field.directives =
      encodeEntries path e.schema.entries (Value.encoders e.values) :=
    Value.encoder_record e.flattened e.count_values path
  rw [encodeField, Value.isZero, h, e.not_skipped, ← hplain]
  exact hpath

theorem similar_inPlace (h : Value.areZero e.values = false) :
    Similar AnyError e.nested e.inPlace := by
  refine ⟨by simp [nested, inPlace, Value.isZero], rfl, fun path d ↦ ?_⟩
  refine encodeRecord_agree (fun _ ↦ trivial) e.fieldCount_nested e.fieldCount_inPlace ?_ trivial
    ?_ d
  · simp only [encoders_length, List.length_append, List.length_cons]
    omega
  · rw [Value.encoders_append, Value.encoders_append, encodeEntries_append e.count_before_encoders,
      encodeEntries_append e.count_before_encoders, encodeEntries_groupEntries,
      Value.encoders_append, encodeEntries_append e.count_values_encoders]
    refine (Agree.refl (fun _ ↦ trivial) _).bind fun here ↦ Agree.bind ?_ fun rest ↦ .ok _
    rw [Value.encoders, encodeEntries, bind_assoc]
    refine (encodeField_agree h path).bind fun inner ↦ ?_
    rw [bind_assoc]
    refine (Agree.refl (fun _ ↦ trivial) _).bind fun rest ↦ ?_
    rw [pure_eq_ok, pure_eq_ok, ok_bind, pure_eq_ok, List.append_assoc]
    exact .ok _

/-- An embedded record that is zero leaves the group switch of its field behind. -/
theorem similar_switched (h : Value.areZero e.values = true) :
    Similar SameButCounts e.nested e.switched := by
  have hall : e.values.all Value.isZero = true := by rwa [Value.areZero_eq_all] at h
  have hlength : (Value.encoders (e.before ++ .record e.schema e.values :: e.behind)).length =
      (Value.encoders (e.before ++ e.behind)).length + 1 := by
    simp only [encoders_length, List.length_append, List.length_cons]
    omega
  refine ⟨by simp [nested, switched, Value.isZero, hall], rfl, fun path d ↦ ?_⟩
  refine encodeRecord_agree .refl e.fieldCount_nested e.fieldCount_switched ?_ ?_ ?_ d
  · rw [hlength]
    omega
  · rw [hlength]
    exact .counts _ _ _
  · rw [Value.encoders_append, Value.encoders_append, encodeEntries_append e.count_before_encoders,
      encodeEntries_append e.count_before_encoders, encodeEntries_groupEntries, Value.encoders,
      encodeEntries, encodeField, Value.isZero, h, Bool.or_true, if_pos rfl, ok_bind]
    simp only [List.append_nil]
    exact .refl .refl _

/-- An embedded record, at any depth inside a value, compared with its entries in place. If it has a
value that is not zero, both come to the same tables, and one fails exactly if the other does. If
all its values are zero, only the group switch of its field is left; then the errors are the same as
well, but for the counts of a record that has too few or too many values. -/
theorem tables_within (e : Embedding) (layers : List Layer) (group : Option String) :
    ((∃ v ∈ e.values, v.isZero = false) →
      ((e.nested.within layers).tables group).toOption =
        ((e.inPlace.within layers).tables group).toOption) ∧
    ((∀ v ∈ e.values, v.isZero = true) →
      Agree SameButCounts ((e.nested.within layers).tables group)
        ((e.switched.within layers).tables group)) := by
  constructor
  · rintro ⟨v, hv, hzero⟩
    have hsome : Value.areZero e.values = false := by
      rw [Value.areZero_eq_all, List.all_eq_false]
      exact ⟨v, hv, by simp [hzero]⟩
    exact (((similar_inPlace hsome).within (fun _ ↦ trivial) layers).tables_agree group).toOption_eq
  · intro hall
    have hnone : Value.areZero e.values = true := by
      rw [Value.areZero_eq_all, List.all_eq_true]
      exact hall
    exact ((similar_switched hnone).within .refl layers).tables_agree group

/-- A record with a field that selects a group and expands a record that selects another group
between its two values. -/
def disk (a b : Nat) : Embedding where
  name := "Disk"
  entriesBefore := [.group "machine"]
  field := { Field.embedded "base" with group := some "drive" }
  entriesBehind := [.field (.verbatim "tail")]
  before := []
  schema := ⟨"Base", [.field (.verbatim "a"), .group "device", .field (.verbatim "b")]⟩
  values := [.natural a, .natural b]
  behind := [.string "t"]
  count_before := rfl
  flattened := rfl
  not_skipped := rfl
  count_values := rfl

/-- What stands around the disk. -/
def outer : List Layer :=
  [.record ⟨"Outer", [.field (.embedded "disk"), .field (.verbatim "last")]⟩ [] [.string "x"],
   .present]

theorem disk_tables_within :
    (((disk 0 2).nested.within outer).tables none).toOption =
        (((disk 0 2).inPlace.within outer).tables none).toOption ∧
      ((disk 0 2).nested.within outer).args none = .ok ["-device", "b=2,tail=t,last=x"] ∧
      Agree SameButCounts (((disk 0 0).nested.within outer).tables none)
        (((disk 0 0).switched.within outer).tables none) ∧
      ((disk 0 0).nested.within outer).args none = .ok ["-drive", "tail=t,last=x"] :=
  ⟨((disk 0 2).tables_within outer none).1 ⟨.natural 2, by simp [disk], by decide⟩, by rfl,
    ((disk 0 0).tables_within outer none).2 (by simp [disk, Value.isZero]), by rfl⟩

end Embedding

end MachineArgs
