import MachineArgs.Proofs.Encoding.Walk
import MachineArgs.Proofs.OptionTable.Cell

/-!
# Plain records

A value is *plain* under its directives if it takes one slot at most there: nothing, a scalar, or a
list that is joined. A field with a plain value is a cell, a field with a record of such fields is
the cells of that record, and a field that is passed over is no matter. Such values are *sheets*,
and they are encoded as their cells in order (`encodeField_of_isSheetIn`).

Most records of devices are sheets but for one group entry, at their start or at the start of the
record that they embed first (`Leads`). They leave one table behind, that of their cells
(`Leads.tables_eq`); so what such a record writes under a key is found in the window of that table
(`Leads.exists_slot`).
-/

namespace MachineArgs

/-! ### Plain values -/

/-- The texts of a list whose elements all have one. -/
theorem elementTexts_map {α : Type} (f : α → Value) (text : α → String) (path : List String)
    (h : ∀ a, (f a).elementText path = .ok (some (text a))) (l : List α) :
    elementTexts path (l.map f) = .ok (l.map text) := by
  induction l with
  | nil => rfl
  | cons a l ih =>
    rw [List.map_cons, elementTexts, h, ih]
    rfl

namespace Value

/-- Whether a value takes one slot at most under the given directives. -/
def isPlain (d : Directives) : Value → Bool
  | absent => true
  | present inner => inner.isPlain d
  | zero inner => inner.isPlain d
  | list items => d.separator.isSome && (elementTexts [] items).isOk
  | v => v.scalarText?.isSome

/-- The text of a plain value, if it takes a slot. -/
def plainText? (d : Directives) : Value → Option String
  | present inner => inner.plainText? d
  | zero inner => inner.plainText? d
  | list items =>
    match d.separator, elementTexts [] items with
    | some separator, .ok (s :: texts) => some (separator.intercalate (s :: texts))
    | _, _ => none
  | v => v.scalarText?

/-- A plain value is written as its text, if it has one. -/
theorem encoder_of_isPlain {v : Value} {d : Directives} (h : v.isPlain d = true)
    (path : List String) :
    v.encoder path d = .ok ((v.plainText? d).toList.map (Emission.write d.key)) := by
  induction v using Value.induction with
  | absent => rfl
  | present inner ih | zero inner ih => exact ih h
  | path name location =>
    cases location with
    | none => simp [isPlain, scalarText?] at h
    | some s => rfl
  | text | reference | string | boolean | integer | natural => rfl
  | record | map | unsupported => simp [isPlain, scalarText?] at h
  | list items =>
    rw [isPlain, Bool.and_eq_true] at h
    obtain ⟨sep, hsep⟩ := Option.isSome_iff_exists.1 h.1
    cases htexts : elementTexts [] items with
    | error e => simp [htexts, Except.isOk, Except.toBool] at h
    | ok texts =>
      refine encodeList_eq.2 ⟨texts, htexts, ?_⟩
      cases texts with
      | nil => exact .inl ⟨rfl, by simp [plainText?, hsep, htexts]⟩
      | cons s texts =>
        exact .inr (.inl ⟨by simp, sep, hsep, by simp [plainText?, hsep, htexts]⟩)

end Value

/-- Types whose members are plain under all directives. -/
class PlainValue (α : Type) [ToValue α] : Prop where
  /-- Every member is plain. -/
  isPlain : ∀ (d : Directives) (a : α), (toValue a : Value).isPlain d = true

instance : PlainValue String := ⟨fun _ _ ↦ rfl⟩
instance : PlainValue Bool := ⟨fun _ _ ↦ rfl⟩
instance : PlainValue Nat := ⟨fun _ _ ↦ rfl⟩

instance {α : Type} [ToValue α] [PlainValue α] : PlainValue (Option α) where
  isPlain d o := by
    cases o with
    | none => rfl
    | some a => exact PlainValue.isPlain d a

/-! ### Plain fields -/

/-- What a cell emits, if there is anything to write. -/
def Cell.emission? (c : Cell) : Option Emission :=
  c.text?.map (Emission.write c.key?)

/-- What a field with a plain value is written as. -/
def Field.cell (f : Field) (v : Value) : Cell where
  key? := f.key?
  text? := if f.skipped || v.isZero then none else v.plainText? f.directives

theorem encodeField_of_isPlain {f : Field} {v : Value}
    (h : (f.skipped || v.isZero || v.isPlain f.directives) = true) (path : List String) :
    encodeField path f v.isZero v.encoder = .ok (f.cell v).emission?.toList := by
  rw [encodeField, Cell.emission?, Field.cell]
  by_cases hskip : (f.skipped || v.isZero) = true
  · simp [hskip]
  · have hplain : v.isPlain f.directives = true := by simpa [hskip] using h
    rw [if_neg hskip, if_neg hskip, Value.encoder_of_isPlain hplain, ← Option.toList_map]
    rfl

/-- A field for a text is written unless the text is empty. -/
theorem Field.cell_string {f : Field} (hskip : f.skipped = false) {s : String} (h : s ≠ "") :
    f.cell (toValue s) = ⟨f.key?, some s⟩ := by
  have hzero : (toValue s : Value).isZero = false := by
    show s.isEmpty = false
    simpa using h
  rw [cell, hzero, hskip]
  rfl

/-- A field that joins a list is written as one text, if any element has one. -/
theorem Field.cell_joined {f : Field} {items : List Value} {texts : List String} {sep : String}
    (hskip : f.skipped = false) (hsep : f.separator = some sep)
    (htexts : elementTexts [] items = .ok texts) :
    (Value.list items).isPlain f.directives = true ∧
      f.cell (.list items) =
        ⟨f.key?, if texts.isEmpty then none else some (sep.intercalate texts)⟩ := by
  have hdirective : f.directives.separator = some sep := hsep
  constructor
  · rw [Value.isPlain, hdirective, htexts]
    rfl
  · rw [Field.cell, hskip, Value.plainText?, hdirective, htexts]
    cases items with
    | nil =>
      obtain rfl : [] = texts := Except.ok.inj htexts
      rfl
    | cons v items => cases texts <;> rfl

/-! ### Sheets -/

/-- What cells emit. -/
def cellEmissions (cells : List Cell) : List Emission :=
  cells.filterMap Cell.emission?

@[simp]
theorem cellEmissions_append (cells cells' : List Cell) :
    cellEmissions (cells ++ cells') = cellEmissions cells ++ cellEmissions cells' :=
  List.filterMap_append

@[simp]
theorem cellEmissions_singleton (c : Cell) : cellEmissions [c] = c.emission?.toList := by
  rw [cellEmissions, List.filterMap_cons]
  cases c.emission? <;> rfl

/-- Whether an entry is a field that leaves the group alone. -/
def Entry.isQuiet : Entry → Bool
  | group _ => false
  | field f => f.group.isNone

mutual

/-- The cells that a value in a field comes to: those of its own fields if it is a record. -/
def Value.cellsIn (f : Field) : Value → List Cell
  | .record schema values =>
    if f.skipped || Value.areZero values then [] else cellsOf schema.fields values
  | v => [f.cell v]

/-- The cells that the values of fields come to. -/
def cellsOf : List Field → List Value → List Cell
  | f :: fs, v :: values => v.cellsIn f ++ cellsOf fs values
  | _, _ => []

end

mutual

/-- Whether a value in a field is passed over, plain, or a record of such values without groups. -/
def Value.isSheetIn (f : Field) : Value → Bool
  | .record schema values =>
    f.skipped || Value.areZero values ||
      (f.flattened && schema.entries.all Entry.isQuiet && areSheets schema.fields values)
  | v => f.skipped || v.isZero || v.isPlain f.directives

/-- Whether there is a value for each field, each passed over, plain, or a record of such values. -/
def areSheets : List Field → List Value → Bool
  | [], [] => true
  | f :: fs, v :: values => v.isSheetIn f && areSheets fs values
  | _, _ => false

end

/-- A plain value is a sheet of one cell. -/
theorem isSheetIn_of_isPlain {f : Field} {v : Value} (h : v.isPlain f.directives = true) :
    v.isSheetIn f = true ∧ v.cellsIn f = [f.cell v] := by
  cases v with
  | record => simp [Value.isPlain, Value.scalarText?] at h
  | _ => simp [Value.isSheetIn, Value.cellsIn, h]

theorem areSheets_cons {f : Field} {v : Value} (h : v.isPlain f.directives = true)
    (fs : List Field) (values : List Value) :
    areSheets (f :: fs) (v :: values) = areSheets fs values := by
  rw [areSheets, (isSheetIn_of_isPlain h).1, Bool.true_and]

theorem cellsOf_cons {f : Field} {v : Value} (h : v.isPlain f.directives = true)
    (fs : List Field) (values : List Value) :
    cellsOf (f :: fs) (v :: values) = f.cell v :: cellsOf fs values := by
  rw [cellsOf, (isSheetIn_of_isPlain h).2, List.singleton_append]

/-- Plain values come to one cell for each field. -/
theorem cellsOf_eq_zipWith {fs : List Field} {values : List Value}
    (h : ∀ v ∈ values, ∀ d, v.isPlain d = true) :
    cellsOf fs values = List.zipWith Field.cell fs values := by
  induction fs generalizing values with
  | nil => cases values <;> rfl
  | cons f fs ih =>
    cases values with
    | nil => rfl
    | cons v values =>
      rw [List.forall_mem_cons] at h
      rw [cellsOf_cons (h.1 _), ih h.2, List.zipWith_cons_cons]

/-- Each cell has the key of its field. -/
theorem map_key?_zipWith_cell {fs : List Field} {values : List Value}
    (hlength : fs.length = values.length) :
    (List.zipWith Field.cell fs values).map Cell.key? = fs.map Field.key? := by
  induction fs generalizing values with
  | nil => rfl
  | cons f fs ih =>
    cases values with
    | nil => cases hlength
    | cons v values =>
      rw [List.zipWith_cons_cons, List.map_cons, ih (Nat.succ.inj hlength)]
      rfl

/-- Plain values come to cells with the keys of their fields. -/
theorem filterMap_key?_cellsOf {fs : List Field} {values : List Value}
    {keys : List (Option String)} (hkeys : fs.map Field.key? = keys)
    (hlength : fs.length = values.length) (h : ∀ v ∈ values, ∀ d, v.isPlain d = true) :
    (cellsOf fs values).filterMap Cell.key? = keys.filterMap id := by
  rw [cellsOf_eq_zipWith h, ← hkeys, ← map_key?_zipWith_cell hlength, List.filterMap_map]
  rfl

/-- Plain values are sheets, one for each field. -/
theorem areSheets_of_forall_isPlain {fs : List Field} {values : List Value}
    (hlength : fs.length = values.length) (h : ∀ v ∈ values, ∀ d, v.isPlain d = true) :
    areSheets fs values = true := by
  induction fs generalizing values with
  | nil =>
    obtain rfl : values = [] := List.length_eq_zero_iff.1 hlength.symm
    rfl
  | cons f fs ih =>
    cases values with
    | nil => cases hlength
    | cons v values =>
      rw [List.forall_mem_cons] at h
      rw [areSheets_cons (h.1 _), ih (Nat.succ.inj hlength) h.2]

theorem length_of_areSheets {fs : List Field} {values : List Value}
    (h : areSheets fs values = true) : fs.length = values.length := by
  induction fs generalizing values with
  | nil =>
    cases values with
    | nil => rfl
    | cons v values => simp [areSheets] at h
  | cons f fs ih =>
    cases values with
    | nil => simp [areSheets] at h
    | cons v values =>
      rw [areSheets, Bool.and_eq_true] at h
      rw [List.length_cons, List.length_cons, ih h.2]

section Entries

variable {values : List Value}

/-- Quiet entries are encoded cell by cell if each value is. -/
theorem encodeEntries_of_areSheets
    (hfield : ∀ v ∈ values, ∀ f : Field, v.isSheetIn f = true → ∀ path,
      encodeField path f v.isZero v.encoder = .ok (cellEmissions (v.cellsIn f)))
    {entries : List Entry} (hquiet : entries.all Entry.isQuiet = true)
    (h : areSheets (entries.filterMap Entry.field?) values = true) (path : List String) :
    encodeEntries path entries (Value.encoders values) =
      .ok (cellEmissions (cellsOf (entries.filterMap Entry.field?) values)) := by
  induction entries generalizing values with
  | nil =>
    cases values with
    | nil => rfl
    | cons v values => simp [areSheets] at h
  | cons entry entries ih =>
    cases entry with
    | group name => simp [Entry.isQuiet] at hquiet
    | field f =>
      rw [List.filterMap_cons] at h ⊢
      cases values with
      | nil => simp [areSheets, Entry.field?] at h
      | cons v values =>
        rw [List.all_cons, Bool.and_eq_true] at hquiet
        have hboth : v.isSheetIn f = true ∧
            areSheets (entries.filterMap Entry.field?) values = true := by
          simpa [areSheets, Entry.field?] using h
        have hswitch : f.switch = [] := by
          rw [Field.switch, Option.isNone_iff_eq_none.1 hquiet.1]
          rfl
        have hrest := ih (fun v hv ↦ hfield v (List.mem_cons_of_mem _ hv)) hquiet.2 hboth.2
        rw [Value.encoders, encodeEntries, hfield v List.mem_cons_self f hboth.1, hrest, hswitch]
        simp [Entry.field?, cellsOf]

end Entries

/-- A field is encoded cell by cell if its value is a sheet. -/
theorem encodeField_of_isSheetIn {v : Value} {f : Field} (h : v.isSheetIn f = true)
    (path : List String) :
    encodeField path f v.isZero v.encoder = .ok (cellEmissions (v.cellsIn f)) := by
  induction v using Value.induction generalizing f path with
  | record schema values ih =>
    -- A record that is passed over has no cells; any other is encoded along its schema.
    rw [Value.isSheetIn, Bool.or_eq_true] at h
    rw [encodeField, Value.isZero, Value.cellsIn]
    by_cases hskip : (f.skipped || Value.areZero values) = true
    · rw [if_pos hskip, if_pos hskip]
      rfl
    · obtain ⟨⟨hflat, hquiet⟩, hsheets⟩ : (f.flattened = true ∧
          schema.entries.all Entry.isQuiet = true) ∧ areSheets schema.fields values = true := by
        simpa [Bool.and_eq_true] using h.resolve_left hskip
      have hcount : schema.fieldCount = values.length := length_of_areSheets hsheets
      rw [if_neg hskip, if_neg hskip, Value.encoder_record hflat hcount]
      exact encodeEntries_of_areSheets (fun v hv f h path ↦ ih v hv h path) hquiet hsheets _
  | _ =>
    refine (encodeField_of_isPlain h path).trans ?_
    simp [Value.cellsIn]

/-! ### Records with one group -/

/-- The cells of a record. -/
def Value.cells : Value → List Cell
  | .record schema values => cellsOf schema.fields values
  | _ => []

/-- An embedded record that is written comes to its own cells. -/
theorem cells_embedded {name ident : String} {schema : Schema} {entries : List Entry}
    {inner values : List Value} (h : Value.areZero inner = false) :
    (Value.record ⟨name, .field (.embedded ident) :: entries⟩
      (.record schema inner :: values)).cells =
        cellsOf schema.fields inner ++ cellsOf (entries.filterMap Entry.field?) values := by
  show (Value.record schema inner).cellsIn (.embedded ident) ++ _ = _
  rw [Value.cellsIn, h]
  rfl

/-- A record selects a group before anything is written, at its start or in the record that it
embeds first, and no other group after that. -/
inductive Leads (g : String) : Value → Prop where
  /-- The record starts with a group entry. -/
  | group {name entries values} (hquiet : entries.all Entry.isQuiet = true)
      (h : areSheets (entries.filterMap Entry.field?) values = true) :
      Leads g (.record ⟨name, .group g :: entries⟩ values)
  /-- The record starts with an embedded record that is written. -/
  | embedded {name ident schema inner entries values} (hzero : Value.areZero inner = false)
      (hquiet : entries.all Entry.isQuiet = true)
      (h : areSheets (entries.filterMap Entry.field?) values = true) :
      Leads g (.record schema inner) →
      Leads g (.record ⟨name, .field (.embedded ident) :: entries⟩ (.record schema inner :: values))

/-- A record with one group selects it and then emits its cells. -/
theorem Leads.encoder_eq {g : String} {v : Value} (h : Leads g v) (path : List String)
    {d : Directives} (hd : d.flattened = true) :
    v.encoder path d = .ok (.select g :: cellEmissions v.cells) := by
  have hentries : ∀ {entries : List Entry} {values : List Value} (path : List String),
      entries.all Entry.isQuiet = true →
      areSheets (entries.filterMap Entry.field?) values = true →
      encodeEntries path entries (Value.encoders values) =
        .ok (cellEmissions (cellsOf (entries.filterMap Entry.field?) values)) :=
    fun path hquiet h ↦ encodeEntries_of_areSheets
      (fun v _ f hv path ↦ encodeField_of_isSheetIn hv path) hquiet h path
  induction h generalizing path d with
  | @group name entries values hquiet h =>
    have hcount : (⟨name, .group g :: entries⟩ : Schema).fieldCount = values.length := by
      show (entries.filterMap Entry.field?).length = values.length
      exact length_of_areSheets h
    rw [Value.encoder_record hd hcount, encodeEntries, hentries path hquiet h]
    rfl
  | @embedded name ident schema inner entries values hzero hquiet h _ ih =>
    have hcount : (⟨name, .field (.embedded ident) :: entries⟩ : Schema).fieldCount =
        (Value.record schema inner :: values).length := by
      show (entries.filterMap Entry.field?).length + 1 = values.length + 1
      rw [length_of_areSheets h]
    have hfield : encodeField path (.embedded ident) (Value.record schema inner).isZero
        (Value.record schema inner).encoder =
          .ok (.select g :: cellEmissions (cellsOf schema.fields inner)) := by
      rw [encodeField, Value.isZero, hzero]
      exact ih _ rfl
    rw [Value.encoder_record hd hcount, Value.encoders, encodeEntries, hfield,
      hentries path hquiet h, cells_embedded hzero, cellEmissions_append]
    rfl

/-! ### Tables -/

namespace NamedTables

theorem run_cellEmissions (g : String) (t : OptionTable) (cells : List Cell) :
    run ⟨[(g, t)], some g⟩ (cellEmissions cells) =
      ⟨[(g, t.edits (cells.filterMap Cell.edit?))], some g⟩ := by
  induction cells generalizing t with
  | nil => rfl
  | cons c cells ih =>
    cases htext : c.text? with
    | none => simpa [cellEmissions, Cell.emission?, Cell.edit?, htext] using ih t
    | some s =>
      have hstep : perform ⟨[(g, t)], some g⟩ (.write c.key? s) =
          ⟨[(g, t.edit (.write c.key? s))], some g⟩ := by
        cases c.key? <;> simp [perform, onTarget, modify, Emission.write, Emission.onTable,
          OptionTable.edit, OptionTable.Edit.write]
      simpa [cellEmissions, Cell.emission?, Cell.edit?, htext, hstep] using
        ih (t.edit (.write c.key? s))

end NamedTables

/-- A record with one group has one table, that of its cells. -/
theorem Leads.tables_eq {g : String} {v : Value} (h : Leads g v) :
    v.tables none = .ok ⟨[(g, .ofCells v.cells)], some g⟩ := by
  rw [Value.tables, Value.emissions, h.encoder_eq _ rfl, ok_bind, NamedTables.run_cons]
  exact congrArg Except.ok (NamedTables.run_cellEmissions g .empty v.cells)

/-- A record with one group, whose cells have different keys, has a table with the slot of each
cell. -/
theorem Leads.exists_slot {v : Value} {g key s : String} (h : Leads g v)
    (hkeys : (v.cells.filterMap Cell.key?).Nodup) (hcell : ⟨some key, some s⟩ ∈ v.cells) :
    ∃ t, v.tables none = .ok t ∧
      ∃ table, t.get? g = some table ∧ Slot.keyed key s ∈ table.visible := by
  refine ⟨_, h.tables_eq, .ofCells v.cells, by simp [NamedTables.get?], ?_⟩
  rw [OptionTable.visible_ofCells hkeys]
  exact List.mem_filterMap.2 ⟨_, hcell, rfl⟩

end MachineArgs
