import MachineArgs.Proofs.Encoding.Sections
import MachineArgs.Proofs.OptionTable.LastValue

/-!
# What an encoding sets a key to

A value that selects one group and then writes may set a key several times, and the table of the
group shows the text that came last. `Value.Sets` collects the texts in the order of the writes, and
`Value.Sets.values_eq` is the step to the table. It is enough that no write opens a slot of its own
for the key, whatever the other keys are told.

For a record with one group the texts are those that its cells have under the key (`textsAt`), so
they can be read off the fields.
-/

namespace MachineArgs

open OptionTable (Edit)

/-! ### Texts of cells -/

/-- The text of a cell with a given key. -/
def Cell.textAt? (key : String) (c : Cell) : Option String :=
  if c.key? = some key then c.text? else none

/-- The texts that cells have under a key. -/
def textsAt (key : String) (cells : List Cell) : List String :=
  cells.filterMap (Cell.textAt? key)

@[simp]
theorem textsAt_append (key : String) (cells cells' : List Cell) :
    textsAt key (cells ++ cells') = textsAt key cells ++ textsAt key cells' :=
  List.filterMap_append

/-- Of plain values, those of the fields with a key have texts under it. -/
theorem textsAt_cellsOf (key : String) {fs : List Field} {values : List Value}
    (h : ∀ v ∈ values, ∀ d, v.isPlain d = true) :
    textsAt key (cellsOf fs values) =
      ((fs.zip values).filter fun p ↦ p.1.key? = some key).filterMap fun p ↦
        (p.1.cell p.2).text? := by
  induction fs generalizing values with
  | nil => cases values <;> rfl
  | cons f fs ih =>
    cases values with
    | nil => rfl
    | cons v values =>
      rw [List.forall_mem_cons] at h
      rw [cellsOf_cons (h.1 _), textsAt, List.filterMap_cons, ← textsAt, ih h.2,
        List.zip_cons_cons, List.filter_cons]
      by_cases hkey : f.key? = some key
      · rw [show (f.cell v).textAt? key = (f.cell v).text? from if_pos hkey]
        simp only [hkey, decide_true, if_true, List.filterMap_cons]
      · rw [show (f.cell v).textAt? key = none from if_neg hkey]
        simp only [hkey, decide_false, Bool.false_eq_true, if_false]

/-- Plain values have no texts under a key that no field has. -/
theorem textsAt_cellsOf_eq_nil {key : String} {fs : List Field} {values : List Value}
    (h : ∀ v ∈ values, ∀ d, v.isPlain d = true) (hkey : ∀ f ∈ fs, f.key? ≠ some key) :
    textsAt key (cellsOf fs values) = [] := by
  rw [textsAt_cellsOf key h, List.filter_eq_nil_iff.2]
  · rfl
  · intro p hp
    simpa using hkey p.1 (List.of_mem_zip hp).1

/-- Plain values have one text under a key if one field has this key and is for a text. -/
theorem textsAt_cellsOf_eq_singleton {key : String} {fs : List Field} {values : List Value}
    {keys : List (Option String)} {s : String} (h : ∀ v ∈ values, ∀ d, v.isPlain d = true)
    (hkeys : fs.map Field.key? = keys)
    (hvalue : ((keys.zip values).filter fun p ↦ p.1 = some key).map Prod.snd = [toValue s])
    (hskip : ∀ f ∈ fs, f.skipped = false) (hs : s ≠ "") :
    textsAt key (cellsOf fs values) = [s] := by
  have hfields : ((fs.zip values).filter fun p ↦ p.1.key? = some key).map Prod.snd =
      [toValue s] := by
    rw [← hvalue, ← hkeys, List.zip_map_left, List.filter_map, List.map_map]
    rfl
  obtain ⟨⟨f, v⟩, hfilter, hv⟩ := List.map_eq_singleton_iff.1 hfields
  have hf : f ∈ fs := by
    have hmem : (f, v) ∈ (fs.zip values).filter fun p ↦ p.1.key? = some key := by
      rw [hfilter]
      exact List.mem_singleton_self _
    exact (List.of_mem_zip (List.mem_of_mem_filter hmem)).1
  obtain rfl : v = toValue s := hv
  rw [textsAt_cellsOf key h, hfilter, List.filterMap_cons, Field.cell_string (hskip f hf) hs]
  rfl

/-- A record in a field has no texts under a key if its own cells have none. -/
theorem textsAt_cellsIn {key : String} {schema : Schema} {values : List Value} (f : Field)
    (h : textsAt key (cellsOf schema.fields values) = []) :
    textsAt key ((Value.record schema values).cellsIn f) = [] := by
  rw [Value.cellsIn]
  split
  · rfl
  · exact h

/-- A field without texts under a key may be left out. -/
theorem textsAt_cellsOf_cons {key : String} {f : Field} {v : Value}
    (h : textsAt key (v.cellsIn f) = []) (fs : List Field) (values : List Value) :
    textsAt key (cellsOf (f :: fs) (v :: values)) = textsAt key (cellsOf fs values) := by
  rw [cellsOf, textsAt_append, h, List.nil_append]

/-- An embedded record has the texts of a record if what follows it has none. -/
theorem textsAt_embedded {key name ident : String} {schema : Schema} {entries : List Entry}
    {inner values : List Value} (hzero : Value.areZero inner = false)
    (hrest : textsAt key (cellsOf (entries.filterMap Entry.field?) values) = []) :
    textsAt key (Value.record ⟨name, .field (.embedded ident) :: entries⟩
      (.record schema inner :: values)).cells = textsAt key (Value.record schema inner).cells := by
  rw [cells_embedded hzero, textsAt_append, hrest, List.append_nil]
  rfl

/-! ### Emissions that set a key -/

namespace Emission

/-- What a write does to the table of its group. -/
def edit? : Emission → Option Edit
  | select _ => none
  | set key value => some (.setKeyed key value)
  | add key value => some (.addKeyed key value)
  | append value => some (.append [value])

/-- The value that an emission sets a key to. -/
def setOf? (key : String) (e : Emission) : Option String :=
  e.edit?.bind (Edit.setOf? key)

/-- A write that opens no slot for a key behind others of it. -/
def Spares (key : String) (e : Emission) : Prop :=
  ∃ edit, e.edit? = some edit ∧ edit.Spares key

theorem Spares.isWrite {key : String} {e : Emission} (h : e.Spares key) : e.isWrite = true := by
  obtain ⟨edit, hedit, -⟩ := h
  cases e with
  | select group => cases hedit
  | _ => rfl

theorem spares_write (key : String) (key? : Option String) (s : String) :
    (write key? s).Spares key := by
  cases key? <;> exact ⟨_, rfl, trivial⟩

end Emission

/-! ### Cells -/

theorem setOf?_emission? (key : String) (c : Cell) :
    c.emission?.bind (Emission.setOf? key) = c.textAt? key := by
  obtain ⟨key?, text?⟩ := c
  cases text? with
  | none => simp [Cell.emission?, Cell.textAt?]
  | some s =>
    cases key? with
    | none => rfl
    | some k => simp [Cell.emission?, Cell.textAt?, Emission.write, Emission.setOf?,
        Emission.edit?, Edit.setOf?]

theorem spares_cellEmissions (key : String) (cells : List Cell) :
    ∀ e ∈ cellEmissions cells, e.Spares key := by
  intro e he
  obtain ⟨c, -, hc⟩ := List.mem_filterMap.1 he
  obtain ⟨s, -, rfl⟩ := Option.map_eq_some_iff.1 hc
  exact Emission.spares_write key _ _

theorem filterMap_cellEmissions (key : String) (cells : List Cell) :
    (cellEmissions cells).filterMap (Emission.setOf? key) = textsAt key cells := by
  rw [cellEmissions, List.filterMap_filterMap, textsAt]
  exact congrArg (List.filterMap · cells) (funext (setOf?_emission? key))

/-! ### Fields -/

/-- A field with a value comes to writes that set a key to some texts in order. -/
def Field.Sets (f : Field) (v : Value) (key : String) (texts : List String) : Prop :=
  ∀ path, ∃ es, encodeField path f v.isZero v.encoder = .ok es ∧ (∀ e ∈ es, e.Spares key) ∧
    es.filterMap (Emission.setOf? key) = texts

namespace Field.Sets

variable {f : Field} {v : Value} {key : String}

/-- A plain field sets its own key only. -/
theorem of_isPlain (h : v.isPlain f.directives = true) (hkey : f.key? ≠ some key) :
    f.Sets v key [] := by
  intro path
  refine ⟨_, encodeField_of_isPlain (by rw [h, Bool.or_true]) path, ?_, ?_⟩
  · rw [← cellEmissions_singleton]
    exact spares_cellEmissions key _
  · rw [← cellEmissions_singleton, filterMap_cellEmissions, textsAt, List.filterMap_cons,
      show (f.cell v).textAt? key = none from if_neg hkey]
    rfl

/-- A list with a slot for each element sets no key. -/
theorem of_writeNext {texts : List String} (hkey : f.key? ≠ some key)
    (h : ∀ path, encodeField path f v.isZero v.encoder =
      .ok (texts.map (Emission.writeNext f.key?))) : f.Sets v key [] := by
  refine fun path ↦ ⟨_, h path, ?_, ?_⟩
  · intro e he
    obtain ⟨s, -, rfl⟩ := List.mem_map.1 he
    cases hk : f.key? with
    | none => exact ⟨_, rfl, trivial⟩
    | some k => exact ⟨_, rfl, fun heq ↦ hkey (heq ▸ hk)⟩
  · rw [List.filterMap_map, List.filterMap_eq_nil_iff]
    intro s _
    cases f.key? <;> rfl

end Field.Sets

/-- Fields with their values come to writes that set a key to some texts in order. -/
inductive FieldsSet (key : String) : List Field → List Value → List String → Prop where
  /-- No field. -/
  | nil : FieldsSet key [] [] []
  /-- A field, then the others. -/
  | cons {f v fs values texts texts'} (h : f.Sets v key texts) :
      FieldsSet key fs values texts' → FieldsSet key (f :: fs) (v :: values) (texts ++ texts')

namespace FieldsSet

variable {key : String} {values : List Value} {texts : List String}

theorem length_eq {fs : List Field} (h : FieldsSet key fs values texts) :
    fs.length = values.length := by
  induction h with
  | nil => rfl
  | cons _ _ ih => rw [List.length_cons, List.length_cons, ih]

/-- Entries that select no group come to the writes of their fields. -/
theorem encodeEntries {entries : List Entry} (hquiet : entries.all Entry.isQuiet = true)
    (h : FieldsSet key (entries.filterMap Entry.field?) values texts) (path : List String) :
    ∃ es, encodeEntries path entries (Value.encoders values) = .ok es ∧
      (∀ e ∈ es, e.Spares key) ∧ es.filterMap (Emission.setOf? key) = texts := by
  induction entries generalizing values texts with
  | nil =>
    cases h
    exact ⟨[], rfl, by simp, rfl⟩
  | cons entry entries ih =>
    cases entry with
    | group name => simp [Entry.isQuiet] at hquiet
    | field f =>
      rw [List.all_cons, Bool.and_eq_true] at hquiet
      cases h with
      | cons hfield hrest =>
        obtain ⟨here, hhere, hsparesHere, rfl⟩ := hfield path
        obtain ⟨es, hes, hspares, rfl⟩ := ih hquiet.2 hrest
        refine ⟨here ++ es, ?_, List.forall_mem_append.2 ⟨hsparesHere, hspares⟩,
          List.filterMap_append⟩
        rw [Value.encoders, MachineArgs.encodeEntries, hhere, hes, Field.switch,
          Option.isNone_iff_eq_none.1 hquiet.1]
        rfl

end FieldsSet

/-! ### Tables -/

/-- While a group is current, its table takes one edit for each write. -/
theorem editsOf_journal_writes (g : String) {ws : List Emission}
    (h : ∀ e ∈ ws, e.isWrite = true) :
    editsOf g (journal (some g) ws) = ws.filterMap Emission.edit? := by
  induction ws with
  | nil => rfl
  | cons e ws ih =>
    rw [List.forall_mem_cons] at h
    rw [List.filterMap_cons, ← ih h.2]
    cases e with
    | select group => exact absurd h.1 (by simp [Emission.isWrite])
    | set | add | append => exact editsOf_write g _ _

/-- The values that the table of a group shows under a key. -/
def NamedTables.values (t : NamedTables) (group key : String) : List String :=
  match t.get? group with
  | some table => table.values key
  | none => []

namespace Value

variable {v : Value} {group key : String} {texts : List String}

/-- A value selects a group at once and no other, and then sets a key to some texts in order. -/
def Sets (v : Value) (group key : String) (texts : List String) : Prop :=
  ∃ ws, v.emissions = .ok (.select group :: ws) ∧ (∀ e ∈ ws, e.Spares key) ∧
    ws.filterMap (Emission.setOf? key) = texts

/-- The table of the group shows the last of the texts. -/
theorem Sets.values_eq (h : v.Sets group key texts) {t : NamedTables}
    (ht : v.tables none = .ok t) : t.values group key = texts.getLast?.toList := by
  obtain ⟨ws, hemissions, hspares, rfl⟩ := h
  have hedits : editsOf group (journal none (.select group :: ws)) = ws.filterMap Emission.edit? :=
    editsOf_journal_writes group fun e he ↦ (hspares e he).isWrite
  have htable : t.get? group = some (.edits .empty (ws.filterMap Emission.edit?)) := by
    rw [tables, hemissions, ok_bind, pure_eq_ok] at ht
    rw [← Except.ok.inj ht, (NamedTables.run_initial none _).1, NamedTables.get?_ofJournal,
      ← hedits]
    exact if_pos (show group ∈ entered (journal none (.select group :: ws)) from
      List.mem_cons_self)
  have hsparesEdits : ∀ e ∈ ws.filterMap Emission.edit?, e.Spares key := by
    intro e he
    obtain ⟨w, hw, hedit⟩ := List.mem_filterMap.1 he
    obtain ⟨e', he', hspare⟩ := hspares w hw
    rwa [← Option.some.inj (he'.symm.trans hedit)]
  rw [NamedTables.values, htable]
  show (OptionTable.edits .empty _).values key = _
  rw [OptionTable.values_edits hsparesEdits, List.filterMap_filterMap]
  rfl

/-- A record with one group sets a key to the texts of its cells. -/
theorem Sets.of_leads (h : Leads group v) (htexts : textsAt key v.cells = texts) :
    v.Sets group key texts :=
  ⟨_, h.encoder_eq _ rfl, spares_cellEmissions key _, htexts ▸ filterMap_cellEmissions key _⟩

/-- A record that first embeds a record with one group sets a key to the texts of the cells of that
record, and then to those of its further fields. -/
theorem Sets.of_embedded {name ident : String} {schema : Schema} {inner values : List Value}
    {entries : List Entry} {texts' : List String} (hleads : Leads group (.record schema inner))
    (hzero : Value.areZero inner = false) (hquiet : entries.all Entry.isQuiet = true)
    (htexts : textsAt key (Value.record schema inner).cells = texts)
    (h : FieldsSet key (entries.filterMap Entry.field?) values texts') :
    (Value.record ⟨name, .field (.embedded ident) :: entries⟩ (.record schema inner :: values)).Sets
      group key (texts ++ texts') := by
  obtain ⟨es, hes, hspares, rfl⟩ := h.encodeEntries hquiet [name]
  have hcount : (Schema.mk name (.field (.embedded ident) :: entries)).fieldCount =
      (Value.record schema inner :: values).length := congrArg (· + 1) h.length_eq
  have hfield : encodeField [name] (.embedded ident) (Value.record schema inner).isZero
      (Value.record schema inner).encoder =
        .ok (.select group :: cellEmissions (Value.record schema inner).cells) := by
    rw [encodeField, Value.isZero, hzero]
    exact hleads.encoder_eq _ rfl
  refine ⟨cellEmissions (Value.record schema inner).cells ++ es, ?_,
    List.forall_mem_append.2 ⟨spares_cellEmissions key _, hspares⟩, ?_⟩
  · rw [emissions_record hcount, encoders, encodeEntries, hfield, hes]
    rfl
  · rw [List.filterMap_append, filterMap_cellEmissions, htexts]

end Value

end MachineArgs
