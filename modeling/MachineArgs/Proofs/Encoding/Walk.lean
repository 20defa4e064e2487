import MachineArgs.Encoding
import MachineArgs.Proofs.NamedTables.Journal

/-!
# Walks of a value

How an encoding goes through a value, as rules: `Walk d v g marks g'` says that the walk of `v`,
with the directives `d` in force and the group `g` current at the start, leaves the journal `marks`
behind and the group `g'` current. The rules know neither emissions nor paths nor tables. The
current group is handed from each part of a value to the next, and only three rules change it: a
group entry, the group directive of a field, and a write before any group was entered. A record that
is skipped or zero is passed over and not walked; a record that is walked hands the group it ends
with to what follows it.

The encoder succeeds exactly if there is a walk, and what its emissions leave behind is the journal
of the walk (`walk_iff`). So the tables of a value are told by its walk, group by group
(`tables_eq_of_walk`).
-/

namespace MachineArgs

open OptionTable (Edit)

/-! ### Rules -/

/-- Edits one after the other while a group is current, or before there is one. -/
def writtenAll (current : Option String) : List Edit → List Mark
  | [] => []
  | e :: es => written current e ++ es.map (.write (current.getD NamedTables.implicitGroup))

/-- The text of a value that takes one slot. -/
def Value.scalarText? : Value → Option String
  | path _ location => location
  | text s => some s
  | reference name => some name
  | string s => some s
  | boolean b => some (onOff b)
  | integer i => some (toString i)
  | natural n => some (toString n)
  | _ => none

/-- The group that is current once a field is reached. -/
def Field.groupFrom (f : Field) (current : Option String) : Option String :=
  f.group.or current

/-- The note that a field's group directive leaves behind. -/
def Field.enters (f : Field) : List Mark :=
  f.group.toList.map .enter

/-- A field is passed over if it is never written or if its value is zero. -/
def Field.Passes (f : Field) (v : Value) : Prop :=
  f.skipped = true ∨ v.isZero = true

theorem Field.passes_iff {f : Field} {v : Value} :
    f.Passes v ↔ (f.skipped || v.isZero) = true := by
  simp [Passes]

theorem Field.not_passes_iff {f : Field} {v : Value} :
    ¬f.Passes v ↔ (f.skipped || v.isZero) = false := by
  rw [passes_iff, Bool.not_eq_true]

mutual

/-- How a value is walked. -/
inductive Walk : Directives → Value → Option String → List Mark → Option String → Prop where
  /-- An absent option leaves nothing behind. -/
  | absent {d g} : Walk d .absent g [] g
  /-- A present option is walked as its value. -/
  | present {d v g ms g'} : Walk d v g ms g' → Walk d (.present v) g ms g'
  /-- A zero of a type is walked as its value. -/
  | zero {d v g ms g'} : Walk d v g ms g' → Walk d (.zero v) g ms g'
  /-- A scalar is set under its key, or appended. -/
  | scalar {d v s g} (hs : v.scalarText? = some s) :
      Walk d v g (written g (Edit.write d.key s)) (some (g.getD NamedTables.implicitGroup))
  /-- A list without present elements leaves nothing behind. -/
  | emptyList {d items g} (ht : elementTexts [] items = .ok []) : Walk d (.list items) g [] g
  /-- A joined list is written like one scalar. -/
  | joined {d items texts sep g} (ht : elementTexts [] items = .ok texts) (hne : texts ≠ [])
      (hsep : d.separator = some sep) :
      Walk d (.list items) g (written g (Edit.write d.key (sep.intercalate texts)))
        (some (g.getD NamedTables.implicitGroup))
  /-- Of a repeated list every present element is added, or appended. -/
  | repeated {d items texts g} (ht : elementTexts [] items = .ok texts) (hne : texts ≠ [])
      (hsep : d.separator = none) (hrep : d.repeated = true) :
      Walk d (.list items) g (writtenAll g (texts.map (Edit.writeNext d.key)))
        (some (g.getD NamedTables.implicitGroup))
  /-- A map is walked entry by entry. -/
  | map {d entries g ms g'} : WalkMap entries g ms g' → Walk d (.map entries) g ms g'
  /-- A complete record is walked along its schema if a directive expands it. -/
  | record {d schema values g ms g'} (hflat : d.flattened = true)
      (hcount : schema.fieldCount = values.length) :
      WalkEntries schema.entries values g ms g' → Walk d (.record schema values) g ms g'

/-- How the entries of a map are walked, each under its key alone. -/
inductive WalkMap : List (String × Value) → Option String → List Mark → Option String → Prop where
  /-- Nothing is left. -/
  | nil {g} : WalkMap [] g [] g
  /-- The first entry, then the others in the group that it leaves current. -/
  | cons {key v entries g ms g₁ ms' g'} : Walk { key := some key } v g ms g₁ →
      WalkMap entries g₁ ms' g' → WalkMap ((key, v) :: entries) g (ms ++ ms') g'

/-- How the values of a record are walked along the entries of its schema. -/
inductive WalkEntries :
    List Entry → List Value → Option String → List Mark → Option String → Prop where
  /-- Nothing is left. -/
  | nil {g} : WalkEntries [] [] g [] g
  /-- A group entry makes its group current. -/
  | group {name entries values g ms g'} : WalkEntries entries values (some name) ms g' →
      WalkEntries (.group name :: entries) values g (.enter name :: ms) g'
  /-- A field that is passed over still makes its group current. -/
  | passed {f v entries values g ms g'} (hpass : f.Passes v) :
      WalkEntries entries values (f.groupFrom g) ms g' →
      WalkEntries (.field f :: entries) (v :: values) g (f.enters ++ ms) g'
  /-- Any other field makes its group current and is walked there; the rest follows in the group
  that its value leaves current. -/
  | walked {f v entries values g ms g₁ ms' g'} (hpass : ¬f.Passes v) :
      Walk f.directives v (f.groupFrom g) ms g₁ → WalkEntries entries values g₁ ms' g' →
      WalkEntries (.field f :: entries) (v :: values) g (f.enters ++ ms ++ ms') g'

end

/-! ### Journals of single writes -/

theorem journal_write (g : Option String) (key? : Option String) (s : String) :
    journal g [.write key? s] = written g (Edit.write key? s) := by
  cases key? <;> simp [journal, Emission.write, Emission.marks, Edit.write]

theorem currentAfter_write (g : Option String) (key? : Option String) (s : String) :
    currentAfter g [.write key? s] = some (g.getD NamedTables.implicitGroup) := by
  cases key? <;> rfl

theorem marks_writeNext (g : Option String) (key? : Option String) (s : String) :
    (Emission.writeNext key? s).marks g = written g (Edit.writeNext key? s) := by
  cases key? <;> rfl

theorem currentAfter_emission_writeNext (g : Option String) (key? : Option String) (s : String) :
    (Emission.writeNext key? s).currentAfter g = g.getD NamedTables.implicitGroup := by
  cases key? <;> rfl

/-- Once a group is current, every write is noted for it. -/
theorem journal_some_writeNext (n : String) (key? : Option String) (texts : List String) :
    journal (some n) (texts.map (Emission.writeNext key?)) =
        (texts.map (Edit.writeNext key?)).map (.write n) ∧
      currentAfter (some n) (texts.map (Emission.writeNext key?)) = some n := by
  induction texts with
  | nil => exact ⟨rfl, rfl⟩
  | cons s texts ih =>
    rw [List.map_cons, journal, currentAfter, marks_writeNext, currentAfter_emission_writeNext,
      Option.getD_some, ih.1, ih.2]
    exact ⟨rfl, rfl⟩

/-- The first write may enter the implicit group; the others find it current. -/
theorem journal_writeNext (g : Option String) (key? : Option String) {texts : List String}
    (hne : texts ≠ []) :
    journal g (texts.map (Emission.writeNext key?)) =
        writtenAll g (texts.map (Edit.writeNext key?)) ∧
      currentAfter g (texts.map (Emission.writeNext key?)) =
        some (g.getD NamedTables.implicitGroup) := by
  cases texts with
  | nil => exact absurd rfl hne
  | cons s texts =>
    obtain ⟨hmarks, hafter⟩ :=
      journal_some_writeNext (g.getD NamedTables.implicitGroup) key? texts
    rw [List.map_cons, journal, currentAfter, marks_writeNext, currentAfter_emission_writeNext,
      hmarks, hafter]
    exact ⟨rfl, rfl⟩

theorem journal_switch (g : Option String) (f : Field) : journal g f.switch = f.enters := by
  cases h : f.group <;> simp [Field.switch, Field.enters, journal, Emission.marks, h]

theorem currentAfter_switch (g : Option String) (f : Field) :
    currentAfter g f.switch = f.groupFrom g := by
  cases h : f.group <;>
    simp [Field.switch, Field.groupFrom, currentAfter, Emission.currentAfter, h]

/-! ### Scalars and lists -/

theorem encoder_of_scalarText? {v : Value} {s : String} (h : v.scalarText? = some s)
    (path : List String) (d : Directives) : v.encoder path d = .ok [.write d.key s] := by
  cases v with
  | path name location =>
    obtain rfl : location = some s := h
    rfl
  | text _ | reference _ | string _ | boolean _ | integer _ | natural _ =>
    obtain rfl := Option.some.inj h
    rfl
  | _ => simp [Value.scalarText?] at h

/-- Whether an element has a text, and which, does not depend on where the list stands. -/
theorem elementText_ok {v : Value} {path : List String} {text? : Option String}
    (h : v.elementText path = .ok text?) (path' : List String) :
    v.elementText path' = .ok text? := by
  -- the path shows in errors only, and this is none
  induction v using Value.induction with
  | present inner ih | zero inner ih => exact ih h
  | path name location =>
    cases location with
    | none => simp [Value.elementText] at h
    | some s => exact h
  | absent | text | reference | string | integer | natural => exact h
  | record | list | map | boolean | unsupported => simp [Value.elementText] at h

theorem elementTexts_ok {items : List Value} {path : List String} {texts : List String}
    (h : elementTexts path items = .ok texts) (path' : List String) :
    elementTexts path' items = .ok texts := by
  induction items generalizing texts with
  | nil => exact h
  | cons v vs ih =>
    obtain ⟨text?, hv, h⟩ := bind_eq_ok.1 h
    obtain ⟨rest, hvs, h⟩ := bind_eq_ok.1 h
    rw [elementTexts, elementText_ok hv path', ih hvs]
    exact h

/-- A list is encoded by one of three layouts, depending on its texts and the directives. -/
theorem encodeList_eq {items : List Value} {path : List String} {d : Directives}
    {es : List Emission} :
    encodeList items path d = .ok es ↔ ∃ texts, elementTexts [] items = .ok texts ∧
      ((texts = [] ∧ es = []) ∨
        (texts ≠ [] ∧ ∃ sep, d.separator = some sep ∧
          es = [.write d.key (sep.intercalate texts)]) ∨
        (texts ≠ [] ∧ d.separator = none ∧ d.repeated = true ∧
          es = texts.map (Emission.writeNext d.key))) := by
  constructor
  · intro h
    obtain ⟨texts, htexts, h⟩ := bind_eq_ok.1 h
    refine ⟨texts, elementTexts_ok htexts [], ?_⟩
    cases texts with
    | nil => exact .inl ⟨rfl, by simpa using h.symm⟩
    | cons s texts =>
      cases hsep : d.separator with
      | some sep => exact .inr (.inl ⟨by simp, sep, rfl, by simpa [hsep] using h.symm⟩)
      | none =>
        cases hrep : d.repeated with
        | true => exact .inr (.inr ⟨by simp, rfl, rfl, by simpa [hsep, hrep] using h.symm⟩)
        | false => simp [hsep, hrep] at h
  · rintro ⟨texts, htexts, ⟨rfl, rfl⟩ | ⟨hne, sep, hsep, rfl⟩ | ⟨hne, hsep, hrep, rfl⟩⟩
    · simp [encodeList, elementTexts_ok htexts path]
    · simp [encodeList, elementTexts_ok htexts path, hne, hsep]
    · simp [encodeList, elementTexts_ok htexts path, hne, hsep, hrep]

/-! ### The encoder and its walk -/

theorem encoders_length (values : List Value) : (Value.encoders values).length = values.length := by
  simp

namespace Value

variable {schema : Schema} {values : List Value} {d : Directives}

/-- A complete record is encoded along its schema if a directive expands it. -/
theorem encoder_record (hflat : d.flattened = true) (hcount : schema.fieldCount = values.length)
    (path : List String) :
    (record schema values).encoder path d =
      encodeEntries path schema.entries (encoders values) := by
  rw [encoder, encodeRecord, encoders_length, if_neg (by simp [hflat]), if_neg (not_not.2 hcount)]

/-- Only a complete record that a directive expands has an encoding. -/
theorem of_encoder_record {path : List String} {es : List Emission}
    (h : (record schema values).encoder path d = .ok es) :
    d.flattened = true ∧ schema.fieldCount = values.length := by
  rw [encoder, encodeRecord, encoders_length] at h
  split at h
  · cases h
  · next hflat =>
    split at h
    · cases h
    · next hcount => exact ⟨by simpa using hflat, not_not.1 hcount⟩

end Value

section Entries

variable {values : List Value}

/-- Along a schema with a field for each value, the encoder walks if it walks each value. -/
theorem walkEntries_of_encodeEntries
    (hwalk : ∀ v ∈ values, ∀ path d g es, v.encoder path d = .ok es →
      Walk d v g (journal g es) (currentAfter g es))
    {entries : List Entry} (hcount : (entries.filterMap Entry.field?).length = values.length)
    {path : List String} {g : Option String} {es : List Emission}
    (h : encodeEntries path entries (Value.encoders values) = .ok es) :
    WalkEntries entries values g (journal g es) (currentAfter g es) := by
  induction entries generalizing values g es with
  | nil =>
    obtain rfl : values = [] := List.length_eq_zero_iff.1 (by simpa using hcount.symm)
    obtain rfl : es = [] := by simpa [encodeEntries] using h.symm
    exact .nil
  | cons entry entries ih =>
    cases entry with
    | group name =>
      rw [encodeEntries] at h
      obtain ⟨rest, hrest, h⟩ := bind_eq_ok.1 h
      obtain rfl : .select name :: rest = es := Except.ok.inj h
      exact .group (ih hwalk (by simpa [List.filterMap_cons, Entry.field?] using hcount) hrest)
    | field f =>
      cases values with
      | nil => simp [Entry.field?] at hcount
      | cons v vs =>
        rw [Value.encoders, encodeEntries] at h
        obtain ⟨here, hhere, h⟩ := bind_eq_ok.1 h
        obtain ⟨rest, hrest, h⟩ := bind_eq_ok.1 h
        obtain rfl : f.switch ++ here ++ rest = es := Except.ok.inj h
        -- the rest is walked from whichever group the value leaves current
        have htail : ∀ g, WalkEntries entries vs g (journal g rest) (currentAfter g rest) :=
          fun g ↦ ih (fun v hv ↦ hwalk v (List.mem_cons_of_mem _ hv))
            (by simpa [Entry.field?] using hcount) hrest
        simp only [journal_append, currentAfter_append, journal_switch, currentAfter_switch]
        by_cases hpass : f.Passes v
        · have hskip := Field.passes_iff.1 hpass
          obtain rfl : here = [] := by simpa [encodeField, hskip] using hhere.symm
          simpa [journal, currentAfter] using WalkEntries.passed hpass (htail _)
        · have hskip := Field.not_passes_iff.1 hpass
          rw [encodeField, hskip] at hhere
          exact .walked hpass (hwalk v List.mem_cons_self _ _ _ _ hhere) (htail _)

/-- Along a schema, a walk of the values is one that the encoder takes. -/
theorem encodeEntries_of_walkEntries
    (hencode : ∀ v ∈ values, ∀ path d g ms g', Walk d v g ms g' →
      ∃ es, v.encoder path d = .ok es ∧ journal g es = ms ∧ currentAfter g es = g')
    {entries : List Entry} (path : List String) {g : Option String} {ms : List Mark}
    {g' : Option String} (h : WalkEntries entries values g ms g') :
    ∃ es, encodeEntries path entries (Value.encoders values) = .ok es ∧
      journal g es = ms ∧ currentAfter g es = g' := by
  induction entries generalizing values g ms with
  | nil =>
    cases h
    exact ⟨[], rfl, rfl, rfl⟩
  | cons entry entries ih =>
    cases h with
    | group hrest =>
      obtain ⟨rest, hes, rfl, rfl⟩ := ih hencode hrest
      exact ⟨_, by rw [encodeEntries, hes]; rfl, rfl, rfl⟩
    | @passed f v _ vs _ ms' _ hpass hrest =>
      obtain ⟨rest, hes, rfl, rfl⟩ := ih (fun v hv ↦ hencode v (List.mem_cons_of_mem _ hv)) hrest
      have hskip := Field.passes_iff.1 hpass
      refine ⟨f.switch ++ rest, ?_, ?_, ?_⟩
      · rw [Value.encoders, encodeEntries, encodeField, hskip, hes]
        simp
      · rw [journal_append, journal_switch, currentAfter_switch]
      · rw [currentAfter_append, currentAfter_switch]
    | @walked f v _ vs _ ms₁ g₁ ms' _ hpass hv hrest =>
      obtain ⟨here, hhere, rfl, rfl⟩ := hencode v List.mem_cons_self (path ++ [f.ident]) _ _ _ _ hv
      obtain ⟨rest, hes, rfl, rfl⟩ := ih (fun v hv ↦ hencode v (List.mem_cons_of_mem _ hv)) hrest
      have hskip := Field.not_passes_iff.1 hpass
      refine ⟨f.switch ++ here ++ rest, ?_, ?_, ?_⟩
      · rw [Value.encoders, encodeEntries, encodeField, hskip, hes]
        simp [hhere]
      · simp only [journal_append, journal_switch, currentAfter_append, currentAfter_switch]
      · simp only [currentAfter_append, currentAfter_switch]

end Entries

section Map

variable {entries : List (String × Value)}

theorem walkMap_of_encodeMap
    (hwalk : ∀ e ∈ entries, ∀ path d g es, e.2.encoder path d = .ok es →
      Walk d e.2 g (journal g es) (currentAfter g es))
    {path : List String} {d : Directives} {g : Option String} {es : List Emission}
    (h : encodeMap (Value.entryEncoders entries) path d = .ok es) :
    WalkMap entries g (journal g es) (currentAfter g es) := by
  induction entries generalizing g es with
  | nil =>
    obtain rfl : [] = es := Except.ok.inj h
    exact .nil
  | cons e entries ih =>
    obtain ⟨here, hhere, h⟩ := bind_eq_ok.1 h
    obtain ⟨rest, hrest, h⟩ := bind_eq_ok.1 h
    obtain rfl : here ++ rest = es := Except.ok.inj h
    rw [journal_append, currentAfter_append]
    exact .cons (hwalk e List.mem_cons_self _ _ _ _ hhere)
      (ih (fun e he ↦ hwalk e (List.mem_cons_of_mem _ he)) hrest)

theorem encodeMap_of_walkMap
    (hencode : ∀ e ∈ entries, ∀ path d g ms g', Walk d e.2 g ms g' →
      ∃ es, e.2.encoder path d = .ok es ∧ journal g es = ms ∧ currentAfter g es = g')
    (path : List String) (d : Directives) {g : Option String} {ms : List Mark}
    {g' : Option String} (h : WalkMap entries g ms g') :
    ∃ es, encodeMap (Value.entryEncoders entries) path d = .ok es ∧
      journal g es = ms ∧ currentAfter g es = g' := by
  induction entries generalizing g ms with
  | nil =>
    cases h
    exact ⟨[], rfl, rfl, rfl⟩
  | cons e entries ih =>
    cases h with
    | @cons key v _ _ _ _ _ _ hv hrest =>
      obtain ⟨here, hhere, rfl, rfl⟩ := hencode _ List.mem_cons_self (path ++ [key]) _ _ _ _ hv
      obtain ⟨rest, hes, rfl, rfl⟩ := ih (fun e he ↦ hencode e (List.mem_cons_of_mem _ he)) hrest
      refine ⟨here ++ rest, ?_, journal_append _ _ _, currentAfter_append _ _ _⟩
      rw [Value.entryEncoders, encodeMap, show v.encoder _ _ = _ from hhere, ok_bind, hes]
      rfl

end Map

theorem walk_of_scalarText? {v : Value} {s : String} (hs : v.scalarText? = some s)
    {path : List String} {d : Directives} {g : Option String} {es : List Emission}
    (h : v.encoder path d = .ok es) : Walk d v g (journal g es) (currentAfter g es) := by
  rw [encoder_of_scalarText? hs] at h
  obtain rfl := Except.ok.inj h
  rw [journal_write, currentAfter_write]
  exact .scalar hs

/-- What the encoder gives leaves the journal of a walk behind. -/
theorem walk_of_encoder {v : Value} {path : List String} {d : Directives} {g : Option String}
    {es : List Emission} (h : v.encoder path d = .ok es) :
    Walk d v g (journal g es) (currentAfter g es) := by
  induction v using Value.induction generalizing path d g es with
  | absent =>
    obtain rfl : [] = es := Except.ok.inj h
    exact .absent
  | present inner ih => exact .present (ih h)
  | zero inner ih => exact .zero (ih h)
  | path name location =>
    cases location with
    | none => simp [Value.encoder, Encoder.location] at h
    | some s => exact walk_of_scalarText? rfl h
  | text | reference | string | boolean | integer | natural => exact walk_of_scalarText? rfl h
  | record schema values ih =>
    obtain ⟨hflat, hcount⟩ := Value.of_encoder_record h
    rw [Value.encoder_record hflat hcount] at h
    exact .record hflat hcount
      (walkEntries_of_encodeEntries (fun v hv path d g es ↦ ih v hv) hcount h)
  | list items =>
    obtain ⟨texts, htexts, ⟨rfl, rfl⟩ | ⟨hne, sep, hsep, rfl⟩ | ⟨hne, hsep, hrep, rfl⟩⟩ :=
      encodeList_eq.1 h
    · exact .emptyList htexts
    · rw [journal_write, currentAfter_write]
      exact .joined htexts hne hsep
    · rw [(journal_writeNext g d.key hne).1, (journal_writeNext g d.key hne).2]
      exact .repeated htexts hne hsep hrep
  | map entries ih => exact .map (walkMap_of_encodeMap (fun e he path d g es ↦ ih e he) h)
  | unsupported kind => simp [Value.encoder, Encoder.refuse] at h

/-- A walk is one that the encoder takes, wherever the value stands. -/
theorem encoder_of_walk {v : Value} (path : List String) {d : Directives} {g : Option String}
    {ms : List Mark} {g' : Option String} (h : Walk d v g ms g') :
    ∃ es, v.encoder path d = .ok es ∧ journal g es = ms ∧ currentAfter g es = g' := by
  -- The scalar rule fits every shape of value as far as inversion can see; where the value is no
  -- scalar, its premise closes the case.
  induction v using Value.induction generalizing path d g ms g' with
  | absent =>
    cases h with
    | absent => exact ⟨[], rfl, rfl, rfl⟩
    | scalar hs => cases hs
  | present inner ih =>
    cases h with
    | present h => exact ih path h
    | scalar hs => cases hs
  | zero inner ih =>
    cases h with
    | zero h => exact ih path h
    | scalar hs => cases hs
  | path | text | reference | string | boolean | integer | natural | unsupported =>
    cases h with
    | scalar hs =>
      exact ⟨_, encoder_of_scalarText? hs path d, journal_write _ _ _, currentAfter_write _ _ _⟩
  | record schema values ih =>
    cases h with
    | scalar hs => cases hs
    | record hflat hcount h =>
      obtain ⟨es, hes, hms, hg⟩ :=
        encodeEntries_of_walkEntries (fun v hv path d g ms g' ↦ ih v hv path) path h
      exact ⟨es, by rw [Value.encoder_record hflat hcount, hes], hms, hg⟩
  | list items =>
    cases h with
    | scalar hs => cases hs
    | emptyList ht =>
      exact ⟨[], encodeList_eq.2 ⟨[], ht, .inl ⟨rfl, rfl⟩⟩, rfl, rfl⟩
    | joined ht hne hsep =>
      exact ⟨_, encodeList_eq.2 ⟨_, ht, .inr (.inl ⟨hne, _, hsep, rfl⟩)⟩, journal_write _ _ _,
        currentAfter_write _ _ _⟩
    | repeated ht hne hsep hrep =>
      exact ⟨_, encodeList_eq.2 ⟨_, ht, .inr (.inr ⟨hne, hsep, hrep, rfl⟩)⟩,
        journal_writeNext g d.key hne⟩
  | map entries ih =>
    cases h with
    | scalar hs => cases hs
    | map h => exact encodeMap_of_walkMap (fun e he path d g ms g' ↦ ih e he path) path d h

/-- The encoder succeeds exactly if there is a walk, and leaves its journal behind. -/
theorem walk_iff {v : Value} (path : List String) {d : Directives} {g : Option String}
    {ms : List Mark} {g' : Option String} :
    Walk d v g ms g' ↔
      ∃ es, v.encoder path d = .ok es ∧ journal g es = ms ∧ currentAfter g es = g' := by
  constructor
  · exact encoder_of_walk path
  · rintro ⟨es, hes, rfl, rfl⟩
    exact walk_of_encoder hes

/-- A value is walked in one way only. -/
theorem Walk.unique {d : Directives} {v : Value} {g : Option String} {ms ms' : List Mark}
    {g₁ g₂ : Option String} (h : Walk d v g ms g₁) (h' : Walk d v g ms' g₂) :
    ms = ms' ∧ g₁ = g₂ := by
  obtain ⟨es, hes, rfl, rfl⟩ := encoder_of_walk [] h
  obtain ⟨es', hes', rfl, rfl⟩ := encoder_of_walk [] h'
  obtain rfl := Except.ok.inj (hes.symm.trans hes')
  exact ⟨rfl, rfl⟩

/-- A walk writes only to groups that were entered before its end. -/
theorem Walk.writesEntered {d : Directives} {v : Value} {g : Option String} {ms : List Mark}
    {g' : Option String} (h : Walk d v g ms g') : WritesEntered (g.toList.map .enter ++ ms) := by
  obtain ⟨es, -, rfl, -⟩ := encoder_of_walk [] h
  exact (NamedTables.run_initial g es).2

/-! ### Tables -/

theorem NamedTables.args_ofJournal (ms : List Mark) (g : Option String) :
    (ofJournal ms g).args =
      ((entered ms).eraseDups.filter fun n ↦ !(tableIn ms n).isEmpty).flatMap fun n ↦
        (if n = "" then [] else ["-" ++ n]) ++ [(tableIn ms n).serialize] := by
  rw [args, ofJournal, List.flatMap_map]
  induction (entered ms).eraseDups with
  | nil => rfl
  | cons n ns ih =>
    rw [List.flatMap_cons, ih]
    cases hempty : (tableIn ms n).isEmpty with
    | true => simp [groupArgs, hempty]
    | false =>
      rw [List.filter_cons_of_pos (by simp [hempty])]
      by_cases hn : n = ""
      · subst hn
        simp [groupArgs, hempty]
      · simp [groupArgs, hempty, hn]

/-- The tables of a value are those that the journal of its walk tells of, beginning with the entry
of the default group. -/
theorem Value.tables_eq_ok_iff {v : Value} {group : Option String} {t : NamedTables} :
    v.tables group = .ok t ↔ ∃ marks current, Walk { flattened := true } v group marks current ∧
      t = .ofJournal (group.toList.map .enter ++ marks) current := by
  constructor
  · intro h
    obtain ⟨es, hes, h⟩ := bind_eq_ok.1 h
    obtain rfl := Except.ok.inj h
    exact ⟨_, _, (walk_iff v.rootPath).2 ⟨es, hes, rfl, rfl⟩, (NamedTables.run_initial group es).1⟩
  · rintro ⟨marks, current, hwalk, rfl⟩
    obtain ⟨es, hes, rfl, rfl⟩ := (walk_iff v.rootPath).1 hwalk
    rw [Value.tables, Value.emissions, hes, ← (NamedTables.run_initial group es).1]
    rfl

/-- The tables of a value, told by its walk. The value has exactly one. The table of a group takes
the edits that the walk notes while this group is current, in order, and no other edit of the walk;
a group that is never entered has no table and takes no edit. The groups come in the order of their
first entries, the default group first, and each gives at most one flag. -/
theorem Value.tables_eq_of_walk {v : Value} {group : Option String} {t : NamedTables}
    (h : v.tables group = .ok t) :
    ∃ marks current, Walk { flattened := true } v group marks current ∧
      (∀ marks' current', Walk { flattened := true } v group marks' current' →
        marks' = marks ∧ current' = current) ∧
      (∀ n ∈ t.names, t.get? n = some (tableIn marks n)) ∧
      (∀ n, n ∉ t.names → t.get? n = none ∧ editsOf n marks = []) ∧
      t.names = (entered (group.toList.map .enter ++ marks)).eraseDups ∧
      t.names.Nodup ∧
      t.args = (t.names.filter fun n ↦ !(tableIn marks n).isEmpty).flatMap fun n ↦
        (if n = "" then [] else ["-" ++ n]) ++ [(tableIn marks n).serialize] := by
  obtain ⟨marks, current, hwalk, rfl⟩ := Value.tables_eq_ok_iff.1 h
  have hwrites := hwalk.writesEntered
  -- The entry of the default group is no edit.
  have hedits : ∀ n, editsOf n (group.toList.map .enter ++ marks) = editsOf n marks := by
    intro n
    cases group <;> rfl
  have htable : tableIn (group.toList.map .enter ++ marks) = tableIn marks :=
    funext fun n ↦ by rw [tableIn, hedits, tableIn]
  simp only [NamedTables.names_ofJournal, NamedTables.get?_ofJournal, List.mem_eraseDups]
  refine ⟨marks, current, hwalk, fun _ _ hother ↦ hother.unique hwalk, ?_, ?_, rfl,
    nodup_eraseDups _, ?_⟩
  · intro n hn
    rw [if_pos hn, htable]
  · intro n hn
    rw [if_neg hn]
    exact ⟨rfl, hedits n ▸ hwrites.editsOf_eq_nil hn⟩
  · rw [NamedTables.args_ofJournal, htable]

/-- A record whose groups interleave: the embedded record leaves its last group current, and a zero
field switches back to the first. -/
def interleaved : Value :=
  .record ⟨"Outer", [.group "drive", .field (.embedded "inner"), .field (.named "tail" "tail"),
      .field { Field.named "unset" "unset" with group := some "drive" },
      .field (.unnamed "last")]⟩
    [.record ⟨"Inner", [.field (.named "a" "a"), .group "device", .field (.named "b" "b")]⟩
      [.natural 1, .natural 2], .string "t", .boolean false, .string "x"]

/-- The tables of the interleaved record. -/
def interleavedTables : NamedTables where
  groups := [("machine", .empty),
    ("drive", { slots := [.keyed "a" "1", .bare "x"], owners := [("a", 0)], start := some 0 }),
    ("device", { slots := [.keyed "b" "2", .keyed "tail" "t"], owners := [("b", 0), ("tail", 1)],
                 start := some 0 })]
  current := some "drive"

theorem interleaved_tables_told :
    interleaved.tables (some "machine") = .ok interleavedTables ∧
      ∃ marks current, Walk { flattened := true } interleaved (some "machine") marks current ∧
        interleavedTables.names = (entered (.enter "machine" :: marks)).eraseDups ∧
        interleavedTables.args =
          (interleavedTables.names.filter fun n ↦ !(tableIn marks n).isEmpty).flatMap fun n ↦
            (if n = "" then [] else ["-" ++ n]) ++ [(tableIn marks n).serialize] := by
  have h : interleaved.tables (some "machine") = .ok interleavedTables := by rfl
  obtain ⟨marks, current, hwalk, -, -, -, hnames, -, hargs⟩ := Value.tables_eq_of_walk h
  exact ⟨h, marks, current, hwalk, hnames, hargs⟩

end MachineArgs
