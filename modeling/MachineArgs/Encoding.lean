import MachineArgs.Error
import MachineArgs.NamedTables
import MachineArgs.Value

/-!
# Encoding values

The encoding of a value is the list of emissions that it stands for, given where it stands (a
path for messages) and the directives in force there. It fails at the first node in traversal
order that has no rendering; a field that is skipped or zero is not visited, but its group
directive counts.

A value denotes a function of path and directives (`Encoder`), built by recursion on the value.
The encoding of a record combines the encoders of its values along the schema (`encodeEntries`)
and knows nothing else about them, so the directives of a field are read in one place.
-/

namespace MachineArgs

/-- The directives in force for one value. -/
structure Directives where
  /-- The key to write under. -/
  key : Option String := none
  /-- The separator that joins a list. -/
  separator : Option String := none
  /-- A list takes one slot per element. -/
  repeated : Bool := false
  /-- A record is expanded in place. -/
  flattened : Bool := false

/-- The directives that a field gives its value. -/
def Field.directives (f : Field) : Directives where
  key := f.key?
  separator := f.separator
  repeated := f.repeated
  flattened := f.flattened

/-- What a value denotes: emissions, given its path and its directives. -/
abbrev Encoder : Type :=
  List String → Directives → Except Error (List Emission)

namespace Encoder

/-- The encoder of a value that takes one slot with the given text. -/
def scalar (s : String) : Encoder :=
  fun _ d ↦ .ok [.write d.key s]

/-- The encoder of a value that has no rendering. -/
def refuse (misfit : Misfit) : Encoder :=
  fun path _ ↦ .error (.unsupportedShape path misfit)

/-- The encoder of a handle. -/
def location (name : String) : Option String → Encoder
  | some path => scalar path
  | none => fun _ _ ↦ .error (.unassignedHandle name)

end Encoder

/-- How truth values are written. -/
def onOff (b : Bool) : String :=
  if b then "on" else "off"

/-! ### Lists -/

/-- The text of a list element; an absent element has none. -/
def Value.elementText (path : List String) : Value → Except Error (Option String)
  | absent => .ok none
  | present inner => inner.elementText path
  | zero inner => inner.elementText path
  | .path name none => .error (.unassignedHandle name)
  | .path _ (some location) => .ok (some location)
  | text s => .ok (some s)
  | reference name => .ok (some name)
  | string s => .ok (some s)
  | integer i => .ok (some (toString i))
  | natural n => .ok (some (toString n))
  | v => .error (.unsupportedShape path (.listElement v.shape))

/-- The texts of the present elements of a list. -/
def elementTexts (path : List String) : List Value → Except Error (List String)
  | [] => .ok []
  | v :: vs => do
    let text? ← v.elementText path
    let texts ← elementTexts path vs
    return text?.toList ++ texts

/-- The emissions of a list. Every element is rendered first; a list without present elements
needs no directive; joining wins over repeating. -/
def encodeList (items : List Value) : Encoder := fun path d ↦ do
  let texts ← elementTexts path items
  if texts.isEmpty then return []
  match d.separator with
  | some separator => return [.write d.key (separator.intercalate texts)]
  | none =>
    if d.repeated then return texts.map (Emission.writeNext d.key)
    else .error (.unsupportedShape path .plainList)

/-! ### Maps and records -/

/-- The emissions of entries, each under its key and without other directives. -/
def encodeMap : List (String × Encoder) → Encoder
  | [], _, _ => .ok []
  | (key, encoder) :: entries, path, d => do
    let here ← encoder (path ++ [key]) { key := some key }
    let rest ← encodeMap entries path d
    return here ++ rest

/-- The emissions of a field whose value has the given encoder; `isZero` says that the value is
zero. -/
def encodeField (path : List String) (f : Field) (isZero : Bool) (encoder : Encoder) :
    Except Error (List Emission) :=
  if f.skipped || isZero then .ok [] else encoder (path ++ [f.ident]) f.directives

/-- The group switch of a field, if it has one. -/
def Field.switch (f : Field) : List Emission :=
  f.group.toList.map .select

/-- The emissions along the entries of a schema, with the encoder of each value and whether the
value is zero. -/
def encodeEntries (path : List String) :
    List Entry → List (Bool × Encoder) → Except Error (List Emission)
  | [], _ => .ok []
  | .group name :: entries, values => do
    let rest ← encodeEntries path entries values
    return .select name :: rest
  | .field _ :: _, [] => .ok []
  | .field f :: entries, (isZero, encoder) :: values => do
    let here ← encodeField path f isZero encoder
    let rest ← encodeEntries path entries values
    return f.switch ++ here ++ rest

/-- Entries that take all of some values are encoded before the others. -/
theorem encodeEntries_append {path : List String} {entries entries' : List Entry}
    {values values' : List (Bool × Encoder)}
    (h : (entries.filterMap Entry.field?).length = values.length) :
    encodeEntries path (entries ++ entries') (values ++ values') = (do
      let here ← encodeEntries path entries values
      let rest ← encodeEntries path entries' values'
      return here ++ rest) := by
  induction entries generalizing values with
  | nil =>
    obtain rfl : values = [] := List.length_eq_zero_iff.1 (by simpa using h.symm)
    rw [List.nil_append, List.nil_append, encodeEntries, ok_bind]
    cases encodeEntries path entries' values' <;> rfl
  | cons entry entries ih =>
    cases entry with
    | group name =>
      rw [List.cons_append, encodeEntries, encodeEntries,
        ih (by simpa [List.filterMap_cons, Entry.field?] using h)]
      simp
    | field f =>
      cases values with
      | nil => simp [Entry.field?] at h
      | cons value values =>
        rw [List.cons_append, List.cons_append, encodeEntries, encodeEntries,
          ih (by simpa [Entry.field?] using h)]
        simp

/-- The emissions of a record, which must be flattened and complete. -/
def encodeRecord (schema : Schema) (values : List (Bool × Encoder)) : Encoder := fun path d ↦
  if !d.flattened then
    .error (.unsupportedShape path (.nestedRecord schema.name))
  else if schema.fieldCount ≠ values.length then
    .error (.schemaMismatch path schema.fieldCount values.length)
  else
    encodeEntries path schema.entries values

namespace Value

mutual

/-- What a value denotes. -/
def encoder : Value → Encoder
  | absent => fun _ _ ↦ .ok []
  | present inner => inner.encoder
  | zero inner => inner.encoder
  | path name location => .location name location
  | text s => .scalar s
  | reference name => .scalar name
  | record schema values => encodeRecord schema (encoders values)
  | list items => encodeList items
  | map entries => encodeMap (entryEncoders entries)
  | string s => .scalar s
  | boolean b => .scalar (onOff b)
  | integer i => .scalar (toString i)
  | natural n => .scalar (toString n)
  | unsupported kind => .refuse (.unsupportedKind kind)

/-- What the values of a record denote, and which of them are zero. -/
def encoders : List Value → List (Bool × Encoder)
  | [] => []
  | v :: vs => (v.isZero, v.encoder) :: encoders vs

/-- What the entries of a map denote. -/
def entryEncoders : List (String × Value) → List (String × Encoder)
  | [] => []
  | (key, v) :: entries => (key, v.encoder) :: entryEncoders entries

end

@[simp]
theorem encoders_eq_map (vs : List Value) :
    encoders vs = vs.map fun v ↦ (v.isZero, v.encoder) := by
  induction vs with
  | nil => rfl
  | cons v vs ih => simp [encoders, ih]

@[simp]
theorem entryEncoders_eq_map (entries : List (String × Value)) :
    entryEncoders entries = entries.map fun (key, v) ↦ (key, v.encoder) := by
  induction entries with
  | nil => rfl
  | cons e entries ih => simp [entryEncoders, ih]

theorem encoders_append (vs vs' : List Value) :
    encoders (vs ++ vs') = encoders vs ++ encoders vs' := by
  simp

/-! ### Whole values -/

/-- The path of a value on its own: the name of its schema if it is a record. -/
def rootPath : Value → List String
  | record schema _ => [schema.name]
  | _ => []

/-- The emissions of a value on its own. A record there is always expanded. -/
def emissions (v : Value) : Except Error (List Emission) :=
  v.encoder v.rootPath { flattened := true }

/-- The tables of a value, with a default group selected before it. -/
def tables (v : Value) (group : Option String) : Except Error NamedTables := do
  let es ← v.emissions
  return (NamedTables.initial group).run es

/-- The arguments of a value, with a default group selected before it. -/
def args (v : Value) (group : Option String) : Except Error (List String) := do
  let t ← v.tables group
  return t.args

end Value

end MachineArgs
