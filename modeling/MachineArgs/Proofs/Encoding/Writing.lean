import MachineArgs.Encoding

/-!
# Encodings that write as they go

The emissions of a value say what its encoding does to tables if it succeeds. What the tables look
like when it fails they do not say, and the path of the value being written is handed to the encoder
as an argument. Here a value denotes a computation on tables and a path instead (`Value.writer`):
each part of the value writes what it has before the next one is looked at, the path is pushed on
the way into a part and popped on the way out, and a failure leaves both as they were at that
moment.

The computation and the encoder are the same recursion. Part by part, the computation performs the
emissions where there are any and is back at the path where it began, and it fails with the same
error where there are none (`Value.writer_follows`). So the tables of a value are those that the
computation leaves (`Value.tables_eq_writer`), and every push of a run that succeeds is undone
(`Value.path_of_writer_eq_ok`).
-/

namespace MachineArgs

/-- How far an encoding has come. -/
structure Progress where
  /-- What was written so far. -/
  tables : NamedTables
  /-- Where the value that is being written stands. -/
  path : List String

namespace Progress

/-- Performs emissions, which are all on the tables. -/
def run (s : Progress) (es : List Emission) : Progress :=
  { s with tables := s.tables.run es }

theorem run_append (s : Progress) (es es' : List Emission) :
    s.run (es ++ es') = (s.run es).run es' := by
  rw [run, NamedTables.run_append, run, run]

end Progress

/-- A computation that writes into tables. A failure keeps what was written before it. -/
abbrev Writing (α : Type) : Type :=
  EStateM Error Progress α

namespace Writing

/-- Performs one emission. -/
def emit (e : Emission) : Writing Unit := fun s ↦
  .ok () { s with tables := s.tables.perform e }

/-- Performs emissions from left to right. -/
def emitAll : List Emission → Writing Unit
  | [] => pure ()
  | e :: es => do
    emit e
    emitAll es

/-- The path of the value that is being written. -/
def here : Writing (List String) := fun s ↦
  .ok s.path s

/-- Goes on to a part of the value. -/
def push (name : String) : Writing Unit := fun s ↦
  .ok () { s with path := s.path ++ [name] }

/-- Goes back to the value that the part belongs to. -/
def pop : Writing Unit := fun s ↦
  .ok () { s with path := s.path.dropLast }

/-- Writes a part of the value. A failure there leaves the path at the part. -/
def within (name : String) (w : Writing Unit) : Writing Unit := do
  push name
  w
  pop

/-- Refuses the value that is being written. -/
def refuse (misfit : Misfit) : Writing Unit := do
  throw (.unsupportedShape (← here) misfit)

/-- How a computation ends from one state: with these emissions performed and the path as it was,
or with this error. -/
def EndsAs (w : Writing Unit) (s : Progress) : Except Error (List Emission) → Prop
  | .ok es => w s = .ok () (s.run es)
  | .error e => ∃ s', w s = .error e s'

/-- A computation performs the emissions that there are at its path, or fails with the error that
there is in place of them. -/
def Follows (w : Writing Unit) (x : List String → Except Error (List Emission)) : Prop :=
  ∀ s, EndsAs w s (x s.path)

theorem bind_ok {α β : Type} {w : Writing α} {w' : α → Writing β} {s s' : Progress} {a : α}
    (h : w s = .ok a s') : (w >>= w') s = w' a s' := by
  show EStateM.bind w w' s = _
  rw [EStateM.bind, h]

theorem bind_error {α β : Type} {w : Writing α} {w' : α → Writing β} {s s' : Progress}
    {e : Error} (h : w s = .error e s') : (w >>= w') s = .error e s' := by
  show EStateM.bind w w' s = _
  rw [EStateM.bind, h]

theorem emitAll_eq (es : List Emission) (s : Progress) : emitAll es s = .ok () (s.run es) := by
  induction es generalizing s with
  | nil => rfl
  | cons e es ih => exact (bind_ok rfl).trans (ih _)

theorem pop_push (s : Progress) (name : String) :
    pop { s with path := s.path ++ [name] } = .ok () s := by
  rw [pop, List.dropLast_concat]

theorem follows_pure : Follows (pure ()) fun _ ↦ .ok [] := fun _ ↦ rfl

theorem follows_throw (e : Error) : Follows (throw e) fun _ ↦ .error e := fun s ↦ ⟨s, rfl⟩

theorem follows_refuse (misfit : Misfit) :
    Follows (refuse misfit) fun path ↦ .error (.unsupportedShape path misfit) :=
  fun s ↦ ⟨s, rfl⟩

theorem follows_emit (e : Emission) : Follows (emit e) fun _ ↦ .ok [e] := fun _ ↦ rfl

theorem follows_emitAll (es : List Emission) : Follows (emitAll es) fun _ ↦ .ok es :=
  emitAll_eq es

section Steps

variable {w w' : Writing Unit} {s s' : Progress} {x x' : List String → Except Error (List Emission)}
  {y y' : Except Error (List Emission)}

theorem EndsAs.path_eq (h : EndsAs w s y) (hrun : w s = .ok () s') : s'.path = s.path := by
  cases y with
  | error e =>
    obtain ⟨_, he⟩ := h
    cases hrun.symm.trans he
  | ok es =>
    cases hrun.symm.trans h
    rfl

theorem EndsAs.bind (h : EndsAs w s y) (h' : ∀ es, EndsAs w' (s.run es) y') :
    EndsAs (w >>= fun _ ↦ w') s (do
      let here ← y
      let rest ← y'
      return here ++ rest) := by
  cases y with
  | error e =>
    obtain ⟨t, ht⟩ := h
    exact ⟨t, bind_error ht⟩
  | ok es =>
    have hrest := h' es
    cases y' with
    | error e =>
      obtain ⟨t, ht⟩ := hrest
      exact ⟨t, (bind_ok h).trans ht⟩
    | ok es' =>
      show (w >>= fun _ ↦ w') s = .ok () (s.run (es ++ es'))
      rw [Progress.run_append]
      exact (bind_ok h).trans hrest

theorem EndsAs.within {name : String} (h : EndsAs w { s with path := s.path ++ [name] } y) :
    EndsAs (within name w) s y := by
  cases y with
  | error e =>
    obtain ⟨t, ht⟩ := h
    exact ⟨t, (bind_ok rfl).trans (bind_error ht)⟩
  | ok es => exact (bind_ok rfl).trans ((bind_ok h).trans (pop_push (s.run es) name))

/-- Two computations perform the emissions of the first and then those of the second, which begins
at the path where the first one began. -/
theorem Follows.bind (h : Follows w x) (h' : Follows w' x') :
    Follows (w >>= fun _ ↦ w') (fun path ↦ do
      let here ← x path
      let rest ← x' path
      return here ++ rest) :=
  fun s ↦ (h s).bind fun es ↦ h' (s.run es)

/-- A part performs its emissions at the path with its name. -/
theorem Follows.within (h : Follows w x) (name : String) :
    Follows (within name w) fun path ↦ x (path ++ [name]) :=
  fun s ↦ (h { s with path := s.path ++ [name] }).within

/-- A step that only looks at the path comes before what follows from it. -/
theorem Follows.ofExcept_bind {α : Type} (z : List String → Except Error α) {f : α → Writing Unit}
    {g : List String → α → Except Error (List Emission)}
    (h : ∀ a, Follows (f a) fun path ↦ g path a) :
    Follows (here >>= fun path ↦ ofExcept (z path) >>= f) fun path ↦ z path >>= g path := by
  intro s
  show EndsAs (ofExcept (z s.path) >>= f) s (z s.path >>= g s.path)
  cases z s.path with
  | error e => exact ⟨s, rfl⟩
  | ok a => exact h a s

end Steps

end Writing

open Writing

/-! ### Values -/

/-- What a value does to tables, given its directives. -/
abbrev Writer : Type :=
  Directives → Writing Unit

/-- Writes a list. Every element is rendered before anything is written. -/
def writeList (items : List Value) : Writer := fun d ↦ do
  let texts ← ofExcept (elementTexts (← here) items)
  if texts.isEmpty then return
  match d.separator with
  | some separator => emit (.write d.key (separator.intercalate texts))
  | none =>
    if d.repeated then emitAll (texts.map (Emission.writeNext d.key))
    else refuse .plainList

/-- Writes entries one after the other, each under its key and without other directives. -/
def writeMap : List (String × Writer) → Writing Unit
  | [] => pure ()
  | (key, writer) :: entries => do
    within key (writer { key := some key })
    writeMap entries

/-- Writes a field whose value has the given writer; `isZero` says that the value is zero. -/
def writeField (f : Field) (isZero : Bool) (writer : Writer) : Writing Unit :=
  if f.skipped || isZero then pure () else within f.ident (writer f.directives)

/-- Writes along the entries of a schema, with the writer of each value and whether the value is
zero. -/
def writeEntries : List Entry → List (Bool × Writer) → Writing Unit
  | [], _ => pure ()
  | .group name :: entries, values => do
    emit (.select name)
    writeEntries entries values
  | .field _ :: _, [] => pure ()
  | .field f :: entries, (isZero, writer) :: values => do
    emitAll f.switch
    writeField f isZero writer
    writeEntries entries values

/-- Writes a record, which must be flattened and complete. -/
def writeRecord (schema : Schema) (values : List (Bool × Writer)) : Writer := fun d ↦
  if !d.flattened then
    refuse (.nestedRecord schema.name)
  else if schema.fieldCount ≠ values.length then do
    throw (.schemaMismatch (← here) schema.fieldCount values.length)
  else
    writeEntries schema.entries values

namespace Value

mutual

/-- What a value does to tables. -/
def writer : Value → Writer
  | absent => fun _ ↦ pure ()
  | present inner => inner.writer
  | zero inner => inner.writer
  | path _ (some location) => fun d ↦ emit (.write d.key location)
  | path name none => fun _ ↦ throw (.unassignedHandle name)
  | text s => fun d ↦ emit (.write d.key s)
  | reference name => fun d ↦ emit (.write d.key name)
  | record schema values => writeRecord schema (writers values)
  | list items => writeList items
  | map entries => fun _ ↦ writeMap (entryWriters entries)
  | string s => fun d ↦ emit (.write d.key s)
  | boolean b => fun d ↦ emit (.write d.key (onOff b))
  | integer i => fun d ↦ emit (.write d.key (toString i))
  | natural n => fun d ↦ emit (.write d.key (toString n))
  | unsupported kind => fun _ ↦ refuse (.unsupportedKind kind)

/-- What the values of a record do, and which of them are zero. -/
def writers : List Value → List (Bool × Writer)
  | [] => []
  | v :: vs => (v.isZero, v.writer) :: writers vs

/-- What the entries of a map do. -/
def entryWriters : List (String × Value) → List (String × Writer)
  | [] => []
  | (key, v) :: entries => (key, v.writer) :: entryWriters entries

end

end Value

/-! ### The writer and the encoder -/

/-- A writer does what an encoder says, wherever the value stands. -/
def Writer.Follows (writer : Writer) (encoder : Encoder) : Prop :=
  ∀ d, Writing.Follows (writer d) fun path ↦ encoder path d

theorem writeList_follows (items : List Value) :
    (writeList items).Follows (encodeList items) := by
  intro d
  refine Follows.ofExcept_bind (elementTexts · items) fun texts ↦ ?_
  cases texts with
  | nil => exact follows_pure
  | cons s texts =>
    show Follows (match d.separator with | some _ => _ | none => _)
      fun _ ↦ (match d.separator with | some _ => _ | none => _)
    cases d.separator with
    | some separator => exact follows_emit _
    | none =>
      show Follows (if d.repeated then _ else _) fun _ ↦ (if d.repeated then _ else _)
      cases d.repeated with
      | true => exact follows_emitAll _
      | false => exact follows_refuse _

theorem writeMap_follows {entries : List (String × Value)} (d : Directives)
    (h : ∀ e ∈ entries, e.2.writer.Follows e.2.encoder) :
    Follows (writeMap (Value.entryWriters entries)) fun path ↦
      encodeMap (Value.entryEncoders entries) path d := by
  induction entries with
  | nil => exact follows_pure
  | cons e entries ih =>
    obtain ⟨key, v⟩ := e
    rw [List.forall_mem_cons] at h
    exact ((h.1 _).within key).bind (ih h.2)

theorem writeField_follows {v : Value} (f : Field) (h : v.writer.Follows v.encoder) :
    Follows (writeField f v.isZero v.writer) fun path ↦
      encodeField path f v.isZero v.encoder := by
  simp only [writeField, encodeField]
  split
  · exact follows_pure
  · exact (h _).within f.ident

theorem writeEntries_follows {values : List Value}
    (h : ∀ v ∈ values, v.writer.Follows v.encoder) (entries : List Entry) :
    Follows (writeEntries entries (Value.writers values)) fun path ↦
      encodeEntries path entries (Value.encoders values) := by
  induction entries generalizing values with
  | nil => exact follows_pure
  | cons entry entries ih =>
    cases entry with
    | group name => exact (follows_emit _).bind (ih h)
    | field f =>
      cases values with
      | nil => exact follows_pure
      | cons v values =>
        rw [List.forall_mem_cons] at h
        have hall := (follows_emitAll f.switch).bind ((writeField_follows f h.1).bind (ih h.2))
        rw [Value.writers, Value.encoders, writeEntries]
        simpa [encodeEntries] using hall

theorem length_writers (values : List Value) : (Value.writers values).length = values.length := by
  induction values with
  | nil => rfl
  | cons v values ih => rw [Value.writers, List.length_cons, ih, List.length_cons]

namespace Value

/-- A value writes its emissions, and fails with the same error if it has none. -/
theorem writer_follows (v : Value) : v.writer.Follows v.encoder := by
  induction v using Value.induction with
  | absent => exact fun _ ↦ follows_pure
  | present inner ih | zero inner ih => exact ih
  | path name location =>
    cases location with
    | none => exact fun _ ↦ follows_throw _
    | some location => exact fun _ ↦ follows_emit _
  | text | reference | string | boolean | integer | natural => exact fun _ ↦ follows_emit _
  | record schema values ih =>
    intro d
    simp only [writer, encoder, writeRecord, encodeRecord, length_writers, encoders_eq_map,
      List.length_map]
    split
    · exact follows_refuse _
    · split
      · exact fun s ↦ ⟨s, rfl⟩
      · rw [← encoders_eq_map]
        exact writeEntries_follows ih schema.entries
  | list items => exact writeList_follows items
  | map entries ih => exact fun d ↦ writeMap_follows d ih
  | unsupported kind => exact fun _ ↦ follows_refuse _

/-- A value that is written to its end leaves the path where it was. -/
theorem path_of_writer_eq_ok {v : Value} {d : Directives} {s s' : Progress}
    (h : v.writer d s = .ok () s') : s'.path = s.path :=
  (writer_follows v d s).path_eq h

/-- The tables of a value are those that writing it leaves, from the default group and the path of
the value on its own; and there are none if writing fails, with the same error. -/
theorem tables_eq_writer (v : Value) (group : Option String) :
    v.tables group =
      match v.writer { flattened := true } { tables := .initial group, path := v.rootPath } with
      | .ok _ s => .ok s.tables
      | .error e _ => .error e := by
  have h := writer_follows v { flattened := true } { tables := .initial group, path := v.rootPath }
  rw [tables, emissions]
  cases hes : v.encoder v.rootPath { flattened := true } with
  | error e =>
    simp only [hes] at h
    obtain ⟨s', hs'⟩ := h
    rw [hs']
    rfl
  | ok es =>
    simp only [hes] at h
    rw [h]
    rfl

end Value

end MachineArgs
