import MachineArgs.Schema

/-!
# Values

Whatever stands in a description is lowered to one small vocabulary before it is encoded. The
constructor decides how a value is rendered; wrappers say that it may be missing or that it is
the zero of its type.

*Zero* matters for record fields only: a field that holds a zero is not written. A present option
is never zero, whatever it holds, and a path never is. A type whose zero has a non-empty
rendering wraps it in `zero`.
-/

namespace MachineArgs

/-- A value ready to be encoded. -/
inductive Value where
  /-- An option without a value. -/
  | absent
  /-- An option with a value. -/
  | present (inner : Value)
  /-- The zero of a type whose rendering is not empty. -/
  | zero (inner : Value)
  /-- A handle, by the path that it has once it was numbered. -/
  | path (name : String) (location : Option String)
  /-- Text in a canonical form. -/
  | text (s : String)
  /-- The identity of a device. -/
  | reference (name : String)
  /-- A record: one value for each field of its schema. -/
  | record (schema : Schema) (values : List Value)
  /-- A list. -/
  | list (items : List Value)
  /-- Entries by key, in the order in which they are written. -/
  | map (entries : List (String × Value))
  /-- A string. -/
  | string (s : String)
  /-- A truth value, written `on` or `off`. -/
  | boolean (b : Bool)
  /-- A signed number. -/
  | integer (i : Int)
  /-- An unsigned number. -/
  | natural (n : Nat)
  /-- A value of a kind that has no rendering. -/
  | unsupported (kind : String)

namespace Value

mutual

/-- Whether a value is the zero of its type. -/
def isZero : Value → Bool
  | absent => true
  | present _ => false
  | zero _ => true
  | path _ _ => false
  | text s => s.isEmpty
  | reference name => name.isEmpty
  | record _ values => areZero values
  | list items => items.isEmpty
  | map entries => entries.isEmpty
  | string s => s.isEmpty
  | boolean b => !b
  | integer i => i == 0
  | natural n => n == 0
  | unsupported _ => false

/-- Whether all values are zero. -/
def areZero : List Value → Bool
  | [] => true
  | v :: vs => v.isZero && areZero vs

end

@[simp]
theorem areZero_eq_all (vs : List Value) : areZero vs = vs.all isZero := by
  induction vs with
  | nil => rfl
  | cons v vs ih => simp [areZero, ih]

/-- The name of a value's kind in messages. -/
def shape : Value → String
  | absent => "optional"
  | present _ => "optional"
  | zero inner => inner.shape
  | path _ _ => "path"
  | text _ => "text"
  | reference _ => "reference"
  | record schema _ => schema.name
  | list _ => "list"
  | map _ => "map"
  | string _ => "string"
  | boolean _ => "bool"
  | integer _ => "int"
  | natural _ => "uint"
  | unsupported kind => kind

/-- Marks a value as the zero of its type if `isNull` holds. -/
def zeroIf (isNull : Bool) (v : Value) : Value :=
  if isNull then zero v else v

end Value

/-- A property of values holds of all if it passes from the parts of a value to the value. -/
@[elab_as_elim]
theorem Value.induction {P : Value → Prop} (v : Value)
    (absent : P .absent)
    (present : ∀ inner, P inner → P (.present inner))
    (zero : ∀ inner, P inner → P (.zero inner))
    (path : ∀ name location, P (.path name location))
    (text : ∀ s, P (.text s))
    (reference : ∀ name, P (.reference name))
    (record : ∀ schema values, (∀ v ∈ values, P v) → P (.record schema values))
    (list : ∀ items, (∀ v ∈ items, P v) → P (.list items))
    (map : ∀ entries, (∀ e ∈ entries, P e.2) → P (.map entries))
    (string : ∀ s, P (.string s))
    (boolean : ∀ b, P (.boolean b))
    (integer : ∀ i, P (.integer i))
    (natural : ∀ n, P (.natural n))
    (unsupported : ∀ kind, P (.unsupported kind)) : P v := by
  refine @Value.rec P (fun values ↦ ∀ v ∈ values, P v) (fun entries ↦ ∀ e ∈ entries, P e.2)
    (fun e ↦ P e.2) absent present zero path text reference record list map string boolean
    integer natural unsupported ?_ ?_ ?_ ?_ ?_ v
  · simp
  · intro v vs hv hvs
    exact List.forall_mem_cons.2 ⟨hv, hvs⟩
  · simp
  · intro e es he hes
    exact List.forall_mem_cons.2 ⟨he, hes⟩
  · intro key v hv
    exact hv

/-- Types whose members can be encoded. -/
class ToValue (α : Type) where
  /-- Lowers a member to a value. -/
  toValue : α → Value

export ToValue (toValue)

instance : ToValue Value := ⟨id⟩
instance : ToValue String := ⟨.string⟩
instance : ToValue Bool := ⟨.boolean⟩
instance : ToValue Nat := ⟨.natural⟩
instance : ToValue Int := ⟨.integer⟩

instance {α : Type} [ToValue α] : ToValue (Option α) where
  toValue
    | none => .absent
    | some a => .present (toValue a)

instance {α : Type} [ToValue α] : ToValue (List α) where
  toValue items := .list (items.map toValue)

/-! ### Maps with ordered keys -/

/-- Puts an entry among entries with ascending keys, replacing the one of the same key. -/
def insertEntry {α : Type} (key : String) (a : α) : List (String × α) → List (String × α)
  | [] => [(key, a)]
  | (key', a') :: entries =>
    if key < key' then (key, a) :: (key', a') :: entries
    else if key = key' then (key, a) :: entries
    else (key', a') :: insertEntry key a entries

/-- Entries by ascending key; of several entries with one key the last counts. -/
def orderEntries {α : Type} (entries : List (String × α)) : List (String × α) :=
  entries.foldl (fun acc (key, a) ↦ insertEntry key a acc) []

/-- The map with the given entries, written by ascending key. -/
def Value.ofEntries (entries : List (String × Value)) : Value :=
  .map (orderEntries entries)

end MachineArgs
