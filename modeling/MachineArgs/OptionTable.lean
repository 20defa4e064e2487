/-!
# Option tables

An option table is the part of an argument that follows its flag: slots joined by commas, such
as `user,id=net0,hostfwd=tcp::2222-:22`. A slot is a bare value, a `key=value` pair, or padding
in front of a value that was placed beyond the end.

Three decisions shape the type.

* **Keys may repeat.** `addKeyed` always opens a new slot. `setKeyed` replaces the value of the
  slot that *owns* the key and opens a new one only if the key has no owner.
* **Owners are listed by position.** A key gets its owner when the slot is opened at the end, so
  positions only grow and equal tables have equal lists of owners.
* **The window starts at the earliest position ever assigned.** Padding before it is never
  written and never counted.
-/

namespace MachineArgs

/-- One slot of an option table. -/
inductive Slot where
  /-- A position that was skipped when a later one was assigned. -/
  | padding
  /-- A bare value. -/
  | bare (value : String)
  /-- A `key=value` pair. -/
  | keyed (key value : String)
deriving DecidableEq

namespace Slot

/-- How a slot is written; padding is not written at all. -/
def text? : Slot → Option String
  | padding => none
  | bare value => some value
  | keyed key value => some (key ++ "=" ++ value)

/-- Whether a slot is written. -/
def isWritten (slot : Slot) : Bool :=
  slot.text?.isSome

end Slot

/-- Slots in order, the slot that owns each key, and where the window starts. -/
structure OptionTable where
  /-- Every slot, padding included. -/
  slots : List Slot := []
  /-- The position that owns each key, by ascending position. -/
  owners : List (String × Nat) := []
  /-- The earliest position that was ever assigned. -/
  start : Option Nat := none
deriving DecidableEq

namespace OptionTable

/-- The table without slots. -/
def empty : OptionTable := {}

/-- The position of the slot that owns `key`. -/
def owner? (t : OptionTable) (key : String) : Option Nat :=
  t.owners.lookup key

/-- The window start once `index` has been assigned too. -/
def startWith (t : OptionTable) (index : Nat) : Nat :=
  match t.start with
  | none => index
  | some start => min index start

/-- Opens a new slot after the last one. -/
def push (t : OptionTable) (slot : Slot) : OptionTable where
  slots := t.slots ++ [slot]
  owners := t.owners
  start := some (t.startWith t.slots.length)

/-- Appends each value as a bare slot. -/
def append (t : OptionTable) (values : List String) : OptionTable :=
  values.foldl (fun t value ↦ t.push (.bare value)) t

/-- The table of the given bare values. -/
def ofValues (values : List String) : OptionTable :=
  empty.append values

/-- The owners once the slot at `index` is lost. If it has a key and owns it, the key has no owner
any more; another slot with the key does not take its place. -/
def ownersWithout (t : OptionTable) (index : Nat) : List (String × Nat) :=
  match t.slots[index]? with
  | some (.keyed key _) =>
    if t.owner? key = some index then t.owners.filter fun owner ↦ owner.1 ≠ key else t.owners
  | _ => t.owners

/-- Puts a bare value at `index`. Inside the table the slot there is replaced, and a key that it
owned is forgotten; beyond the end the gap is filled with padding. -/
def setPositional (t : OptionTable) (index : Nat) (value : String) : OptionTable where
  slots :=
    if index < t.slots.length then
      t.slots.set index (.bare value)
    else
      t.slots ++ List.replicate (index - t.slots.length) .padding ++ [.bare value]
  owners := t.ownersWithout index
  start := some (t.startWith index)

/-- Opens a new slot for `key`, which owns the key if no earlier slot does. -/
def addKeyed (t : OptionTable) (key value : String) : OptionTable :=
  let t' := t.push (.keyed key value)
  match t.owner? key with
  | some _ => t'
  | none => { t' with owners := t.owners ++ [(key, t.slots.length)] }

/-- Replaces the value of the slot that owns `key`, or opens a slot for it. -/
def setKeyed (t : OptionTable) (key value : String) : OptionTable :=
  match t.owner? key with
  | none => t.addKeyed key value
  | some index =>
    match t.slots[index]? with
    | some (.keyed key' _) => { t with slots := t.slots.set index (.keyed key' value) }
    | _ => t.addKeyed key value

/-- The slots from the window start on. -/
def visible (t : OptionTable) : List Slot :=
  match t.start with
  | none => []
  | some start => t.slots.drop start

/-- The written forms of the visible slots. -/
def parts (t : OptionTable) : List String :=
  t.visible.filterMap Slot.text?

/-- The number of visible slots that are not padding. -/
def size (t : OptionTable) : Nat :=
  t.parts.length

/-- Whether nothing would be written. -/
def isEmpty (t : OptionTable) : Bool :=
  t.size == 0

/-- The table as one argument. -/
def serialize (t : OptionTable) : String :=
  ",".intercalate t.parts

/-! ### Edits -/

/-- One operation on a table. -/
inductive Edit where
  /-- Append bare values. -/
  | append (values : List String)
  /-- Put a bare value at a position. -/
  | setPositional (index : Nat) (value : String)
  /-- Open a slot for a key. -/
  | addKeyed (key value : String)
  /-- Replace the value of the slot of a key. -/
  | setKeyed (key value : String)

namespace Edit

/-- Writes a value, bare if there is no key. -/
def write (key? : Option String) (value : String) : Edit :=
  match key? with
  | some key => setKeyed key value
  | none => append [value]

/-- Writes one of several values of a key, bare if there is no key. -/
def writeNext (key? : Option String) (value : String) : Edit :=
  match key? with
  | some key => addKeyed key value
  | none => append [value]

end Edit

/-- Performs one edit. -/
def edit (t : OptionTable) : Edit → OptionTable
  | .append values => t.append values
  | .setPositional index value => t.setPositional index value
  | .addKeyed key value => t.addKeyed key value
  | .setKeyed key value => t.setKeyed key value

/-- Performs edits from left to right. -/
def edits (t : OptionTable) (es : List Edit) : OptionTable :=
  es.foldl edit t

/-- The tables seen before the first edit and after each. -/
def history (t : OptionTable) : List Edit → List OptionTable
  | [] => [t]
  | e :: es => t :: (t.edit e).history es

@[simp]
theorem edits_nil (t : OptionTable) : t.edits [] = t := rfl

@[simp]
theorem edits_cons (t : OptionTable) (e : Edit) (es : List Edit) :
    t.edits (e :: es) = (t.edit e).edits es := rfl

end OptionTable

end MachineArgs
