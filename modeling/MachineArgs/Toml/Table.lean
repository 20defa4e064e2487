import MachineArgs.Toml.Value

/-!
# Tables

What may be written into a table, and where. A key may stand behind a path of further keys, which
leads through tables that exist or come to be on the way (`within`); through an array of tables it
leads into the last one. Three things can happen at its end: an entry is defined (`define`), a
header opens a table (`openTable`), or a header adds a table to an array (`openElement`). Nothing
is ever replaced by something else: a name is used once, and an implied table is opened once.
-/

namespace MachineArgs.Toml

/-- A key behind a path of further keys. -/
structure Key where
  /-- The keys in front. -/
  path : List String
  /-- The key itself. -/
  last : String

namespace Entries

/-- The value under a key. -/
def get? (es : Entries) (key : String) : Option Value :=
  es.lookup key

/-- Puts a value under a key, in the place of the value that is there. -/
def put (es : Entries) (key : String) (v : Value) : Entries :=
  if (es.get? key).isSome then es.map fun (k, old) ↦ (k, if k = key then v else old)
  else es ++ [(key, v)]

/-- Whether a path of the given kind may lead through an existing table: never through an inline
table, and a dotted key not through one that a header opened. -/
def admits (isDotted : Bool) (origin : TableOrigin) : Bool :=
  match origin with
  | .inline => false
  | .header => !isDotted
  | .implied | .dotted => true

/-- Changes the table at the end of a path. Tables that are missing come to be on the way. -/
def within (isDotted : Bool) (change : TableOrigin → Entries → Option Entries) :
    List String → TableOrigin → Entries → Option Entries
  | [], origin, es => change origin es
  | key :: path, _, es =>
    match es.get? key with
    | none => do
      let origin := if isDotted then TableOrigin.dotted else .implied
      let inner ← within isDotted change path origin []
      return es.put key (.table origin inner)
    | some (.table origin inner) =>
      if admits isDotted origin then do
        let inner ← within isDotted change path origin inner
        return es.put key (.table origin inner)
      else none
    | some (.array true items) =>
      match items.getLast? with
      | some (.table origin inner) => do
        let inner ← within isDotted change path origin inner
        return es.put key (.array true (items.dropLast ++ [.table origin inner]))
      | _ => none
    | some _ => none

/-- Defines an entry. A dotted key ends in a table that dotted keys made, a plain key in one that
they did not. -/
def define (es : Entries) (key : Key) (v : Value) : Option Entries :=
  within (!key.path.isEmpty)
    (fun origin inner ↦
      if (origin == .dotted) == key.path.isEmpty then none
      else if (inner.get? key.last).isSome then none
      else some (inner.put key.last v))
    key.path .header es

/-- Defines entries from left to right. -/
def defineAll (es : Entries) (pairs : List (Key × Value)) : Option Entries :=
  pairs.foldlM (fun es (key, v) ↦ es.define key v) es

/-- Opens a table, which may only be implied so far, and defines its entries. -/
def openTable (es : Entries) (key : Key) (pairs : List (Key × Value)) : Option Entries :=
  within false
    (fun _ outer ↦
      match outer.get? key.last with
      | none => (defineAll [] pairs).map fun inner ↦ outer.put key.last (.table .header inner)
      | some (.table .implied old) =>
        (defineAll old pairs).map fun inner ↦ outer.put key.last (.table .header inner)
      | some _ => none)
    key.path .header es

/-- Adds a table to an array of tables, which may be new, and defines its entries. -/
def openElement (es : Entries) (key : Key) (pairs : List (Key × Value)) : Option Entries :=
  within false
    (fun _ outer ↦ do
      let inner ← defineAll [] pairs
      match outer.get? key.last with
      | none => return outer.put key.last (.array true [.table .header inner])
      | some (.array true items) =>
        return outer.put key.last (.array true (items ++ [.table .header inner]))
      | some _ => none)
    key.path .header es

end Entries

end MachineArgs.Toml
