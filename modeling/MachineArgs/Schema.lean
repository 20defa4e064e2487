import MachineArgs.Text.Kebab

/-!
# Schemas

A schema says how the values of one kind of record become slots: the field directives in order,
and the places where another option group becomes the target. A record supplies one value per
field; group entries take none.

The key of a field follows from its `KeyRule` alone, so a schema is plain data and two fields
with the same directives behave alike.
-/

namespace MachineArgs

/-- How the key of a field is found. -/
inductive KeyRule where
  /-- The key is given. -/
  | named (key : String)
  /-- There is no key: the value is a bare slot. -/
  | unnamed
  /-- The identifier as hyphenated lower-case words. -/
  | kebab
  /-- The identifier in lower case, without underscores. -/
  | plain
deriving DecidableEq

namespace KeyRule

/-- The rule that several directives amount to: a given name wins over the positional marker,
which wins over hyphenation. -/
def ofDirectives (name? : Option String) (isUnnamed isKebab : Bool) : KeyRule :=
  match name? with
  | some key => named key
  | none => if isUnnamed then unnamed else if isKebab then kebab else plain

/-- The key of the field `ident`. -/
def key? (ident : String) : KeyRule → Option String
  | named key => some key
  | unnamed => none
  | kebab => some (Text.kebabCase ident)
  | plain => some (String.ofList (Text.Case.lowerText (ident.toList.filter (· != '_'))))

end KeyRule

/-- The directives of one record field. -/
structure Field where
  /-- The identifier, which error paths show. -/
  ident : String
  /-- How the key is found. -/
  keyRule : KeyRule := .plain
  /-- The field is never written. -/
  skipped : Bool := false
  /-- Lists are joined into one slot by this separator. -/
  separator : Option String := none
  /-- Lists take one slot per element. -/
  repeated : Bool := false
  /-- An embedded record is expanded in place. -/
  flattened : Bool := false
  /-- The option group that becomes the target before the field. -/
  group : Option String := none

namespace Field

/-- A field whose key is its identifier in lower case, without underscores. -/
def plain (ident : String) : Field :=
  { ident }

/-- A field whose key is its identifier as hyphenated lower-case words. -/
def kebab (ident : String) : Field :=
  { ident, keyRule := .kebab }

/-- A field with a given key. -/
def named (ident key : String) : Field :=
  { ident, keyRule := .named key }

/-- A field whose key is its identifier as it stands. -/
def verbatim (ident : String) : Field :=
  named ident ident

/-- A field without a key. -/
def unnamed (ident : String) : Field :=
  { ident, keyRule := .unnamed }

/-- An embedded record. -/
def embedded (ident : String) : Field :=
  { ident, flattened := true }

/-- The key of the field, or `none` if its value is a bare slot. -/
def key? (f : Field) : Option String :=
  f.keyRule.key? f.ident

end Field

/-- One entry of a schema. -/
inductive Entry where
  /-- Another group becomes the target. -/
  | group (name : String)
  /-- A field takes the next value. -/
  | field (f : Field)

namespace Entry

/-- The field of an entry, if it is one. -/
def field? : Entry → Option Field
  | group _ => none
  | field f => some f

end Entry

/-- The entries of one kind of record, under the name that error paths show. -/
structure Schema where
  /-- The name of the kind of record. -/
  name : String
  /-- Group entries and fields in order. -/
  entries : List Entry

namespace Schema

/-- The fields in order. -/
def fields (s : Schema) : List Field :=
  s.entries.filterMap Entry.field?

/-- The number of values that a record must supply. -/
def fieldCount (s : Schema) : Nat :=
  s.fields.length

end Schema

end MachineArgs
