import MachineArgs.OptionTable

/-!
# Named tables

The option tables of one encoding, one per group, in the order in which the groups were first
selected. Writes go to the selected group; a write before any selection selects the group without
a name. A group without a name has no flag, and an empty table gives no argument at all.

An encoding is a list of emissions, and the tables are what these emissions do to the tables at
the start (`run`).
-/

namespace MachineArgs

/-- One step of an encoding. -/
inductive Emission where
  /-- Make a group the target. -/
  | select (group : String)
  /-- Write a value under a key, replacing the value that the key's slot has. -/
  | set (key value : String)
  /-- Write a value under a key in a slot of its own. -/
  | add (key value : String)
  /-- Write a bare value. -/
  | append (value : String)
deriving DecidableEq

namespace Emission

/-- Writes a value, bare if there is no key. -/
def write (key? : Option String) (value : String) : Emission :=
  match key? with
  | some key => set key value
  | none => append value

/-- Writes one of several values of a key, bare if there is no key. -/
def writeNext (key? : Option String) (value : String) : Emission :=
  match key? with
  | some key => add key value
  | none => append value

/-- What an emission does to the table of its group. -/
def onTable (t : OptionTable) : Emission → OptionTable
  | select _ => t
  | set key value => t.setKeyed key value
  | add key value => t.addKeyed key value
  | append value => t.append [value]

end Emission

/-- Tables by group, and the group that is the target. -/
structure NamedTables where
  /-- Groups in the order of their first selection. -/
  groups : List (String × OptionTable) := []
  /-- The target, once one was selected. -/
  current : Option String := none
deriving DecidableEq

namespace NamedTables

/-- The group that takes writes before any group was selected. -/
def implicitGroup : String :=
  ""

/-- The group names in order. -/
def names (t : NamedTables) : List String :=
  t.groups.map (·.1)

/-- The table of a group. -/
def get? (t : NamedTables) (name : String) : Option OptionTable :=
  t.groups.lookup name

/-- Makes a group the target, with an empty table if it is new. -/
def select (t : NamedTables) (name : String) : NamedTables where
  groups := if t.names.contains name then t.groups else t.groups ++ [(name, .empty)]
  current := some name

/-- Applies a function to the table of one group. -/
def modify (t : NamedTables) (name : String) (f : OptionTable → OptionTable) : NamedTables where
  groups := t.groups.map fun (n, table) ↦ (n, if n = name then f table else table)
  current := t.current

/-- Applies a function to the target, which is the implicit group if none was selected. -/
def onTarget (t : NamedTables) (f : OptionTable → OptionTable) : NamedTables :=
  match t.current with
  | some name => t.modify name f
  | none => (t.select implicitGroup).modify implicitGroup f

/-- Performs one emission. -/
def perform (t : NamedTables) : Emission → NamedTables
  | .select name => t.select name
  | e => t.onTarget fun table ↦ e.onTable table

/-- Performs emissions from left to right. -/
def run (t : NamedTables) (es : List Emission) : NamedTables :=
  es.foldl perform t

/-- The tables at the start of an encoding: a default group is selected if there is one. -/
def initial : Option String → NamedTables
  | none => {}
  | some group => ({} : NamedTables).select group

/-- The arguments of one group: its flag, if it has a name, and its table, if it is not empty. -/
def groupArgs (name : String) (table : OptionTable) : List String :=
  if table.isEmpty then []
  else if name.isEmpty then [table.serialize]
  else ["-" ++ name, table.serialize]

/-- The arguments of all groups. -/
def args (t : NamedTables) : List String :=
  t.groups.flatMap fun (name, table) ↦ groupArgs name table

@[simp]
theorem run_nil (t : NamedTables) : t.run [] = t := rfl

@[simp]
theorem run_cons (t : NamedTables) (e : Emission) (es : List Emission) :
    t.run (e :: es) = (t.perform e).run es := rfl

theorem run_append (t : NamedTables) (es es' : List Emission) :
    t.run (es ++ es') = (t.run es).run es' := by
  simp [run, List.foldl_append]

end NamedTables

end MachineArgs
