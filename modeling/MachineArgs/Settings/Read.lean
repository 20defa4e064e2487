import MachineArgs.Settings
import MachineArgs.Toml.Document

/-!
# Reading settings

Settings come from a configuration document. A key that is missing leaves its default; a key that
is not known is ignored as long as its numbers can be taken in at all. The machine's settings may
also be an array, which gives them by position and of which nothing else is looked at, or a date
or time, which gives none.
-/

namespace MachineArgs

/-- A reader of the value under a key. -/
abbrev ValueReader (α : Type) : Type :=
  Toml.Value → Option α

namespace ValueReader

/-- Reads text. -/
def text : ValueReader String
  | .text s => some s
  | _ => none

/-- Reads a truth value. -/
def boolean : ValueReader Bool
  | .boolean b => some b
  | _ => none

/-- Reads an array of texts. -/
def texts : ValueReader (List String)
  | .array _ items => items.mapM text
  | _ => none

/-- Reads a whole number of the given number of bits. -/
def natural (bits : Nat) : ValueReader Nat
  | .whole n => if 0 ≤ n && n < Text.capacity bits then some n.toNat else none
  | _ => none

/-- Reads a value that may be missing. -/
def orDefault {α : Type} (default : α) (read : ValueReader α) : Option Toml.Value → Option α
  | none => some default
  | some v => read v

end ValueReader

open ValueReader

namespace MachineSettings

/-- The keys of a machine's settings, in the order of an array. -/
def keys : List String :=
  ["memory_mib", "cpus", "cpu", "kvm"]

/-- Reads settings by a function that finds the value of a key. -/
def ofLookup? (find : String → Option Toml.Value) : Option MachineSettings := do
  let defaults : MachineSettings := {}
  let memory ← orDefault defaults.memory (natural 64) (find "memory_mib")
  let cpus ← orDefault defaults.cpus (natural 32) (find "cpus")
  let model ← orDefault defaults.model (fun v ↦ (text v).map some) (find "cpu")
  let accelerated ← orDefault defaults.accelerated boolean (find "kvm")
  return { memory, cpus, model, accelerated }

/-- Reads a machine's settings. -/
def read : ValueReader MachineSettings
  | .table _ entries =>
    if (entries.filter fun entry ↦ !keys.contains entry.1).all fun entry ↦ entry.2.fits then
      ofLookup? fun key ↦ entries.lookup key
    else none
  | .array _ items => ofLookup? fun key ↦ (keys.zip items).lookup key
  | .moment => some {}
  | _ => none

end MachineSettings

namespace Settings

/-- The keys of settings. -/
def keys : List String :=
  ["binary", "keep_defaults", "keep_user_config", "ignore_env", "machine"]

/-- Reads settings from the entries of a document. -/
def ofEntries? (entries : Toml.Entries) : Option Settings := do
  if !(entries.filter fun entry ↦ !keys.contains entry.1).all fun entry ↦ entry.2.fits then none
  let find (key : String) := entries.lookup key
  let defaults : Settings := {}
  let binary ← orDefault defaults.binary texts (find "binary")
  let keepDefaults ← orDefault defaults.keepDefaults boolean (find "keep_defaults")
  let keepUserConfig ← orDefault defaults.keepUserConfig boolean (find "keep_user_config")
  let ignoreEnvironment ← orDefault defaults.ignoreEnvironment boolean (find "ignore_env")
  let machine ← orDefault defaults.machine MachineSettings.read (find "machine")
  return { binary, keepDefaults, keepUserConfig, ignoreEnvironment, machine }

/-- Reads settings from the text of a configuration document. -/
def ofDocument? (text : String) : Option Settings :=
  (Toml.Entries.ofText? text).bind ofEntries?

end Settings

end MachineArgs
