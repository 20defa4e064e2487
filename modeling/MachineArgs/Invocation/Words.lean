import MachineArgs.Invocation
import MachineArgs.Text.Numeral

/-!
# Reading words

An invocation is read from the words behind the program's name. `--name value` and `--name=value`
both give a parameter its value, and a parameter without a value stands alone. A word that starts
like a parameter is never taken as a value.

Which fault is reported matters when there are several. Words are read from left to right. A value
is judged when the next parameter is read or the words end; a word that is no parameter and no
value is reported before that. What parameters need from each other is judged last.

Nothing else depends on how words are read: an invocation is carried out whatever it was read from.
-/

namespace MachineArgs

/-- Why words are no invocation. -/
inductive UsageError where
  /-- A word is no parameter and no value of one. -/
  | unknownWord
  /-- A value is missing, or empty where it must not be. -/
  | missingValue
  /-- A value is no number, or out of range. -/
  | badValue
  /-- A parameter stands twice or beside one that excludes it. -/
  | conflict
  /-- A parameter stands without one that it needs. -/
  | missingParameter
  /-- A value stands with a parameter that takes none. -/
  | needlessValue
  /-- Help was asked for. -/
  | helpRequested
deriving DecidableEq

/-- What can be said about a machine. -/
inductive Parameter where
  /-- The configuration file. -/
  | config
  /-- Guest memory in MiB. -/
  | memory
  /-- The number of processors. -/
  | processors
  /-- The model of the processors. -/
  | model
  /-- Acceleration by the host's hypervisor. -/
  | acceleration
  /-- The name of the guest. -/
  | name
  /-- The kernel. -/
  | kernel
  /-- The initial ramdisk. -/
  | initrd
  /-- The kernel's command line. -/
  | append
  /-- A disk image. -/
  | drive
  /-- Networking in user mode. -/
  | userNetwork
  /-- A forward from the host. -/
  | forward
  /-- The bridge of a network tap. -/
  | bridge
  /-- The directory of an emulated TPM. -/
  | tpm
  /-- The emulator's default devices are kept. -/
  | keepDefaults
  /-- The configuration files of the host's user are read. -/
  | keepUserConfig
  /-- The emulator is started. -/
  | launch
deriving DecidableEq

namespace Parameter

/-- Every parameter. -/
def all : List Parameter :=
  [config, memory, processors, model, acceleration, name, kernel, initrd, append, drive,
   userNetwork, forward, bridge, tpm, keepDefaults, keepUserConfig, launch]

/-- How a parameter is written behind two hyphens. -/
def spelling : Parameter → String
  | config => "config"
  | memory => "memory"
  | processors => "smp"
  | model => "cpu"
  | acceleration => "kvm"
  | name => "name"
  | kernel => "kernel"
  | initrd => "initrd"
  | append => "append"
  | drive => "drive"
  | userNetwork => "user-net"
  | forward => "hostfwd"
  | bridge => "bridge"
  | tpm => "tpm"
  | keepDefaults => "keep-defaults"
  | keepUserConfig => "keep-user-config"
  | launch => "launch"

/-- The parameter with a spelling. -/
def ofSpelling? (s : String) : Option Parameter :=
  all.find? fun p ↦ p.spelling == s

/-- Whether a parameter takes a value. -/
def takesValue : Parameter → Bool
  | acceleration | userNetwork | keepDefaults | keepUserConfig | launch => false
  | _ => true

end Parameter

namespace Invocation

/-! ### Single parameters -/

/-- The value of a parameter that may stand only once. -/
def once {α : Type} (old : Option α) (new : Except UsageError α) :
    Except UsageError (Option α) :=
  if old.isSome then .error .conflict else new.map some

/-- The state of a parameter without a value, which may stand only once. -/
def turnOn (old : Bool) : Except UsageError Bool :=
  if old then .error .conflict else .ok true

/-- A path, which is not empty. -/
def readPath (value : String) : Except UsageError String :=
  if value.isEmpty then .error .missingValue else .ok value

/-- An amount of memory, below `2 ^ 64`. -/
def readMemory (value : String) : Except UsageError Nat :=
  match Text.readBounded (Text.capacity 64 - 1) value.toList with
  | some n => .ok n
  | none => .error .badValue

/-- A number of processors, below `2 ^ 32`. It is read as a signed number first. -/
def readProcessors (value : String) : Except UsageError Nat :=
  match Text.readInteger value.toList with
  | some n => if 0 ≤ n && n < Text.capacity 32 then .ok n.toNat else .error .badValue
  | none => .error .badValue

/-- Gives a parameter its value. -/
def give (inv : Invocation) (p : Parameter) (value : String) : Except UsageError Invocation :=
  match p with
  | .config => (once inv.config (readPath value)).map fun v ↦ { inv with config := v }
  | .memory => (once inv.memory (readMemory value)).map fun v ↦ { inv with memory := v }
  | .processors =>
    (once inv.processors (readProcessors value)).map fun v ↦ { inv with processors := v }
  | .model => (once inv.model (.ok value)).map fun v ↦ { inv with model := v }
  | .name => (once inv.name (.ok value)).map fun v ↦ { inv with name := v }
  | .kernel => (once inv.kernel (.ok value)).map fun v ↦ { inv with kernel := v }
  | .initrd => (once inv.initrd (.ok value)).map fun v ↦ { inv with initrd := v }
  | .append => (once inv.append (.ok value)).map fun v ↦ { inv with append := v }
  | .drive => (readPath value).map fun v ↦ { inv with drives := inv.drives ++ [v] }
  | .forward => .ok { inv with forwards := inv.forwards ++ [value] }
  | .bridge => (once inv.bridge (.ok value)).map fun v ↦ { inv with bridge := v }
  | .tpm => (once inv.tpm (readPath value)).map fun v ↦ { inv with tpm := v }
  | .acceleration | .userNetwork | .keepDefaults | .keepUserConfig | .launch =>
    .error .needlessValue

/-- Notes a parameter that stands alone. -/
def note (inv : Invocation) (p : Parameter) : Except UsageError Invocation :=
  match p with
  | .acceleration => (turnOn inv.acceleration).map fun v ↦ { inv with acceleration := v }
  | .userNetwork => (turnOn inv.userNetwork).map fun v ↦ { inv with userNetwork := v }
  | .keepDefaults => (turnOn inv.keepDefaults).map fun v ↦ { inv with keepDefaults := v }
  | .keepUserConfig => (turnOn inv.keepUserConfig).map fun v ↦ { inv with keepUserConfig := v }
  | .launch => (turnOn inv.launch).map fun v ↦ { inv with launch := v }
  | _ => .error .missingValue

/-! ### Words -/

/-- What a word looks like. -/
inductive Word where
  /-- Two hyphens: no parameters follow. -/
  | terminator
  /-- A name behind two hyphens, and a value behind an equals sign. -/
  | long (name : String) (value : Option String)
  /-- Letters behind one hyphen, by the first. -/
  | short (letter : Char)
  /-- Anything else. -/
  | plain (text : String)

/-- What a word looks like. -/
def Word.ofString (s : String) : Word :=
  match s.toList with
  | ['-', '-'] => .terminator
  | '-' :: '-' :: cs =>
    .long (String.ofList (cs.takeWhile (· != '=')))
      (match cs.dropWhile (· != '=') with
        | _ :: value => some (String.ofList value)
        | [] => none)
  | '-' :: c :: _ => .short c
  | _ => .plain s

/-- The name and the letter that ask for help. -/
def helpName : String :=
  "help"

/-- The letter that asks for help. -/
def helpLetter : Char :=
  'h'

/-- A parameter that was read but not judged, with its value if that was read too. -/
abbrev Pending : Type :=
  Option (Parameter × Option String)

/-- Judges a pending parameter. -/
def settle (inv : Invocation) : Pending → Except UsageError Invocation
  | none => .ok inv
  | some (_, none) => .error .missingValue
  | some (p, some value) => inv.give p value

/-- Judges a pending parameter, then shows help. -/
def settleForHelp (inv : Invocation) (pending : Pending) : Except UsageError Invocation := do
  let _ ← inv.settle pending
  .error .helpRequested

/-- Reads the words from some point on. -/
def readWords (inv : Invocation) (pending : Pending) :
    List String → Except UsageError Invocation
  | [] => inv.settle pending
  | word :: words =>
    match Word.ofString word with
    | .terminator => if words.isEmpty then inv.settle pending else .error .unknownWord
    | .short letter =>
      if letter == helpLetter then inv.settleForHelp pending else .error .unknownWord
    | .plain text =>
      match pending with
      | some (p, none) => readWords inv (some (p, some text)) words
      | _ => .error .unknownWord
    | .long name value =>
      if name == helpName then
        if value.isSome then .error .needlessValue else inv.settleForHelp pending
      else
        match Parameter.ofSpelling? name, value with
        | none, _ => .error .unknownWord
        | some p, some value =>
          if p.takesValue then do
            let inv ← inv.settle pending
            let inv ← inv.give p value
            readWords inv none words
          else .error .needlessValue
        | some p, none => do
          let inv ← inv.settle pending
          if p.takesValue then readWords inv (some (p, none)) words
          else do
            let inv ← inv.note p
            readWords inv none words

/-- Judges what parameters need from each other: a bridge excludes networking in user mode, a
ramdisk and a kernel's command line need a kernel, and a forward needs networking in user mode
unless a bridge excludes it. -/
def check (inv : Invocation) : Except UsageError Invocation :=
  if inv.bridge.isSome && inv.userNetwork then .error .conflict
  else if (inv.initrd.isSome || inv.append.isSome) && inv.kernel.isNone then
    .error .missingParameter
  else if !inv.forwards.isEmpty && !inv.userNetwork && inv.bridge.isNone then
    .error .missingParameter
  else .ok inv

/-- Reads the words behind the program's name. -/
def ofWords (words : List String) : Except UsageError Invocation := do
  let inv ← readWords {} none words
  inv.check

end Invocation

end MachineArgs
