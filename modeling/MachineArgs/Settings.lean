import MachineArgs.Machine
import MachineArgs.Text.Quoted
import MachineArgs.Text.ShellWords

/-!
# Settings

Settings are what a configuration file supplies: the emulator to run, the baselines to keep, and
what a machine gets unless the command line says otherwise. Settings from a file are checked
before use.

Which program runs is decided by the first of these that names one: the environment, unless the
settings say to ignore it; the settings; the default emulator. The environment names it by a text,
and what splits this text into words is a parameter, by default the splitter of
`MachineArgs.Text.ShellWords`.
-/

namespace MachineArgs

/-- What a machine gets unless the command line says otherwise. -/
structure MachineSettings where
  /-- Guest memory in MiB. -/
  memory : Nat := 1024
  /-- The number of processors. -/
  cpus : Nat := 1
  /-- The model of the processors. -/
  model : Option String := none
  /-- The host's hypervisor accelerates the machine. -/
  accelerated : Bool := false

/-- What a configuration file supplies. -/
structure Settings where
  /-- The program and its leading arguments; empty if the file names none. -/
  binary : List String := []
  /-- The emulator's default devices are kept. -/
  keepDefaults : Bool := false
  /-- The configuration files of the host's user are read. -/
  keepUserConfig : Bool := false
  /-- The environment does not decide which program runs. -/
  ignoreEnvironment : Bool := false
  /-- What a machine gets. -/
  machine : MachineSettings := {}

/-- What may be wrong with settings that were read. -/
inductive SettingsFault where
  /-- The program has an empty name. -/
  | namelessProgram
  /-- There is no memory. -/
  | noMemory
  /-- There are no processors. -/
  | noProcessors
deriving DecidableEq

/-- The wording of a fault. -/
def SettingsFault.message : SettingsFault → String
  | namelessProgram => "binary must start with a program name"
  | noMemory => "machine.memory_mib must be greater than zero"
  | noProcessors => "machine.cpus must be greater than zero"

/-- Why there are no settings, or no program to run by them. -/
inductive SettingsError where
  /-- The file cannot be read. -/
  | unreadable (path cause : String)
  /-- The file is not well formed. -/
  | malformed (path : String)
  /-- The settings do not make sense. -/
  | invalid (fault : SettingsFault)
  /-- The program that the environment names cannot be split into words. -/
  | unbalanced (value : String)
deriving DecidableEq

namespace SettingsError

/-- The variable of the environment that names a program. -/
def variableName : String :=
  "QEMU_BIN"

/-- The wording of an error. -/
def message : SettingsError → String
  | unreadable path cause => "Failed to read config file '" ++ path ++ "': " ++ cause
  | malformed path => "Failed to parse config file '" ++ path ++ "'"
  | invalid fault => "Config validation failed: " ++ fault.message
  | unbalanced value =>
    "Cannot split " ++ variableName ++ "=" ++ Text.Quoted.quote value ++
      ": unbalanced quotes or trailing escape"

/-- The messages of an error and of what caused it, outermost first. -/
def causes : SettingsError → List String
  | unreadable path cause => [(unreadable path cause).message, cause]
  | e => [e.message]

end SettingsError

namespace Settings

/-- The first fault of the settings: in the program, the memory, the processors. -/
def fault? (s : Settings) : Option SettingsFault :=
  if s.binary.head? = some "" then some .namelessProgram
  else if s.machine.memory = 0 then some .noMemory
  else if s.machine.cpus = 0 then some .noProcessors
  else none

/-- The settings, if they make sense. -/
def validate (s : Settings) : Except SettingsError Settings :=
  match s.fault? with
  | some fault => .error (.invalid fault)
  | none => .ok s

/-- Settings that make sense have no fault, and stay what they are. -/
theorem validate_eq_ok {s s' : Settings} : s.validate = .ok s' ↔ s' = s ∧ s.fault? = none := by
  rw [validate]
  cases s.fault? <;> simp [eq_comm]

/-- The program to run and its leading arguments, given what the environment and the settings
name. -/
def chooseBinary (environment : Option String) (configured : List String)
    (split : String → Option (List String) := Text.ShellWords.split?) :
    Except SettingsError (List String) :=
  let orElse := if configured.isEmpty then [defaultEmulator] else configured
  match environment with
  | none => .ok orElse
  | some value =>
    match split value with
    | none => .error (.unbalanced value)
    | some [] => .ok orElse
    | some words => .ok words

/-- The program to run by these settings in an environment. -/
def resolveBinary (s : Settings) (environment : Option String)
    (split : String → Option (List String) := Text.ShellWords.split?) :
    Except SettingsError (List String) :=
  chooseBinary (if s.ignoreEnvironment then none else environment) s.binary split

end Settings

/-- A machine without devices, by these settings in an environment. -/
def Machine.ofSettings (s : Settings) (environment : Option String)
    (split : String → Option (List String) := Text.ShellWords.split?) :
    Except SettingsError Machine := do
  let binary ← s.resolveBinary environment split
  return { binary, keepDefaults := s.keepDefaults, keepUserConfig := s.keepUserConfig }

end MachineArgs
