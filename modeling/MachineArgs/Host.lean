import MachineArgs.Helper
import MachineArgs.Settings

/-!
# Hosts

An invocation is carried out on a host. The host answers questions only: which files can be opened
and read, what the environment says, what comes of a download and of helper programs. So carrying
out an invocation is a function of the invocation and the answers.

What formats mean that are laid down elsewhere is asked as well: the settings in a configuration
document, and the words of a text as a shell splits it. Settings that were read are checked here.

An error carries the step that failed (`Step`), and its message is the step's followed by those of
all causes.
-/

namespace MachineArgs

/-- What a host answers, and the readers that come with it. -/
structure Host where
  /-- Opens a file, or says why it cannot be opened. -/
  openFile : FileAccess → String → Except String Unit
  /-- Reads a file as text, or says why it cannot be read. -/
  readText : String → Except String String
  /-- Asks for what a URL leads to. Says why there is no answer, or what comes of receiving it. -/
  request : String → Except String (Except String Unit)
  /-- The settings that a configuration document says, if it is well formed. -/
  parseSettings : String → Option Settings
  /-- The words of a text as a shell splits it, if it can be split. -/
  splitWords : String → Option (List String)
  /-- Whether a path leads somewhere. -/
  hasPath : String → Bool
  /-- Where settings are if the invocation does not say so. -/
  settingsPath : String
  /-- The program that the environment names. -/
  environment : Option String := none
  /-- A fresh identifier. -/
  uuid : Uuid := .nil
  /-- What comes of opening a tap on a bridge, and whether its descriptor is passed back. -/
  tap : String → Helper.Outcome × Bool
  /-- What comes of starting the emulation of a TPM. -/
  tpm : Helper.Outcome

/-- A step in carrying out an invocation. -/
inductive Step where
  /-- The settings are read. -/
  | loadSettings
  /-- The program is chosen. -/
  | chooseBinary
  /-- A file to boot from is opened. -/
  | openFile (path : String)
  /-- A file to boot from is downloaded. -/
  | fetchFile (url : String)
  /-- A disk image is opened. -/
  | openDrive (path : String)
  /-- A tap on a bridge is opened. -/
  | openTap (bridge : String)
  /-- The emulation of a TPM is started. -/
  | startTpm
  /-- The command line is written. -/
  | assemble
deriving DecidableEq

/-- The wording of a step that failed. -/
def Step.message : Step → String
  | loadSettings => "failed to load configuration"
  | chooseBinary => "failed to resolve emulator binary"
  | openFile path => "failed to open " ++ path
  | fetchFile url => "failed to fetch " ++ url
  | openDrive path => "failed to open drive " ++ path
  | openTap bridge => "failed to open a TAP device on bridge " ++ bridge
  | startTpm => "failed to start TPM emulator"
  | assemble => "failed to assemble command line"

/-- Why an invocation was not carried out. -/
inductive RunError where
  /-- The settings are at fault. -/
  | settings (step : Step) (source : SettingsError)
  /-- Anything else is. -/
  | command (step : Step) (source : Error)
deriving DecidableEq

namespace RunError

/-- The step that failed. -/
def step : RunError → Step
  | settings step _ => step
  | command step _ => step

/-- The messages of what went wrong, outermost first. -/
def causes : RunError → List String
  | settings _ source => source.causes
  | command _ source => source.causes

/-- The wording of an error. -/
def message (e : RunError) : String :=
  ": ".intercalate (e.step.message :: e.causes)

end RunError

/-- What is put together on a host. -/
abbrev Attempt (α : Type) : Type :=
  Except RunError α

namespace Host

/-- Reads the settings at a path, and checks them. -/
def readSettings (host : Host) (path : String) : Except SettingsError Settings :=
  match host.readText path with
  | .error cause => .error (.unreadable path cause)
  | .ok text =>
    match host.parseSettings text with
    | none => .error (.malformed path)
    | some s => s.validate

/-- Reads the settings at the usual place, if there are any. -/
def usualSettings (host : Host) : Except SettingsError Settings :=
  if host.hasPath host.settingsPath then host.readSettings host.settingsPath else .ok {}

/-- Opens a file as a handle that is named after its path. -/
def openHandle (host : Host) (access : FileAccess) (path : String) : Except Error Handle :=
  match host.openFile access path with
  | .error cause => .error (.io ("failed to open " ++ path) cause)
  | .ok () => .ok (.ofFile path path)

/-- Downloads what a URL leads to into a file in memory that is named after the URL. -/
def fetch (host : Host) (url : String) : Except Error Handle := do
  let received ← (host.request url).mapError (Error.unfetched url)
  let handle ← Handle.inMemory url
  let () ← received.mapError (Error.unfetched url)
  return handle

end Host

end MachineArgs
