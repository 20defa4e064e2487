import MachineArgs.Invocation.Assembly

/-!
# The program

Writes the command line of a standard machine to the standard output. This module asks the host
and prints; what is asked for and what is printed is decided by `Invocation`.
-/

namespace MachineArgs.Program

/-- What the program says about itself. -/
def usage : String :=
  "Assemble a QEMU command line\n\nUsage: machineargs [--<parameter> [<value>]]...\n\n" ++
    "Parameters: " ++ ", ".intercalate (Parameter.all.map Parameter.spelling)

/-- The wording of a usage error. -/
def usageText : UsageError → String
  | .unknownWord => "error: unexpected argument found"
  | .missingValue => "error: a value is required for an argument but none was supplied"
  | .badValue => "error: invalid value for an argument"
  | .conflict => "error: an argument cannot be used more than once or with another one"
  | .missingParameter => "error: a required argument was not provided"
  | .needlessValue => "error: unexpected value for an argument"
  | .helpRequested => usage

/-- Why the operating system refused something. -/
def causeOf : IO.Error → String
  | .noFileOrDirectory _ code details => details ++ " (os error " ++ toString code ++ ")"
  | .permissionDenied _ code details => details ++ " (os error " ++ toString code ++ ")"
  | .inappropriateType _ code details => details ++ " (os error " ++ toString code ++ ")"
  | .otherError code details => details ++ " (os error " ++ toString code ++ ")"
  | e => toString e

/-- Runs an action and keeps why it failed. -/
def attempt {α : Type} (action : IO α) : IO (Except String α) := do
  try
    let a ← action
    return .ok a
  catch e => return .error (causeOf e)

/-- Whether an action failed because there is nothing of a name. -/
def isMissing {α : Type} : Except IO.Error α → Bool
  | .error (.noFileOrDirectory _ _ _) => true
  | _ => false

/-- Where settings are if the invocation does not say so. -/
def usualPath : IO String := do
  let fallback := (← IO.getEnv "HOME").elim "." fun home ↦ home ++ "/.config"
  return ((← IO.getEnv "XDG_CONFIG_HOME").getD fallback) ++ "/machineargs/config.toml"

/-- Tries to open a file. -/
def probe (access : FileAccess) (path : String) : IO (Except String Unit) :=
  attempt do
    let mode : IO.FS.Mode := match access with
      | .read => .read
      | .readWrite => .readWrite
    let _ ← IO.FS.Handle.mk path mode

/-- Why helper programs do not run. -/
def noHelpers : Helper.Outcome :=
  .notStarted "helper programs are not run from here"

/-- The host as far as an invocation asks about it. -/
def askHost (inv : Invocation) : IO Host := do
  let settingsPath ← usualPath
  let readFrom := inv.config.getD settingsPath
  let contents ← (IO.FS.readFile readFrom).toBaseIO
  let sources := inv.kernel.toList ++ inv.initrd.toList
  let bootFiles ← (sources.filter fun source ↦ !Invocation.isRemote source).mapM fun path ↦ do
    return ((FileAccess.read, path), ← probe .read path)
  let drives ← inv.drives.mapM fun path ↦ do
    return ((FileAccess.readWrite, path), ← probe .readWrite path)
  let opened := bootFiles ++ drives
  let random ← IO.getRandomBytes 16
  return {
    openFile := fun access path ↦ (opened.lookup (access, path)).getD (.ok ())
    readText := fun _ ↦ contents.mapError causeOf
    request := fun _ ↦ .error "nothing is fetched from here"
    parseSettings := Settings.ofDocument?
    splitWords := Text.ShellWords.split?
    hasPath := fun _ ↦ !isMissing contents
    settingsPath
    environment := ← IO.getEnv SettingsError.variableName
    uuid := (Uuid.ofRandom? random.toList).getD .nil
    tap := fun _ ↦ (noHelpers, false)
    tpm := noHelpers }

/-- Runs the program. -/
def run (words : List String) : IO UInt32 := do
  match Invocation.ofWords words with
  | .error .helpRequested =>
    IO.println (usageText .helpRequested)
    return 0
  | .error e =>
    IO.eprintln (usageText e)
    return 2
  | .ok inv =>
    match inv.describe (← askHost inv) with
    | .error e =>
      IO.eprintln ("Error: " ++ e.message)
      return 1
    | .ok description =>
      IO.println description.text
      return if inv.launch then 1 else 0

end MachineArgs.Program

/-- The program behind its name. -/
def main (words : List String) : IO UInt32 :=
  MachineArgs.Program.run words
