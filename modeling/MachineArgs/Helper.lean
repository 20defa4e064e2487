import MachineArgs.Device.Tpm
import MachineArgs.Image
import MachineArgs.Text.Blank

/-!
# Helper programs

Three jobs are done by other programs: creating an image, opening a tap on a bridge, and emulating
a TPM. What the host reports about such a program (`Outcome`) is judged here; running it is not
part of this. An argument that holds a NUL character keeps any program from being started.
-/

namespace MachineArgs.Helper

/-- What the host reports about a program. -/
inductive Outcome where
  /-- It could not be started. -/
  | notStarted (cause : String)
  /-- It ran, with this end and this text on its standard error. -/
  | ended (status : ExitStatus) (stderr : String)
deriving DecidableEq

/-- Why arguments with a NUL character cannot be passed on. -/
def nulCause : String :=
  "nul byte found in provided data"

/-- What comes of starting a program with the given arguments on a host that would report
`outcome`. -/
def start (args : List String) (outcome : Outcome) : Outcome :=
  if args.any fun arg ↦ arg.toList.contains '\x00' then .notStarted nulCause else outcome

/-- Text without blanks at its ends. -/
def trim (text : String) : String :=
  String.ofList
    ((text.toList.dropWhile Text.isBlank).reverse.dropWhile Text.isBlank).reverse

/-- Judges the end of a program: an error unless it did its work. -/
def requireSuccess (program : String) (status : ExitStatus) (stderr : String) :
    Except Error Unit :=
  if status.isSuccess then .ok () else .error (.helper program status (trim stderr))

/-- Creates an image. -/
def createImage (program path : String) (size : Nat) (format : ImageFormat) (outcome : Outcome) :
    Except Error Unit := do
  let args ← format.createArgs path size
  match start args outcome with
  | .notStarted cause => .error (.io ("failed to run " ++ program) cause)
  | .ended status stderr => requireSuccess program status stderr

/-- The error that a program could not be started. -/
def spawnError (program cause : String) : Error :=
  .io ("failed to spawn " ++ program) cause

/-- The program that opens taps. -/
def bridgeProgram : String :=
  "/usr/lib/qemu/qemu-bridge-helper"

/-- Opens a tap on a bridge. The program must end well and pass the tap's descriptor back. -/
def openTap (program bridge : String) (outcome : Outcome) (isPassed : Bool) :
    Except Error Handle :=
  match start ["--fd=3", "--br=" ++ bridge] outcome with
  | .notStarted cause => .error (spawnError program cause)
  | .ended status stderr => do
    requireSuccess program status stderr
    if isPassed then return { name := bridge, resource := .tap bridge }
    else .error (.noDescriptor program)

/-- The program that emulates a TPM. -/
def tpmProgram : String :=
  "swtpm"

/-- Starts the emulation of a TPM with further arguments. The program goes on running, so how it
ends does not matter. -/
def startTpm (program name : String) (args : List String) (outcome : Outcome) :
    Except Error Tpm :=
  match start (["socket", "--ctrl", "type=unixio,clientfd=3"] ++ args) outcome with
  | .notStarted cause => .error (spawnError program cause)
  | .ended _ _ => .ok (.create name)

end MachineArgs.Helper
