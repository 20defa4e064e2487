import MachineArgs.DeviceTree

/-!
# Command lines

A command line grows from left to right: the program with its leading arguments, the baseline
flags, the arguments of devices, and any extra arguments. There is none without a program.
-/

namespace MachineArgs

/-- What the emulator does on its own unless a baseline flag tells it not to. -/
inductive Baseline where
  /-- It adds default devices. -/
  | defaults
  /-- It reads the configuration files of the host's user. -/
  | userConfig
deriving DecidableEq

namespace Baseline

/-- Every baseline in the order in which the flags are written. -/
def all : List Baseline :=
  [defaults, userConfig]

/-- The flag that turns a baseline off. -/
def flag : Baseline → String
  | defaults => "-nodefaults"
  | userConfig => "-no-user-config"

end Baseline

/-- A program and its arguments. -/
structure CommandLine where
  /-- The program and then its arguments. -/
  words : List String
deriving DecidableEq

namespace CommandLine

/-- The command line of a program with its leading arguments. -/
def ofBinary : List String → Except Error CommandLine
  | [] => .error .emptyBinary
  | program :: args => if program.isEmpty then .error .emptyBinary else .ok ⟨program :: args⟩

/-- Adds arguments. -/
def append (c : CommandLine) (args : List String) : CommandLine :=
  ⟨c.words ++ args⟩

/-- Adds the flag of every baseline that is not kept. -/
def withBaseline (c : CommandLine) (isKept : Baseline → Bool) : CommandLine :=
  c.append ((Baseline.all.filter fun b ↦ !isKept b).map Baseline.flag)

/-- Adds the arguments of devices, whose handles were numbered before. -/
def withDevices {δ : Type} [Leaf δ] (c : CommandLine) (t : DeviceTree δ) :
    Except Error CommandLine := do
  let args ← t.args
  return c.append args

/-- A binary gives a command line unless its first word is empty or missing. -/
theorem ofBinary_of_ne {binary : List String} (h : binary.headD "" ≠ "") :
    ofBinary binary = .ok ⟨binary⟩ := by
  cases binary with
  | nil => exact absurd rfl h
  | cons program args => simp_all [ofBinary]

/-- A binary whose first word is empty or missing gives no command line. -/
theorem ofBinary_of_eq {binary : List String} (h : binary.headD "" = "") :
    ofBinary binary = .error .emptyBinary := by
  cases binary with
  | nil => rfl
  | cons program args => simp_all [ofBinary]

end CommandLine

end MachineArgs
