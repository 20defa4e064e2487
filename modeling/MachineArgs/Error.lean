/-!
# Errors

What can go wrong while a command is assembled or a resource is acquired. An error names its
cause; `message` is the one place that words it. `child` says which entry of a group failed, so
the errors of nested groups carry a path of positions (`devicePath`) around the innermost one
(`rootCause`).
-/

namespace MachineArgs

/-- Why a value has no rendering where it stands. -/
inductive Misfit where
  /-- A record that no directive expands. -/
  | nestedRecord (schema : String)
  /-- A kind of value without a rendering. -/
  | unsupportedKind (kind : String)
  /-- A list that no directive lays out. -/
  | plainList
  /-- A list element that is no text and no number. -/
  | listElement (shape : String)
  /-- Anything else, in words. -/
  | described (text : String)
deriving DecidableEq

/-- The wording of a misfit. -/
def Misfit.message : Misfit → String
  | nestedRecord schema => "nested record " ++ schema ++ " needs a flatten directive"
  | unsupportedKind kind => "unsupported type " ++ kind
  | plainList => "list without join or repeat directive"
  | listElement shape => "list element of shape " ++ shape
  | described text => text

/-- How a helper program ended. -/
inductive ExitStatus where
  /-- With a status code. -/
  | exited (code : Nat)
  /-- By a signal. -/
  | signaled (signal : Nat)
deriving DecidableEq

namespace ExitStatus

/-- The names of the signals from 1 on. -/
def signalNames : List String :=
  ["SIGHUP", "SIGINT", "SIGQUIT", "SIGILL", "SIGTRAP", "SIGABRT", "SIGBUS", "SIGFPE", "SIGKILL",
   "SIGUSR1", "SIGSEGV", "SIGUSR2", "SIGPIPE", "SIGALRM", "SIGTERM", "SIGSTKFLT", "SIGCHLD",
   "SIGCONT", "SIGSTOP", "SIGTSTP", "SIGTTIN", "SIGTTOU", "SIGURG", "SIGXCPU", "SIGXFSZ",
   "SIGVTALRM", "SIGPROF", "SIGWINCH", "SIGIO", "SIGPWR", "SIGSYS"]

/-- The name of a signal. -/
def signalName? (signal : Nat) : Option String :=
  if signal = 0 then none else signalNames[signal - 1]?

/-- The wording of an exit status. -/
def text : ExitStatus → String
  | exited code => "exit status: " ++ toString code
  | signaled signal =>
    "signal: " ++ toString signal ++
      match signalName? signal with
      | some name => " (" ++ name ++ ")"
      | none => ""

/-- Whether the helper did its work. -/
def isSuccess (status : ExitStatus) : Bool :=
  status == exited 0

end ExitStatus

/-- What went wrong. -/
inductive Error where
  /-- A value has no rendering at this path of a description. -/
  | unsupportedShape (path : List String) (misfit : Misfit)
  /-- A record does not have as many values as its schema has fields. -/
  | schemaMismatch (path : List String) (expected found : Nat)
  /-- A device that needs a handle has none. -/
  | noResources (device : String)
  /-- A handle was used before it had a number. -/
  | unassignedHandle (name : String)
  /-- The device at this position of a group failed. -/
  | child (position : Nat) (source : Error)
  /-- There is no program to run. -/
  | emptyBinary
  /-- A request to the outside was refused, by the operating system or by a server. -/
  | io (context cause : String)
  /-- A helper program failed. -/
  | helper (program : String) (status : ExitStatus) (stderr : String)
  /-- A helper program passed no descriptor back. -/
  | noDescriptor (program : String)
deriving DecidableEq

namespace Error

/-- The error of a download from a URL. -/
def unfetched (url cause : String) : Error :=
  io ("failed to fetch '" ++ url ++ "'") cause

/-- How a path is written. -/
def pathText (path : List String) : String :=
  ".".intercalate path

/-- The wording of an error. -/
def message : Error → String
  | unsupportedShape path misfit =>
    "unsupported shape at '" ++ pathText path ++ "': " ++ misfit.message
  | schemaMismatch path expected found =>
    "schema mismatch at '" ++ pathText path ++ "': expected " ++ toString expected ++
      " values, found " ++ toString found
  | noResources device => device ++ ": no resources"
  | unassignedHandle name => "handle '" ++ name ++ "' has no assigned index"
  | child position source => "device #" ++ toString position ++ ": " ++ source.message
  | emptyBinary => "no emulator binary configured"
  | io context cause => context ++ ": " ++ cause
  | helper program status stderr =>
    program ++ " failed (" ++ status.text ++ "): " ++ stderr
  | noDescriptor program => program ++ " did not hand over a descriptor"

/-- The error inside all positions. -/
def rootCause : Error → Error
  | child _ source => source.rootCause
  | e => e

/-- The positions around the innermost error, outermost first. -/
def devicePath : Error → List Nat
  | child position source => position :: source.devicePath
  | _ => []

/-- The messages of an error and of what caused it, outermost first. -/
def causes : Error → List String
  | child position source => (child position source).message :: source.causes
  | io context cause => [(io context cause).message, cause]
  | e => [e.message]

end Error

/-! ### Steps that may fail -/

section Steps

variable {ε α β : Type}

@[simp]
theorem ok_bind (a : α) (f : α → Except ε β) : (Except.ok a >>= f) = f a :=
  rfl

@[simp]
theorem error_bind (e : ε) (f : α → Except ε β) : (Except.error e >>= f) = .error e :=
  rfl

@[simp]
theorem pure_eq_ok (a : α) : (pure a : Except ε α) = .ok a :=
  rfl

/-- Two steps succeed exactly if the first does and the second does after it. -/
theorem bind_eq_ok {x : Except ε α} {f : α → Except ε β} {b : β} :
    x >>= f = .ok b ↔ ∃ a, x = .ok a ∧ f a = .ok b := by
  cases x <;> simp

/-- Of two steps the first fails, or the second does after it. -/
theorem bind_eq_error {x : Except ε α} {f : α → Except ε β} {e : ε} :
    x >>= f = .error e ↔ x = .error e ∨ ∃ a, x = .ok a ∧ f a = .error e := by
  cases x <;> simp

/-- A result that is changed was there before. -/
theorem map_eq_ok {x : Except ε α} {f : α → β} {b : β} :
    x.map f = .ok b ↔ ∃ a, x = .ok a ∧ f a = b := by
  cases x with
  | ok a =>
    show Except.ok (f a) = .ok b ↔ _
    simp
  | error e =>
    show Except.error e = .ok b ↔ _
    simp

/-- Telling more about an error changes no success. -/
theorem mapError_eq_ok {ε' : Type} {x : Except ε α} {f : ε → ε'} {a : α} :
    x.mapError f = .ok a ↔ x = .ok a := by
  cases x with
  | ok b =>
    show Except.ok b = .ok a ↔ Except.ok b = .ok a
    rw [Except.ok.injEq, Except.ok.injEq]
  | error e =>
    show Except.error (f e) = .ok a ↔ Except.error e = .ok a
    exact ⟨nofun, nofun⟩

/-- An error about which more is told was there before. -/
theorem mapError_eq_error {ε' : Type} {x : Except ε α} {f : ε → ε'} {e' : ε'} :
    x.mapError f = .error e' ↔ ∃ e, x = .error e ∧ f e = e' := by
  cases x with
  | ok a =>
    show Except.ok a = .error e' ↔ _
    simp
  | error e =>
    show Except.error (f e) = .error e' ↔ _
    simp

/-- What is told about an error is told of the step that fails. -/
theorem mapError_bind {ε' : Type} (x : Except ε α) (f : α → Except ε β) (g : ε → ε') :
    (x >>= f).mapError g = x.mapError g >>= fun a ↦ (f a).mapError g := by
  cases x <;> rfl

/-- Telling more about an error twice is telling all of it at once. -/
theorem mapError_mapError {ε' ε'' : Type} (x : Except ε α) (f : ε → ε') (g : ε' → ε'') :
    (x.mapError f).mapError g = x.mapError fun e ↦ g (f e) := by
  cases x <;> rfl

end Steps

end MachineArgs
