import MachineArgs.Error
import MachineArgs.Text.Numeral
import MachineArgs.Value

/-!
# Handles

A handle is an open resource that the emulator inherits, together with the number that it will
have there. The number is missing until handles are allocated; from then on the handle is written
as the path `/dev/fd/<number>`.

Numbers that are asked for are machine words. Whoever computes one does so on words, where a sum
that is too great wraps around (`Handle.word`).
-/

namespace MachineArgs

/-- What a file is opened for. -/
inductive FileAccess where
  /-- Reading. -/
  | read
  /-- Reading and writing. -/
  | readWrite
deriving DecidableEq

/-- What an inherited descriptor refers to. -/
inductive Resource where
  /-- An open file. -/
  | file (path : String)
  /-- An anonymous file in memory. -/
  | memory (name : String)
  /-- The guest end of a connected pair of sockets. -/
  | socket (name : String)
  /-- A network tap on a bridge. -/
  | tap (bridge : String)
  /-- A descriptor that nothing more is known about. -/
  | descriptor
deriving DecidableEq

/-- The name of a kind of resource. -/
def Resource.kindName : Resource → String
  | file _ => "file"
  | memory _ => "memory"
  | socket _ => "socket"
  | tap _ => "tap"
  | descriptor => "fd"

/-- A named resource and its number in the emulator. -/
structure Handle where
  /-- The name that messages show. -/
  name : String
  /-- The open resource. -/
  resource : Resource
  /-- The number in the emulator, once it is known. -/
  index : Option Nat := none
deriving DecidableEq

namespace Handle

/-- The number of the first inherited descriptor, after the three standard streams. -/
def firstIndex : Nat :=
  3

/-- The machine word that a computed number comes to. -/
def word (n : Nat) : Nat :=
  n % Text.capacity 64

theorem word_of_lt {n : Nat} (h : n < Text.capacity 64) : word n = n :=
  Nat.mod_eq_of_lt h

/-- The handle with a number. -/
def withIndex (h : Handle) (index : Nat) : Handle :=
  { h with index := some index }

/-- The path of the descriptor with a number. -/
def pathOf (index : Nat) : String :=
  "/dev/fd/" ++ toString index

/-- The path by which the emulator opens the handle. -/
def path? (h : Handle) : Option String :=
  h.index.map pathOf

/-- The number, or the error that it is missing. -/
def requireIndex (h : Handle) : Except Error Nat :=
  match h.index with
  | some index => .ok index
  | none => .error (.unassignedHandle h.name)

instance : ToValue Handle := ⟨fun h ↦ .path h.name h.path?⟩

/-! ### Acquiring handles -/

/-- The handle of a resource without a name, named for its kind. -/
def ofResource (resource : Resource) : Handle :=
  { name := resource.kindName, resource }

/-- The handle of an open file, under a name. -/
def ofFile (name path : String) : Handle :=
  { name, resource := .file path }

/-- The longest name of a file in memory, in bytes. -/
def maxMemoryName : Nat :=
  249

/-- The handle of a file in memory; NUL characters do not count as part of its name. -/
def inMemory (name : String) : Except Error Handle :=
  let kept := String.ofList (name.toList.filter (· != '\x00'))
  if maxMemoryName < kept.utf8ByteSize then
    .error (.io ("memfd_create(" ++ name ++ ")") "Invalid argument (os error 22)")
  else
    .ok { name, resource := .memory name }

/-- The handle of the guest end of a socket pair. -/
def guestEnd (pair : String) : Handle :=
  { name := pair ++ ":guest", resource := .socket pair }

end Handle

end MachineArgs
