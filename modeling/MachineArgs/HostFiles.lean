import MachineArgs.Handle

/-!
# Files of a host

Which files and directories there are, and what comes of opening and reading them. A path is
resolved part by part from the root or from the working directory. The parts `.` and `..` mean the
directory itself and the one above it, and an empty part means the directory itself, so a blank
end after a slash asks for a directory.
-/

namespace MachineArgs

/-- Where a file or directory is: the parts of its path, behind `/` if it starts at the root. -/
abbrev Location : Type :=
  List String

/-- The directories of a host, and its files with their contents. -/
structure HostFiles where
  /-- The directories. -/
  directories : List Location := []
  /-- The files. -/
  files : List (Location × ByteArray) := []

/-- Why a path leads nowhere. -/
inductive PathFault where
  /-- There is nothing of that name. -/
  | missing
  /-- Something on the way is no directory. -/
  | notDirectory
  /-- A directory stands where a file is wanted. -/
  | isDirectory
  /-- A name is too long. -/
  | nameTooLong
  /-- A name holds a NUL character. -/
  | nulCharacter
  /-- The contents are no text. -/
  | notText
deriving DecidableEq

/-- The wording of a fault. -/
def PathFault.message : PathFault → String
  | missing => "No such file or directory (os error 2)"
  | notDirectory => "Not a directory (os error 20)"
  | isDirectory => "Is a directory (os error 21)"
  | nameTooLong => "File name too long (os error 36)"
  | nulCharacter => "file name contained an unexpected NUL byte"
  | notText => "stream did not contain valid UTF-8"

namespace HostFiles

/-- The longest name in bytes. -/
def maxName : Nat :=
  255

/-- The longest path in bytes. -/
def maxPath : Nat :=
  4095

/-- The location of the root. -/
def root : Location :=
  ["/"]

/-- Whether a location is a directory. The root and the working directory always are. -/
def isDirectory (h : HostFiles) (l : Location) : Bool :=
  l.isEmpty || l == root || h.directories.contains l

/-- Whether there is something at a location. -/
def holds (h : HostFiles) (l : Location) : Bool :=
  h.isDirectory l || (h.files.lookup l).isSome

/-- The directory above a location. -/
def above (l : Location) : Location :=
  if l == root then root else l.dropLast

/-- Where one more part of a path leads. -/
def step (h : HostFiles) (l : Location) (name : String) : Except PathFault Location :=
  if !h.isDirectory l then .error .notDirectory
  else if name == "" || name == "." then .ok l
  else if name == ".." then .ok (above l)
  else if maxName < name.utf8ByteSize then .error .nameTooLong
  else if h.holds (l ++ [name]) then .ok (l ++ [name])
  else .error .missing

/-- Where a path leads. -/
def resolve (h : HostFiles) (path : String) : Except PathFault Location :=
  let cs := path.toList
  if cs.contains '\x00' then .error .nulCharacter
  else if maxPath < path.utf8ByteSize then .error .nameTooLong
  else if cs.isEmpty then .error .missing
  else
    let start := if cs.head? = some '/' then root else []
    ((cs.splitOn '/').map String.ofList).foldlM h.step start

/-- Opens a file. A directory can be opened for reading. -/
def openFile (h : HostFiles) (access : FileAccess) (path : String) : Except PathFault Unit := do
  let l ← h.resolve path
  if access = .readWrite && h.isDirectory l then .error .isDirectory else return ()

/-- Reads a file as text. -/
def readText (h : HostFiles) (path : String) : Except PathFault String := do
  let l ← h.resolve path
  match h.files.lookup l with
  | none => .error .isDirectory
  | some contents =>
    match String.fromUTF8? contents with
    | some text => return text
    | none => .error .notText

/-- Whether a path leads somewhere. -/
def hasPath (h : HostFiles) (path : String) : Bool :=
  (h.resolve path).isOk

end HostFiles

end MachineArgs
