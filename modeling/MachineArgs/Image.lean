import MachineArgs.Encoding

/-!
# Disk images

The arguments that create a disk image: `create -f <format> <options> <path> <size>`. A format has
a name and its own arguments, which may fail; those of qcow2 are an option group.
-/

namespace MachineArgs

/-- How the space of an image is reserved. -/
inductive Preallocation where
  /-- It is not. -/
  | off
  /-- Metadata only. -/
  | metadata
  /-- All space, without writing to it. -/
  | falloc
  /-- All space, by writing to it. -/
  | full
deriving DecidableEq

/-- How a mode is written. -/
def Preallocation.text : Preallocation → String
  | off => "off"
  | metadata => "metadata"
  | falloc => "falloc"
  | full => "full"

instance : ToValue Preallocation := ⟨fun mode ↦ .text mode.text⟩

/-- Options of a new qcow2 image: `-o compat=1.1,cluster_size=65536`. -/
structure Qcow2Options where
  /-- The version of the format. -/
  compat : String := ""
  /-- The size of a cluster in bytes. -/
  clusterSize : Nat := 0
  /-- How space is reserved. -/
  preallocation : Option Preallocation := none
  /-- Reference counts are written late. -/
  lazyRefcounts : Option Bool := none
  /-- The host's file system does not copy on write. -/
  nocow : Option Bool := none

namespace Qcow2Options

/-- The fields of the options. -/
def schema : Schema :=
  ⟨"Qcow2Options",
    [.group "o",
     .field (.plain "compat"),
     .field (.verbatim "cluster_size"),
     .field (.plain "preallocation"),
     .field (.verbatim "lazy_refcounts"),
     .field (.plain "nocow")]⟩

instance : ToValue Qcow2Options where
  toValue o := .record schema
    [toValue o.compat, toValue o.clusterSize, toValue o.preallocation, toValue o.lazyRefcounts,
     toValue o.nocow]

end Qcow2Options

/-- A format of images. -/
structure ImageFormat where
  /-- The name of the format. -/
  name : String
  /-- The arguments of its own, or why there are none. -/
  args : Except Error (List String)

/-- The qcow2 format with options. -/
def Qcow2Options.format (o : Qcow2Options) : ImageFormat where
  name := "qcow2"
  args := (toValue o).args none

/-- The arguments that create an image of `size` bytes. -/
def ImageFormat.createArgs (f : ImageFormat) (path : String) (size : Nat) :
    Except Error (List String) := do
  let own ← f.args
  return ["create", "-f", f.name] ++ own ++ [path, toString size]

end MachineArgs
