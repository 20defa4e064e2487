import MachineArgs.Handle

/-!
# Direct kernel boot

A kernel and an initial ramdisk from inherited handles, and the kernel's command line, each in an
option group of its own: `-kernel /dev/fd/3 -initrd /dev/fd/4 -append "console=ttyS0 quiet"`.
-/

namespace MachineArgs

/-- A kernel to boot without firmware. -/
structure LinuxKernel where
  /-- The kernel image. -/
  kernel : Option Handle := none
  /-- The initial ramdisk. -/
  initrd : Option Handle := none
  /-- The words of the kernel's command line. -/
  cmdline : List String := []

namespace LinuxKernel

/-- The fields of a kernel to boot. -/
def schema : Schema :=
  ⟨"LinuxKernel",
    [.field { Field.unnamed "kernel" with group := some "kernel" },
     .field { Field.unnamed "initrd" with group := some "initrd" },
     .field { Field.unnamed "cmdline" with group := some "append", separator := some " " }]⟩

instance : ToValue LinuxKernel where
  toValue k := .record schema [toValue k.kernel, toValue k.initrd, toValue k.cmdline]

/-- The handles in order: the kernel, then the ramdisk. -/
def handles (k : LinuxKernel) : List Handle :=
  k.kernel.toList ++ k.initrd.toList

/-- Applies a function to each handle and its position among the handles. -/
def mapHandles (f : Nat → Handle → Handle) (k : LinuxKernel) : LinuxKernel :=
  { k with
    kernel := k.kernel.map (f 0)
    initrd := k.initrd.map (f k.kernel.toList.length) }

end LinuxKernel

end MachineArgs
