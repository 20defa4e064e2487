/-!
# Invocations

An invocation says what machine to build. It is what the words behind the program's name come to,
once they are read and found to be in order.
-/

namespace MachineArgs

/-- What was said about a machine. -/
structure Invocation where
  /-- The configuration file. -/
  config : Option String := none
  /-- Guest memory in MiB. -/
  memory : Option Nat := none
  /-- The number of processors. -/
  processors : Option Nat := none
  /-- The model of the processors. -/
  model : Option String := none
  /-- Acceleration by the host's hypervisor. -/
  acceleration : Bool := false
  /-- The name of the guest. -/
  name : Option String := none
  /-- The kernel. -/
  kernel : Option String := none
  /-- The initial ramdisk. -/
  initrd : Option String := none
  /-- The kernel's command line. -/
  append : Option String := none
  /-- Disk images in order. -/
  drives : List String := []
  /-- Networking in user mode. -/
  userNetwork : Bool := false
  /-- Forwards from the host in order. -/
  forwards : List String := []
  /-- The bridge of a network tap. -/
  bridge : Option String := none
  /-- The directory of an emulated TPM. -/
  tpm : Option String := none
  /-- The emulator's default devices are kept. -/
  keepDefaults : Bool := false
  /-- The configuration files of the host's user are read. -/
  keepUserConfig : Bool := false
  /-- The emulator is started. -/
  launch : Bool := false

end MachineArgs
