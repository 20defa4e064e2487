import MachineArgs.Device.Chardev
import MachineArgs.Device.Reference

/-!
# Trusted platform modules

An emulated TPM runs in a process of its own. The emulator talks to it over the guest end of a
socket pair, which is a character device; the backend (group `tpmdev`) refers to that, and the
interface that the guest sees (group `device`) refers to the backend.
-/

namespace MachineArgs

/-- The backend of an emulated TPM: `-tpmdev emulator,id=tpm0,chardev=tpm0-ctrl`. -/
structure TpmBackend where
  /-- The name of the backend. -/
  name : String := ""
  /-- The character device that leads to the TPM. -/
  chardev : Reference := {}

namespace TpmBackend

/-- The fields of a backend. -/
def schema : Schema :=
  ⟨"TpmEmulatorBackend",
    [.group "tpmdev",
     .field (.unnamed "driver"),
     .field (.named "name" "id"),
     .field (.plain "chardev")]⟩

instance : ToValue TpmBackend where
  toValue b := .record schema [toValue "emulator", toValue b.name, toValue b.chardev]

end TpmBackend

/-- The interfaces of a TPM. -/
inductive TpmModel where
  /-- The interface over registers in fixed places. -/
  | tis
  /-- The interface over command and response buffers. -/
  | crb
deriving DecidableEq

/-- How an interface is written. -/
def TpmModel.text : TpmModel → String
  | tis => "tpm-tis"
  | crb => "tpm-crb"

instance : ToValue TpmModel := ⟨fun model ↦ .text model.text⟩

/-- What the guest sees of a TPM: `-device tpm-tis,tpmdev=tpm0`. -/
structure TpmInterface where
  /-- The interface. -/
  model : TpmModel := .tis
  /-- The backend. -/
  backend : Reference := {}

namespace TpmInterface

/-- The fields of an interface. -/
def schema : Schema :=
  ⟨"TpmInterface",
    [.group "device", .field (.unnamed "model"), .field (.named "backend" "tpmdev")]⟩

instance : ToValue TpmInterface where
  toValue i := .record schema [toValue i.model, toValue i.backend]

end TpmInterface

/-- An emulated TPM: the channel to it and its backend. -/
structure Tpm where
  /-- The channel. -/
  conduit : SocketPair
  /-- The backend. -/
  backend : TpmBackend

namespace Tpm

/-- The TPM of a name; its channel is `<name>-ctrl`. -/
def create (name : String) : Tpm :=
  let conduit := SocketPair.create (name ++ "-ctrl")
  { conduit, backend := { name, chardev := ⟨conduit.name⟩ } }

/-- The arguments of a TPM: its channel, then its backend. -/
def args (t : Tpm) : Except Error (List String) := do
  let conduit ← t.conduit.args
  let backend ← (toValue t.backend).args none
  return conduit ++ backend

end Tpm

end MachineArgs
