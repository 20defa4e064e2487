import MachineArgs.Value

/-!
# References between devices

A device with a name can be referred to by others; the reference is written as the name.
-/

namespace MachineArgs

/-- The name of another device. -/
structure Reference where
  /-- The name under which the device is defined. -/
  name : String := ""
deriving DecidableEq

instance : ToValue Reference := ⟨fun r ↦ .reference r.name⟩

end MachineArgs
