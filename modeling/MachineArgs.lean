import MachineArgs.Duration
import MachineArgs.Main
import MachineArgs.Proofs.Address.Hardware
import MachineArgs.Proofs.Address.Internet
import MachineArgs.Proofs.Address.Network
import MachineArgs.Proofs.Device.Causes
import MachineArgs.Proofs.Device.Failure
import MachineArgs.Proofs.Device.Flags
import MachineArgs.Proofs.Device.Generic
import MachineArgs.Proofs.Device.Guest
import MachineArgs.Proofs.Device.Identity
import MachineArgs.Proofs.Device.NetworkCard
import MachineArgs.Proofs.Device.Numbers
import MachineArgs.Proofs.Device.Records
import MachineArgs.Proofs.Device.Recovery
import MachineArgs.Proofs.Device.Slots
import MachineArgs.Proofs.Device.Tables
import MachineArgs.Proofs.DeviceTree.Addresses
import MachineArgs.Proofs.DeviceTree.Failure
import MachineArgs.Proofs.DeviceTree.Handles
import MachineArgs.Proofs.DeviceTree.Leaves
import MachineArgs.Proofs.Duration.Units
import MachineArgs.Proofs.Encoding.DefaultGroup
import MachineArgs.Proofs.Encoding.Embedding
import MachineArgs.Proofs.Encoding.Insertion
import MachineArgs.Proofs.Encoding.Keys
import MachineArgs.Proofs.Encoding.Lists
import MachineArgs.Proofs.Encoding.Nodes
import MachineArgs.Proofs.Encoding.Plain
import MachineArgs.Proofs.Encoding.Recovery
import MachineArgs.Proofs.Encoding.Sections
import MachineArgs.Proofs.Encoding.Settled
import MachineArgs.Proofs.Encoding.Walk
import MachineArgs.Proofs.Encoding.Wrappers
import MachineArgs.Proofs.Encoding.Writing
import MachineArgs.Proofs.Invocation.Devices
import MachineArgs.Proofs.Invocation.Sizes
import MachineArgs.Proofs.Invocation.Wiring
import MachineArgs.Proofs.Machine.Failure
import MachineArgs.Proofs.Machine.Grouping
import MachineArgs.Proofs.Machine.History
import MachineArgs.Proofs.Machine.Numbering
import MachineArgs.Proofs.NamedTables.Target
import MachineArgs.Proofs.OptionTable.Cell
import MachineArgs.Proofs.OptionTable.FirstSlot
import MachineArgs.Proofs.OptionTable.LastValue
import MachineArgs.Proofs.OptionTable.Overwriting
import MachineArgs.Proofs.OptionTable.Reading
import MachineArgs.Proofs.OptionTable.Settled
import MachineArgs.Proofs.OptionTable.Sparse
import MachineArgs.Proofs.Property.Leaves
import MachineArgs.Proofs.Property.Rendering
import MachineArgs.Proofs.Settings.Program
import MachineArgs.Proofs.Text.Bytes
import MachineArgs.Proofs.Text.Kebab
import MachineArgs.Proofs.Text.Numeral
import MachineArgs.Proofs.Text.Spelling
