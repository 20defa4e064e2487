import MachineArgs.Proofs.Device.Records

/-!
# Slots of devices

What a device says to the emulator, slot by slot (`Device.slots`), told for the kinds of devices
that a standard machine is made of. When devices are wired together, what matters of their slots is
the identities that they define, the references that they make, and the places in the boot order
that they give (`Device.Wires`).
-/

namespace MachineArgs

open Handle (pathOf)

/-- The slots of some tables by group, in order. -/
def NamedTables.slots (t : NamedTables) : List (String × Slot) :=
  t.groups.flatMap fun g ↦ g.2.visible.map fun slot ↦ (g.1, slot)

namespace Slot

/-- The identity that a slot defines. -/
def identity? : Slot → Option String
  | keyed key value => if key = "id" ∨ key = "node-name" then some value else none
  | _ => none

/-- The adapter of a bus: what stands before the first dot of its name. -/
def busAdapter (bus : String) : String :=
  String.ofList (bus.toList.takeWhile (· != '.'))

/-- The identity that a slot refers to. -/
def reference? : Slot → Option String
  | keyed key value =>
    if key = "file" ∨ key = "drive" ∨ key = "netdev" then some value
    else if key = "bus" then some (busAdapter value)
    else none
  | _ => none

/-- The place in the boot order that a slot gives. -/
def bootIndex? : Slot → Option String
  | keyed key value => if key = "bootindex" then some value else none
  | _ => none

/-- A slot that wires nothing: it defines no identity, refers to none, and gives no place in the
boot order. -/
def IsLoose (slot : Slot) : Prop :=
  slot.identity? = none ∧ slot.reference? = none ∧ slot.bootIndex? = none

theorem isLoose_bare (value : String) : (bare value).IsLoose :=
  ⟨rfl, rfl, rfl⟩

end Slot

namespace Device

/-- The slots of a device by group, in order. -/
def slots (d : Device) : List (String × Slot) :=
  match d.tables with
  | .ok ts => ts.flatMap NamedTables.slots
  | .error _ => []

/-- The identities that a device defines. -/
def identities (d : Device) : List String :=
  d.slots.filterMap fun s ↦ s.2.identity?

/-- The identities that a device refers to. -/
def references (d : Device) : List String :=
  d.slots.filterMap fun s ↦ s.2.reference?

/-- The places in the boot order that a device gives. -/
def bootIndices (d : Device) : List String :=
  d.slots.filterMap fun s ↦ s.2.bootIndex?

/-- A device that wires nothing. -/
def IsLoose (d : Device) : Prop :=
  ∀ s ∈ d.slots, s.2.IsLoose

/-- What a device defines, refers to, and gives as its place in the boot order. -/
structure Wires (d : Device) (identities references bootIndices : List String) : Prop where
  /-- The identities that the device defines. -/
  identities_eq : d.identities = identities
  /-- The identities that the device refers to. -/
  references_eq : d.references = references
  /-- The places in the boot order that the device gives. -/
  bootIndices_eq : d.bootIndices = bootIndices

variable {d : Device} {v : Value} {t : NamedTables} {group : String} {cells : List Cell}

/-- What a device wires is read off its slots. -/
theorem wires_of_slots {slots : List (String × Slot)} (h : d.slots = slots) :
    d.Wires (slots.filterMap fun s ↦ s.2.identity?) (slots.filterMap fun s ↦ s.2.reference?)
      (slots.filterMap fun s ↦ s.2.bootIndex?) := by
  subst h
  exact ⟨rfl, rfl, rfl⟩

theorem IsLoose.wires (h : d.IsLoose) : d.Wires [] [] [] where
  identities_eq := List.filterMap_eq_nil_iff.2 fun s hs ↦ (h s hs).1
  references_eq := List.filterMap_eq_nil_iff.2 fun s hs ↦ (h s hs).2.1
  bootIndices_eq := List.filterMap_eq_nil_iff.2 fun s hs ↦ (h s hs).2.2

theorem slots_of_value? (hvalue : d.value? = some v) (ht : v.tables d.group? = .ok t) :
    d.slots = t.slots := by
  rw [slots, tables_of_value? hvalue, ht]
  exact List.flatMap_singleton _ _

theorem slots_of_emissions (hvalue : d.value? = some v) {es : List Emission}
    (h : v.emissions = .ok es) : d.slots = ((NamedTables.initial d.group?).run es).slots := by
  refine slots_of_value? hvalue ?_
  rw [Value.tables, h, ok_bind, pure_eq_ok]

/-- The slots of one table that is written cell by cell, with different keys. -/
theorem slots_ofCells (hkeys : (cells.filterMap Cell.key?).Nodup) (current : Option String) :
    NamedTables.slots ⟨[(group, .ofCells cells)], current⟩ =
      (cells.filterMap Cell.slot?).map fun slot ↦ (group, slot) := by
  rw [NamedTables.slots, List.flatMap_singleton, OptionTable.visible_ofCells hkeys]

/-- The slots of a device whose record has one group are those of its cells. -/
theorem slots_of_leads (hvalue : d.value? = some v) (hgroup : d.group? = none)
    (h : Leads group v) (hkeys : (v.cells.filterMap Cell.key?).Nodup) :
    d.slots = (v.cells.filterMap Cell.slot?).map fun slot ↦ (group, slot) := by
  rw [slots_of_value? hvalue (hgroup ▸ h.tables_eq), slots_ofCells hkeys]

end Device

/-! ### Cells -/

theorem Field.cell_reference {f : Field} (hskip : f.skipped = false) {r : Reference}
    (h : r.name ≠ "") : f.cell (toValue r) = ⟨f.key?, some r.name⟩ := by
  have hzero : (toValue r : Value).isZero = false := by
    show r.name.isEmpty = false
    simpa using h
  rw [cell, hzero, hskip]
  rfl

/-! ### Machine-wide options -/

/-- A number is written unless it is zero. -/
theorem Field.cell_natural {f : Field} (hskip : f.skipped = false) (n : Nat) :
    f.cell (toValue n) = ⟨f.key?, if n = 0 then none else some (toString n)⟩ := by
  rw [cell, hskip]
  show Cell.mk f.key? (if (n == 0) = true then none else some (toString n)) = _
  simp

/-- A field with a plain value is written as its cell. -/
theorem encodeField_toValue {α : Type} [ToValue α] [PlainValue α] (f : Field) (a : α)
    (path : List String) :
    encodeField path f (toValue a : Value).isZero (toValue a : Value).encoder =
      .ok (f.cell (toValue a)).emission?.toList :=
  encodeField_of_isPlain (by rw [PlainValue.isPlain, Bool.or_true]) path

theorem Memory.slots_eq (size : Nat) :
    (Device.memory { size }).slots =
      if size = 0 then [] else [("m", .keyed "size" (toString size))] := by
  have hemissions : (toValue ({ size } : Memory) : Value).emissions =
      .ok (.select "m" :: cellEmissions
        [⟨some "size", if size = 0 then none else some (toString size)⟩]) := by
    show encodeEntries ["Ram"] schema.entries
      (Value.encoders [toValue size, toValue 0, toValue 0]) = _
    rw [schema, Value.encoders, encodeEntries, encodeField_toValue, Field.cell_natural rfl,
      cellEmissions_singleton]
    show Except.ok ([.select "m"] ++ (Cell.emission? _).toList ++ []) = _
    rw [List.append_nil]
    rfl
  rw [Device.slots_of_emissions rfl hemissions]
  by_cases hsize : size = 0
  · rw [if_pos hsize, if_pos hsize]
    rfl
  · rw [if_neg hsize, if_neg hsize]
    rfl

/-- The slots of the identity of a guest have no keys. -/
theorem Identity.slots_eq (i : Identity) :
    (Device.identity i).slots =
      ((Field.unnamed "name").cell (toValue i.name)).text?.toList.map (fun s ↦ ("name", .bare s)) ++
        ((Field.unnamed "uuid").cell (toValue i.uuid)).text?.toList.map
          fun s ↦ ("uuid", .bare s) := by
  have hemissions : (toValue i : Value).emissions = .ok
      ([.select "name"] ++ ((Field.unnamed "name").cell (toValue i.name)).emission?.toList ++
        ([.select "uuid"] ++ ((Field.unnamed "uuid").cell (toValue i.uuid)).emission?.toList ++
          [])) := by
    show encodeEntries ["Identifiers"] schema.entries
      (Value.encoders [toValue i.name, toValue i.uuid]) = _
    rw [schema, Value.encoders, Value.encoders, encodeEntries, encodeField_toValue, encodeEntries,
      encodeField_toValue]
    rfl
  rw [Device.slots_of_emissions rfl hemissions, Cell.emission?, Cell.emission?]
  generalize ((Field.unnamed "name").cell (toValue i.name)).text? = name?
  generalize ((Field.unnamed "uuid").cell (toValue i.uuid)).text? = uuid?
  cases name? <;> cases uuid? <;> rfl

theorem Processors.slots_eq (cpus : Nat) :
    (Device.processors { cpus := some cpus }).slots = [("smp", .keyed "cpus" (toString cpus))] := by
  have hcells : (toValue ({ cpus := some cpus } : Processors) : Value).cells =
      ⟨some "cpus", some (toString cpus)⟩ ::
        ["maxcpus", "sockets", "dies", "clusters", "cores", "threads"].map
          fun key ↦ ⟨some key, none⟩ := by
    show cellsOf schema.fields _ = _
    simp only [schema, Schema.fields, List.filterMap, Entry.field?, cellsOf_cons,
      PlainValue.isPlain]
    rfl
  rw [Device.slots_of_leads rfl rfl (Processors.leads _), hcells]
  · rfl
  · rw [hcells]
    show List.Nodup ["cpus", "maxcpus", "sockets", "dies", "clusters", "cores", "threads"]
    decide

/-! ### Kernels -/

/-- The slots of a kernel: the paths of its handles and the words of its command line. -/
theorem LinuxKernel.slots_eq {k : LinuxKernel} (h : ∀ handle ∈ k.handles, handle.path?.isSome) :
    (Device.kernel k).slots =
      (k.kernel.bind Handle.path?).toList.map (fun s ↦ ("kernel", .bare s)) ++
        ((k.initrd.bind Handle.path?).toList.map (fun s ↦ ("initrd", .bare s)) ++
          k.appendText?.toList.map fun s ↦ ("append", .bare s)) := by
  rw [Device.slots_of_emissions rfl (emissions_eq h)]
  cases k.kernel.bind Handle.path? <;> cases k.initrd.bind Handle.path? <;>
    cases k.appendText? <;> rfl

/-! ### Block nodes -/

/-- The cells of the first slots of a node that has a name and no further options. -/
theorem NodeOptions.slots_named {driver name : String} (hdriver : driver ≠ "") (hname : name ≠ "") :
    (NodeOptions.valueFor driver { name }).cells.filterMap Cell.slot? =
      [.keyed "driver" driver, .keyed "node-name" name] := by
  show (cellsOf schema.fields _).filterMap Cell.slot? = _
  simp only [schema, Schema.fields, List.filterMap, Entry.field?, cellsOf_cons, PlainValue.isPlain]
  rw [Field.cell_string rfl hdriver, Field.cell_string rfl hname]
  rfl

section Blocks

variable {name below s : String}

/-- The slots of a node for an inherited file. -/
theorem FileNode.slots_eq {file : Handle} (hname : name ≠ "") (hpath : file.path? = some s) :
    (Device.fileNode { options := { name }, file }).slots =
      [("blockdev", .keyed "driver" "file"), ("blockdev", .keyed "node-name" name),
       ("blockdev", .keyed "filename" s)] := by
  have hleads := FileNode.leads (n := { options := { name }, file }) (by rw [hpath]; rfl)
  rw [Device.slots_of_leads rfl rfl hleads (FileNode.nodup_keys hpath), FileNode.cells_eq hpath,
    List.filterMap_append, NodeOptions.slots_named (by decide) hname]
  rfl

/-- The slots of a raw node over another node. -/
theorem RawNode.slots_eq (hname : name ≠ "") (hbelow : below ≠ "") :
    (Device.rawNode { options := { name }, file := ⟨below⟩ }).slots =
      [("blockdev", .keyed "driver" "raw"), ("blockdev", .keyed "node-name" name),
       ("blockdev", .keyed "file" below)] := by
  have hcells : (toValue ({ options := { name }, file := ⟨below⟩ } : RawNode) : Value).cells =
      (NodeOptions.valueFor "raw" { name }).cells ++
        [⟨some "file", some below⟩, ⟨some "offset", none⟩, ⟨some "size", none⟩] := by
    refine (cells_embedded rfl).trans ?_
    simp only [List.filterMap, Entry.field?, cellsOf_cons, PlainValue.isPlain]
    rw [Field.cell_reference rfl hbelow]
    rfl
  rw [Device.slots_of_leads rfl rfl (RawNode.leads _), hcells, List.filterMap_append,
    NodeOptions.slots_named (by decide) hname]
  · rfl
  · rw [hcells, List.filterMap_append, NodeOptions.keys_valueFor]
    show (_ ++ ["file", "offset", "size"]).Nodup
    decide

/-- The keys of a qcow2 node behind the node below. -/
def Qcow2Node.furtherKeys : List String :=
  ["backing", "lazy-refcounts", "cache-size", "l2-cache-size", "l2-cache-entry-size",
   "refcount-cache-size", "cache-clean-interval", "pass-discard-request",
   "pass-discard-snapshot", "pass-discard-other", "overlap-check"]

/-- The slots of a qcow2 node over another node. -/
theorem Qcow2Node.slots_eq (hname : name ≠ "") (hbelow : below ≠ "") :
    (Device.qcow2Node { options := { name }, file := ⟨below⟩ }).slots =
      [("blockdev", .keyed "driver" "qcow2"), ("blockdev", .keyed "node-name" name),
       ("blockdev", .keyed "file" below)] := by
  have hcells : (toValue ({ options := { name }, file := ⟨below⟩ } : Qcow2Node) : Value).cells =
      (NodeOptions.valueFor "qcow2" { name }).cells ++ ⟨some "file", some below⟩ ::
        furtherKeys.map fun key ↦ ⟨some key, none⟩ := by
    refine (cells_embedded rfl).trans ?_
    simp only [List.filterMap, Entry.field?, cellsOf_cons, PlainValue.isPlain]
    rw [Field.cell_reference rfl hbelow]
    rfl
  rw [Device.slots_of_leads rfl rfl (Qcow2Node.leads _), hcells, List.filterMap_append,
    NodeOptions.slots_named (by decide) hname]
  · rfl
  · rw [hcells, List.filterMap_append, NodeOptions.keys_valueFor]
    show (_ ++ "file" :: furtherKeys).Nodup
    decide

end Blocks

/-! ### Storage devices -/

/-- The slots of a SCSI disk on a bus. -/
theorem StorageDevice.slots_eq {name drive bus : String} (target : Nat) (place? : Option Nat)
    (hname : name ≠ "") (hdrive : drive ≠ "") (hbus : bus ≠ "") :
    (Device.storage ⟨.scsiDisk { target := some target }, name, ⟨drive⟩, bus, ⟨place?⟩⟩).slots =
      [("device", .bare "scsi-hd"), ("device", .keyed "id" name), ("device", .keyed "drive" drive),
       ("device", .keyed "bus" bus)] ++
      place?.toList.map (fun place ↦ ("device", .keyed "bootindex" (toString place))) ++
      [("device", .keyed "scsi-id" (toString target))] := by
  have hcells : (toValue (StorageDevice.mk (.scsiDisk { target := some target }) name ⟨drive⟩ bus
        ⟨place?⟩) : Value).cells =
      [⟨none, some "scsi-hd"⟩, ⟨some "id", some name⟩, ⟨some "drive", some drive⟩,
        ⟨some "bus", some bus⟩] ++
      place?.toList.map (fun place ↦ ⟨some "bootindex", some (toString place)⟩) ++
      [⟨some "channel", none⟩, ⟨some "scsi-id", some (toString target)⟩, ⟨some "lun", none⟩] := by
    show cellsOf schema.fields _ = _
    simp only [schema, Schema.fields, List.filterMap, Entry.field?, cellsOf_cons,
      PlainValue.isPlain]
    rw [Field.cell_string (s := name) rfl hname, Field.cell_string (s := bus) rfl hbus,
      Field.cell_reference rfl hdrive]
    cases place? <;> rfl
  rw [Device.slots_of_leads rfl rfl (StorageDevice.leads _), hcells]
  · cases place? <;> rfl
  · rw [hcells]
    cases place? with
    | none =>
      show List.Nodup ["id", "drive", "bus", "channel", "scsi-id", "lun"]
      decide
    | some place =>
      show List.Nodup ["id", "drive", "bus", "bootindex", "channel", "scsi-id", "lun"]
      decide

/-- The slots of a SCSI adapter. -/
theorem ScsiAdapter.slots_eq {name : String} (hname : name ≠ "") :
    (Device.scsiAdapter ⟨name⟩).slots =
      [("device", .bare "virtio-scsi-pci"), ("device", .keyed "id" name)] := by
  have hcells : (toValue (⟨name⟩ : ScsiAdapter) : Value).cells =
      [⟨none, some "virtio-scsi-pci"⟩, ⟨some "id", some name⟩] := by
    show cellsOf schema.fields _ = _
    simp only [schema, Schema.fields, List.filterMap, Entry.field?, cellsOf_cons,
      PlainValue.isPlain]
    rw [Field.cell_string (s := name) rfl hname]
    rfl
  rw [Device.slots_of_leads rfl rfl (ScsiAdapter.leads _), hcells]
  · rfl
  · rw [hcells]
    show List.Nodup ["id"]
    decide

/-! ### Networking -/

theorem NamedTables.run_adds (group key : String) (t : OptionTable) (values : List String) :
    run ⟨[(group, t)], some group⟩ (values.map (Emission.add key)) =
      ⟨[(group, t.edits (values.map (OptionTable.Edit.addKeyed key)))], some group⟩ := by
  induction values generalizing t with
  | nil => rfl
  | cons value values ih =>
    have hstep : perform ⟨[(group, t)], some group⟩ (.add key value) =
        ⟨[(group, t.addKeyed key value)], some group⟩ := by
      simp [perform, onTarget, modify, Emission.onTable]
    rw [List.map_cons, run_cons, hstep, ih]
    rfl

namespace UserNetwork

variable {name : String}

theorem emissions_eq (name : String) (forwards : List String) :
    (toValue ({ name, hostForwards := forwards } : UserNetwork) : Value).emissions = .ok
      (.select "netdev" :: cellEmissions (toValue (NetworkPeer.mk "user" name) : Value).cells ++
        forwards.map (Emission.add "hostfwd")) := by
  have hpeer : encodeField ["UserNetwork"] (.embedded "peer") false
      (toValue (NetworkPeer.mk "user" name) : Value).encoder =
        .ok (.select "netdev" ::
          cellEmissions (toValue (NetworkPeer.mk "user" name) : Value).cells) := by
    rw [encodeField]
    exact (NetworkPeer.leads ⟨"user", name⟩).encoder_eq _ rfl
  have hforwards := encodeField_strings
    (f := { Field.plain "host_fwd" with repeated := true }) rfl rfl rfl forwards
    ["UserNetwork"]
  show encodeEntries ["UserNetwork"] schema.entries (Value.encoders
    [toValue (NetworkPeer.mk "user" name), .absent, .absent, toValue forwards, .list []]) = _
  rw [schema, Value.encoders, Value.encoders, Value.encoders, Value.encoders, encodeEntries,
    show (toValue (NetworkPeer.mk "user" name) : Value).isZero = false from rfl, hpeer, ok_bind,
    encodeEntries, encodeEntries, encodeEntries, hforwards, ok_bind]
  show Except.ok (.select "netdev" :: cellEmissions _ ++
    (forwards.map (Emission.add "hostfwd") ++ [])) = _
  rw [List.append_nil]

/-- The slots of networking in user mode: the forwards take one each. -/
theorem slots_eq (hname : name ≠ "") (forwards : List String) :
    (Device.userNetwork { name, hostForwards := forwards }).slots =
      [("netdev", .bare "user"), ("netdev", .keyed "id" name)] ++
        forwards.map fun s ↦ ("netdev", .keyed "hostfwd" s) := by
  have hcells : (toValue (NetworkPeer.mk "user" name) : Value).cells =
      [⟨none, some "user"⟩, ⟨some "id", some name⟩] := by
    show cellsOf NetworkPeer.schema.fields _ = _
    simp only [NetworkPeer.schema, Schema.fields, List.filterMap, Entry.field?, cellsOf_cons,
      PlainValue.isPlain]
    rw [Field.cell_string (s := name) rfl hname]
    rfl
  have hkeys : ((toValue (NetworkPeer.mk "user" name) : Value).cells.filterMap
      Cell.key?).Nodup := by
    rw [NetworkPeer.keys]
    decide
  have htables : (toValue ({ name, hostForwards := forwards } : UserNetwork) : Value).tables none =
      .ok ⟨[("netdev",
        (OptionTable.ofCells (toValue (NetworkPeer.mk "user" name) : Value).cells).edits
          (forwards.map (OptionTable.Edit.addKeyed "hostfwd")))], some "netdev"⟩ := by
    rw [Value.tables, emissions_eq, ok_bind, pure_eq_ok, NamedTables.run_append,
      ← NamedTables.run_adds]
    exact congrArg (fun t ↦ Except.ok (NamedTables.run t _))
      (NamedTables.run_cellEmissions "netdev" .empty _)
  rw [Device.slots_of_value? rfl htables, NamedTables.slots, List.flatMap_singleton,
    OptionTable.visible_addAll hkeys, hcells, List.map_append, List.map_map]
  rfl

end UserNetwork

namespace NetworkCard

/-- The cells of a network card. -/
def cells (c : NetworkCard) : List Cell :=
  cellsOf schema.fields
    [toValue c.model, toValue c.boot, toValue c.effectiveAddress, toValue c.peer]

theorem tables_eq (c : NetworkCard) :
    (toValue c : Value).tables (some group) = .ok ⟨[(group, .ofCells c.cells)], some group⟩ := by
  have hsheets : areSheets schema.fields
      [toValue c.model, toValue c.boot, toValue c.effectiveAddress, toValue c.peer] = true := by
    simp only [schema, Schema.fields, List.filterMap, Entry.field?]
    rw [areSheets_cons (PlainValue.isPlain _ _), areSheets_cons_embedded (c.boot.isSheetIn _)]
    simp only [areSheets_cons, PlainValue.isPlain]
    rfl
  have hemissions : (toValue c : Value).emissions = .ok (cellEmissions c.cells) :=
    (Value.emissions_record (length_of_areSheets hsheets)).trans
      (encodeEntries_of_areSheets (fun _ _ _ h path ↦ encodeField_of_isSheetIn h path) rfl
        hsheets _)
  rw [Value.tables, hemissions, ok_bind, pure_eq_ok]
  exact congrArg Except.ok (NamedTables.run_cellEmissions group .empty c.cells)

/-- The slots of a network card without a place in the boot order. -/
theorem slots_eq {model peer : String} (hmodel : model ≠ "") (hpeer : peer ≠ "") :
    (Device.networkCard { model, peer := ⟨peer⟩ }).slots =
      [("device", .bare model), ("device", .keyed "mac" "0e:00:00:00:00:01"),
       ("device", .keyed "netdev" peer)] := by
  have hcells : ({ model, peer := ⟨peer⟩ } : NetworkCard).cells =
      [⟨none, some model⟩, ⟨some "mac", some "0e:00:00:00:00:01"⟩, ⟨some "netdev", some peer⟩] := by
    rw [cells]
    simp only [schema, Schema.fields, List.filterMap, Entry.field?, cellsOf_cons,
      PlainValue.isPlain]
    rw [Field.cell_string (s := model) rfl hmodel]
    show _ :: cellsOf [Field.plain "mac", Field.named "peer" "netdev"]
      [toValue (HardwareAddress.forIndex 0), toValue (Reference.mk peer)] = _
    simp only [cellsOf_cons, PlainValue.isPlain]
    rw [Field.cell_reference rfl hpeer]
    rfl
  rw [Device.slots_of_value? rfl (tables_eq _), hcells, Device.slots_ofCells]
  · rfl
  · show List.Nodup ["mac", "netdev"]
    decide

end NetworkCard

end MachineArgs
