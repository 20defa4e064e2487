import MachineArgs.Proofs.Device.Numbers
import MachineArgs.Proofs.Encoding.Sections
import MachineArgs.Proofs.Property.Rendering

/-!
# Records of devices

How the record of each kind of device is encoded: without fail, and in sections for the groups that
the kind declares (`Device.isSectioned_of_value?`). Records with handles need them numbered, and
records with free-form properties are refused for these and for nothing else
(`Device.refusesIff_of_value?`).

The records that share their first slots embed them as a record of their own, and it is that record
which selects the group. It is never zero, because the kind of backend stands in it. The exception
is a block node of any driver, whose driver may be empty (`GenericNode.IsBare`).
-/

namespace MachineArgs

instance : PlainValue InternetAddress := ⟨fun _ _ ↦ rfl⟩
instance : PlainValue Network := ⟨fun _ _ ↦ rfl⟩
instance : PlainValue HardwareAddress := ⟨fun _ _ ↦ rfl⟩
instance : PlainValue TpmModel := ⟨fun _ _ ↦ rfl⟩

instance : PlainValue Uuid where
  isPlain d u := by
    show (Value.zeroIf u.isNil (.text u.text)).isPlain d = true
    rw [Value.zeroIf]
    split <;> rfl

/-! ### Lists of strings -/

theorem elementTexts_strings (path : List String) (l : List String) :
    elementTexts path (l.map Value.string) = .ok l := by
  rw [elementTexts_map Value.string id path (fun _ ↦ rfl), List.map_id]

theorem isPlain_strings {d : Directives} (hsep : d.separator.isSome) (l : List String) :
    (toValue l : Value).isPlain d = true := by
  show (Value.list (l.map Value.string)).isPlain d = true
  rw [Value.isPlain, hsep, elementTexts_strings]
  rfl

/-- A field for a list of strings that takes one slot per element writes them in order. -/
theorem encodeField_strings {f : Field} (hskip : f.skipped = false) (hsep : f.separator = none)
    (hrepeated : f.repeated = true) (l : List String) (path : List String) :
    encodeField path f (toValue l : Value).isZero (toValue l : Value).encoder =
      .ok (l.map (Emission.writeNext f.key?)) := by
  cases l with
  | nil =>
    rw [encodeField, hskip]
    rfl
  | cons s l =>
    show (if f.skipped || false then _
      else encodeList ((s :: l).map Value.string) _ f.directives) = _
    rw [hskip, if_neg (by simp), encodeList, elementTexts_strings, ok_bind]
    simp only [Field.directives, hsep, hrepeated, if_true]
    rfl

theorem writes_strings {f : Field} (hskip : f.skipped = false) (hsep : f.separator = none)
    (hrepeated : f.repeated = true) (l : List String) : f.Writes (toValue l) := by
  intro path
  refine ⟨_, encodeField_strings hskip hsep hrepeated l path, fun e he ↦ ?_⟩
  obtain ⟨s, -, rfl⟩ := List.mem_map.1 he
  exact isWrite_writeNext _ _

/-! ### Embedded records without groups -/

/-- An embedded record without groups comes to the cells of its fields. -/
theorem isSheetIn_embedded {schema : Schema} {values : List Value}
    (hquiet : schema.entries.all Entry.isQuiet = true)
    (h : areSheets schema.fields values = true) (ident : String) :
    (Value.record schema values).isSheetIn (.embedded ident) = true := by
  simp [Value.isSheetIn, hquiet, h, Field.embedded]

theorem areSheets_cons_embedded {f : Field} {v : Value} (h : v.isSheetIn f = true)
    (fs : List Field) (values : List Value) :
    areSheets (f :: fs) (v :: values) = areSheets fs values := by
  rw [areSheets, h, Bool.true_and]

theorem BootIndex.isSheetIn (b : BootIndex) (ident : String) :
    (toValue b : Value).isSheetIn (.embedded ident) = true := by
  refine isSheetIn_embedded rfl ?_ ident
  simp only [schema, Schema.fields, List.filterMap, Entry.field?, areSheets_cons,
    PlainValue.isPlain]
  rfl

theorem SocketOptions.isSheetIn (o : SocketOptions) (ident : String) :
    (toValue o : Value).isSheetIn (.embedded ident) = true := by
  refine isSheetIn_embedded rfl ?_ ident
  simp only [schema, Schema.fields, List.filterMap, Entry.field?, areSheets_cons,
    PlainValue.isPlain]
  rfl

theorem ScsiAddress.isSheetIn (a : ScsiAddress) (ident : String) :
    (toValue a : Value).isSheetIn (.embedded ident) = true := by
  refine isSheetIn_embedded rfl ?_ ident
  simp only [schema, Schema.fields, List.filterMap, Entry.field?, areSheets_cons,
    PlainValue.isPlain]
  rfl

theorem StorageModel.isSheetIn_extras (m : StorageModel) (ident : String) :
    m.extras.isSheetIn (.embedded ident) = true := by
  cases m with
  | ideCd | ideDisk => rfl
  | scsiCd a | scsiDisk a => exact a.isSheetIn ident
  | nvme serial =>
    refine isSheetIn_embedded rfl ?_ ident
    simp only [nvmeSchema, Schema.fields, List.filterMap, Entry.field?, areSheets_cons,
      PlainValue.isPlain]
    rfl
  | nvmeNamespace eui64 uuid =>
    refine isSheetIn_embedded rfl ?_ ident
    simp only [namespaceSchema, Schema.fields, List.filterMap, Entry.field?, areSheets_cons,
      PlainValue.isPlain]
    rfl

/-! ### Machine-wide options -/

theorem Memory.isSectioned (m : Memory) : IsSectioned ["m"] none (toValue m) := by
  refine .of_selectsFirst rfl (forall₂_writes_of_areSheets ?_)
  simp only [schema, Schema.fields, List.filterMap, Entry.field?, areSheets_cons,
    PlainValue.isPlain]
  rfl

theorem Processors.leads (p : Processors) : Leads "smp" (toValue p) := by
  refine .group rfl ?_
  simp only [List.filterMap, Entry.field?, areSheets_cons, PlainValue.isPlain]
  rfl

theorem Board.leads (b : Board) : Leads "machine" (toValue b) := by
  refine .group rfl ?_
  simp only [List.filterMap, Entry.field?]
  rw [areSheets_cons (PlainValue.isPlain _ _), areSheets_cons (isPlain_strings rfl _)]
  simp only [areSheets_cons, PlainValue.isPlain]
  rfl

theorem Identity.isSectioned (i : Identity) : IsSectioned ["name", "uuid"] none (toValue i) := by
  refine .of_selectsFirst rfl (forall₂_writes_of_areSheets ?_)
  simp only [schema, Schema.fields, List.filterMap, Entry.field?, areSheets_cons,
    PlainValue.isPlain]
  rfl

theorem BootOrder.leads (b : BootOrder) : Leads "boot" (toValue b) := by
  refine .group rfl ?_
  simp only [List.filterMap, Entry.field?, areSheets_cons, PlainValue.isPlain]
  rfl

theorem LinuxKernel.isSectioned {k : LinuxKernel}
    (h : ∀ handle ∈ k.handles, handle.path?.isSome) :
    IsSectioned ["kernel", "initrd", "append"] none (toValue k) := by
  have hwrites : ∀ text? : Option String, ∀ e ∈ text?.toList.map Emission.append,
      e.isWrite = true := by
    intro text? e he
    obtain ⟨s, -, rfl⟩ := List.mem_map.1 he
    rfl
  exact ⟨_, emissions_eq h, .cons (hwrites _) (.cons (hwrites _) (.cons (hwrites _) .nil))⟩

/-! ### Networking -/

theorem UserNetwork.isSectioned (n : UserNetwork) : IsSectioned ["netdev"] none (toValue n) := by
  have hplain : areSheets [.plain "net", .plain "dhcp_start"]
      [toValue n.net, toValue n.dhcpStart] = true := by
    simp only [areSheets_cons, PlainValue.isPlain]
    rfl
  refine .of_embedded (NetworkPeer.leads _) rfl ?_
  exact List.rel_append (forall₂_writes_of_areSheets hplain)
    (.cons (writes_strings rfl rfl rfl _) (.cons (writes_strings rfl rfl rfl _) .nil))

theorem TapNetwork.leads (n : TapNetwork) (fds : List Nat) : Leads "netdev" (n.valueWith fds) := by
  have htexts : elementTexts [] (fds.map Value.natural) = .ok (fds.map toString) :=
    elementTexts_map Value.natural toString [] (fun _ ↦ rfl) fds
  have hplain : (toValue fds : Value).isPlain fdsField.directives = true :=
    (Field.cell_joined (f := fdsField) rfl rfl htexts).1
  refine .embedded rfl rfl ?_ (NetworkPeer.leads _)
  simp only [List.filterMap, Entry.field?]
  rw [areSheets_cons hplain]
  rfl

theorem TapNetwork.isSectioned (n : TapNetwork) (fds : List Nat) :
    IsSectioned ["netdev"] none (n.valueWith fds) :=
  .of_leads (n.leads fds)

theorem NetworkCard.isSectioned (c : NetworkCard) :
    IsSectioned ["device"] (some group) (toValue c) := by
  refine .of_default group (forall₂_writes_of_areSheets ?_)
  simp only [schema, Schema.fields, List.filterMap, Entry.field?]
  rw [areSheets_cons (PlainValue.isPlain _ _), areSheets_cons_embedded (c.boot.isSheetIn _)]
  simp only [areSheets_cons, PlainValue.isPlain]
  rfl

/-! ### Character devices -/

theorem NullChardev.leads (c : NullChardev) : Leads "chardev" (toValue c) :=
  ChardevBase.leads _

theorem PathChardev.leads (c : PathChardev) : Leads "chardev" (toValue c) := by
  have hkind : Value.areZero [toValue c.kind.text, toValue c.name, toValue c.mux] = false := by
    cases c.kind <;> rfl
  refine .embedded hkind rfl ?_ (ChardevBase.leads _)
  simp only [List.filterMap, Entry.field?, areSheets_cons, PlainValue.isPlain]
  rfl

theorem FdSocket.leads (c : FdSocket) : Leads "chardev" (toValue c) := by
  refine .embedded rfl rfl ?_ (ChardevBase.leads _)
  simp only [List.filterMap, Entry.field?]
  rw [areSheets_cons_embedded (c.socket.isSheetIn _), areSheets_cons (PlainValue.isPlain _ _)]
  rfl

theorem TcpSocket.leads (c : TcpSocket) : Leads "chardev" (toValue c) := by
  refine .embedded rfl rfl ?_ (ChardevBase.leads _)
  simp only [List.filterMap, Entry.field?, areSheets_cons, PlainValue.isPlain]
  rw [areSheets_cons_embedded (c.socket.isSheetIn _)]
  simp only [areSheets_cons, PlainValue.isPlain]
  rfl

theorem UnixSocket.leads (c : UnixSocket) : Leads "chardev" (toValue c) := by
  refine .embedded rfl rfl ?_ (ChardevBase.leads _)
  simp only [List.filterMap, Entry.field?]
  rw [areSheets_cons_embedded (c.socket.isSheetIn _)]
  simp only [areSheets_cons, PlainValue.isPlain]
  rfl

theorem UdpSocket.leads (c : UdpSocket) : Leads "chardev" (toValue c) := by
  refine .embedded rfl rfl ?_ (ChardevBase.leads _)
  simp only [List.filterMap, Entry.field?, areSheets_cons, PlainValue.isPlain]
  rfl

/-! ### Block nodes -/

theorem RawNode.leads (n : RawNode) : Leads "blockdev" (toValue n) := by
  refine .embedded rfl rfl ?_ (NodeOptions.leads_valueFor _ _)
  simp only [List.filterMap, Entry.field?, areSheets_cons, PlainValue.isPlain]
  rfl

theorem Qcow2Node.leads (n : Qcow2Node) : Leads "blockdev" (toValue n) := by
  refine .embedded rfl rfl ?_ (NodeOptions.leads_valueFor _ _)
  simp only [List.filterMap, Entry.field?, areSheets_cons, PlainValue.isPlain]
  rfl

/-! ### Storage devices and TPMs -/

theorem StorageDevice.leads (d : StorageDevice) : Leads "device" (toValue d) := by
  refine .group rfl ?_
  simp only [List.filterMap, Entry.field?, areSheets_cons, PlainValue.isPlain]
  rw [areSheets_cons_embedded (d.boot.isSheetIn _),
    areSheets_cons_embedded (d.model.isSheetIn_extras _)]
  rfl

theorem ScsiAdapter.leads (a : ScsiAdapter) : Leads "device" (toValue a) := by
  refine .group rfl ?_
  simp only [List.filterMap, Entry.field?, areSheets_cons, PlainValue.isPlain]
  rfl

theorem TpmInterface.leads (i : TpmInterface) : Leads "device" (toValue i) := by
  refine .group rfl ?_
  simp only [List.filterMap, Entry.field?, areSheets_cons, PlainValue.isPlain]
  rfl

/-! ### Free-form properties -/

namespace Property

/-- A field for an object is refused exactly if the object has no rendering. -/
theorem refusesIff_encodeField {f : Field} (hskip : f.skipped = false) (hsep : f.separator = none)
    (hrepeated : f.repeated = false) (entries : List (String × Property)) (path : List String) :
    RefusesIff (object entries).Unrenderable
      (encodeField path f (object entries).lower.isZero (object entries).lower.encoder) := by
  have hentries := refusesIff_lower (object entries) (path ++ [f.ident]) (d := f.directives) hsep
    hrepeated
  rw [encodeField, hskip, Bool.false_or]
  split
  · -- a zero object has no entries, so it is encoded when it is not passed over
    rename_i hzero
    have hnil : orderEntries (lowerEntries entries) = [] := List.isEmpty_iff.1 hzero
    have hmap : (object entries).lower = .map [] := by
      rw [lower, Value.ofEntries, hnil]
    rw [hmap] at hentries
    exact .accepts hentries.not_of_ok []
  · exact hentries

/-- An object with a rendering comes to writes only. -/
theorem writes_of_not_unrenderable {f : Field} (hflat : f.flattened = false)
    (hsep : f.separator = none) (hrepeated : f.repeated = false)
    {entries : List (String × Property)} (h : ¬(object entries).Unrenderable) :
    f.Writes (toValue (object entries)) :=
  .of_encoder hflat fun path ↦ (refusesIff_lower _ path hsep hrepeated).exists_ok h

end Property

theorem GenericDevice.refusesIff (d : GenericDevice) :
    RefusesIff (Property.object d.properties).Unrenderable (toValue d : Value).emissions := by
  have harguments := encodeField_strings
    (f := { Field.unnamed "arguments" with repeated := true }) rfl rfl rfl d.arguments
    ["GenericDevice"]
  have hproperties := Property.refusesIff_encodeField (f := .plain "properties") rfl rfl rfl
    d.properties ["GenericDevice"]
  have hemissions : (toValue d : Value).emissions = encodeEntries ["GenericDevice"] schema.entries
      (Value.encoders [toValue d.arguments, toValue (Property.object d.properties)]) :=
    Value.emissions_record rfl
  rw [hemissions, schema, Value.encoders, Value.encoders, Value.encoders, encodeEntries, harguments,
    ok_bind, encodeEntries, encodeEntries]
  exact (hproperties.map _).map _

namespace GenericNode

/-- A node with neither a driver nor any options: the record of its first slots is zero, and with it
goes the selection of the group. -/
def IsBare (n : GenericNode) : Prop :=
  n.driver = "" ∧ n.options = {}

variable {n : GenericNode}

theorem isZero_valueFor_iff : (n.options.valueFor n.driver).isZero = true ↔ n.IsBare := by
  obtain ⟨driver, ⟨name, readOnly, autoReadOnly, forceShare, cacheDirect, cacheNoFlush, discard,
    detectZeroes⟩, properties⟩ := n
  have hoption : ∀ {α : Type} [ToValue α] (o : Option α),
      (toValue o : Value).isZero = true ↔ o = none := by
    intro α _ o
    cases o with
    | none => exact ⟨fun _ ↦ rfl, fun _ ↦ rfl⟩
    | some a => exact ⟨fun h ↦ by simp [toValue, Value.isZero] at h, nofun⟩
  have hstring : ∀ s : String, (toValue s : Value).isZero = true ↔ s = "" := fun s ↦
    String.isEmpty_iff
  have hbool : ∀ b : Bool, (toValue b : Value).isZero = true ↔ b = false := fun b ↦ by
    show (!b) = true ↔ b = false
    simp
  simp only [IsBare, NodeOptions.valueFor, Value.isZero, Value.areZero, Bool.and_eq_true, hoption,
    hstring, hbool, NodeOptions.mk.injEq, and_true]

/-- The first slots of a node are written, unless the node is bare. -/
theorem encodeField_options (path : List String) :
    ∃ es, encodeField path (.embedded "options") (n.options.valueFor n.driver).isZero
        (n.options.valueFor n.driver).encoder = .ok es ∧ (n.IsBare → es = []) := by
  rw [← isZero_valueFor_iff, encodeField]
  by_cases hzero : (n.options.valueFor n.driver).isZero = true
  · exact ⟨[], by rw [hzero]; rfl, fun _ ↦ rfl⟩
  · rw [Bool.not_eq_true] at hzero
    have hleads := (NodeOptions.leads_valueFor n.driver n.options).encoder_eq
      (path ++ [(Field.embedded "options").ident]) (d := (Field.embedded "options").directives) rfl
    exact ⟨_, by rw [hzero]; exact hleads, fun h ↦ absurd h (by simp [hzero])⟩

theorem emissions_eq (n : GenericNode) :
    (toValue n : Value).emissions = encodeEntries ["GenericBlockDev"] schema.entries
      (Value.encoders [n.options.valueFor n.driver, toValue (Property.object n.properties)]) :=
  Value.emissions_record rfl

theorem refusesIff (n : GenericNode) :
    RefusesIff (Property.object n.properties).Unrenderable (toValue n : Value).emissions := by
  obtain ⟨es, hes, -⟩ := n.encodeField_options ["GenericBlockDev"]
  have hproperties := Property.refusesIff_encodeField (f := .plain "properties") rfl rfl rfl
    n.properties ["GenericBlockDev"]
  rw [emissions_eq, schema, Value.encoders, Value.encoders, Value.encoders, encodeEntries, hes,
    ok_bind, encodeEntries, encodeEntries]
  exact (hproperties.map _).map _

theorem isSectioned (hbare : ¬n.IsBare) (h : ¬(Property.object n.properties).Unrenderable) :
    IsSectioned ["blockdev"] none (toValue n) := by
  have hzero : (n.options.valueFor n.driver).isZero = false :=
    Bool.eq_false_iff.2 (mt isZero_valueFor_iff.1 hbare)
  exact .of_embedded (NodeOptions.leads_valueFor _ _) hzero
    (.cons (Property.writes_of_not_unrenderable rfl rfl rfl h) .nil)

/-- A bare node is encoded without any selection. -/
theorem emissions_of_isBare (hbare : n.IsBare) (h : ¬(Property.object n.properties).Unrenderable) :
    ∃ writes, (toValue n : Value).emissions = .ok writes ∧ ∀ e ∈ writes, e.isWrite = true := by
  obtain ⟨es, hes, hnil⟩ := n.encodeField_options ["GenericBlockDev"]
  obtain ⟨writes, hwrites, hall⟩ := Property.writes_of_not_unrenderable (f := .plain "properties")
    rfl rfl rfl h ["GenericBlockDev"]
  refine ⟨writes, ?_, hall⟩
  rw [emissions_eq, schema, Value.encoders, Value.encoders, Value.encoders, encodeEntries, hes,
    ok_bind, encodeEntries, encodeEntries, hwrites, hnil hbare]
  simp [Field.switch, Field.embedded, Field.plain]

end GenericNode

/-! ### The catalogue -/

namespace Device

/-- The groups that a kind of device declares, for the kinds whose groups are fixed. -/
def groups? : Device → Option (List String)
  | raw _ | acceleration | processorModel _ | generic _ => none
  | memory _ => some ["m"]
  | processors _ => some ["smp"]
  | board _ => some ["machine"]
  | identity _ => some ["name", "uuid"]
  | bootOrder _ => some ["boot"]
  | kernel _ => some ["kernel", "initrd", "append"]
  | userNetwork _ | tapNetwork _ => some ["netdev"]
  | nullChardev _ | pathChardev _ | fdSocket _ | tcpSocket _ | unixSocket _ | udpSocket _
  | socketPair _ => some ["chardev"]
  | fileNode _ | rawNode _ | qcow2Node _ | genericNode _ => some ["blockdev"]
  | networkCard _ | storage _ | scsiAdapter _ | tpmInterface _ => some ["device"]
  | tpm _ => some ["chardev", "tpmdev"]
  | tpmBackend _ => some ["tpmdev"]

/-- The free-form properties of a device, for the kinds that have some. -/
def properties? : Device → Option (List (String × Property))
  | generic d => some d.properties
  | genericNode n => some n.properties
  | _ => none

/-- A device with a property that has no rendering. -/
def HasUnrenderable (d : Device) : Prop :=
  ∃ entries, d.properties? = some entries ∧ (Property.object entries).Unrenderable

variable {d : Device} {v : Value}

theorem not_hasUnrenderable (h : d.properties? = none) : ¬d.HasUnrenderable := by
  rintro ⟨entries, hentries, -⟩
  rw [h] at hentries
  cases hentries

/-- A device with one value and fixed groups is encoded in sections for these, if its handles have
numbers. -/
theorem isSectioned_of_value? {groups : List String} (hvalue : d.value? = some v)
    (hgroups : d.groups? = some groups) (hpaths : ∀ h ∈ d.handles, h.path?.isSome)
    (hproperties : d.properties? = none) : IsSectioned groups d.group? v := by
  -- a case is left for each kind with one value, fixed groups and no properties
  cases d <;> cases hvalue <;> cases hgroups <;> cases hproperties
  case memory m => exact m.isSectioned
  case processors p => exact .of_leads p.leads
  case board b => exact .of_leads b.leads
  case identity i => exact i.isSectioned
  case bootOrder b => exact .of_leads b.leads
  case kernel k => exact LinuxKernel.isSectioned hpaths
  case userNetwork n => exact n.isSectioned
  case networkCard c => exact c.isSectioned
  case nullChardev c => exact .of_leads c.leads
  case pathChardev c => exact .of_leads c.leads
  case fdSocket c => exact .of_leads c.leads
  case tcpSocket c => exact .of_leads c.leads
  case unixSocket c => exact .of_leads c.leads
  case udpSocket c => exact .of_leads c.leads
  case fileNode n => exact .of_leads (FileNode.leads (hpaths n.file List.mem_cons_self))
  case rawNode n => exact .of_leads n.leads
  case qcow2Node n => exact .of_leads n.leads
  case storage s => exact .of_leads s.leads
  case scsiAdapter a => exact .of_leads a.leads
  case tpmBackend b => exact .of_leads b.leads
  case tpmInterface i => exact .of_leads i.leads

/-- The value of a device whose handles have numbers is refused for its properties and for nothing
else. -/
theorem refusesIff_of_value? (hvalue : d.value? = some v)
    (hpaths : ∀ h ∈ d.handles, h.path?.isSome) : RefusesIff d.HasUnrenderable v.emissions := by
  cases hproperties : d.properties? with
  | none =>
    obtain ⟨groups, hgroups⟩ : ∃ groups, d.groups? = some groups := by
      cases d with
      | raw | acceleration | processorModel => cases hvalue
      | generic => cases hproperties
      | _ => exact ⟨_, rfl⟩
    obtain ⟨es, hes, -⟩ := isSectioned_of_value? hvalue hgroups hpaths hproperties
    rw [hes]
    exact .accepts (not_hasUnrenderable hproperties) es
  | some entries =>
    have hiff : (Property.object entries).Unrenderable ↔ d.HasUnrenderable := by
      simp [HasUnrenderable, hproperties]
    cases d with
    | generic g =>
      cases hvalue; cases hproperties
      exact g.refusesIff.congr hiff
    | genericNode n =>
      cases hvalue; cases hproperties
      exact n.refusesIff.congr hiff
    | _ => cases hproperties

end Device

end MachineArgs
