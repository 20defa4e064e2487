import MachineArgs.Proofs.Device.Flags
import MachineArgs.Proofs.Device.Slots
import MachineArgs.Proofs.Encoding.Keys
import MachineArgs.Proofs.Property.Leaves

/-!
# Identities of devices

A device with a name is defined in its arguments under a key of its group, and other devices refer
to it by its name. `Device.identityIn_of_args` says what the device is defined under: its name, and
nothing else, for every kind of device but one. A node of any driver writes its properties into the
table in which its name stands, and the keys around a nested property are dropped. So a property
`node-name` at any depth takes the place of the name, while references keep the name
(`Device.renamedNode_identityIn`).

The rest of the module reads the records: each has its name in one cell, and no other cell has the
same key.
-/

namespace MachineArgs

/-! ### Names in records -/

theorem ChardevBase.textsAt_id {b : ChardevBase} (h : b.name ≠ "") :
    textsAt "id" (toValue b : Value).cells = [b.name] :=
  textsAt_cellsOf_eq_singleton (by simp [PlainValue.isPlain]) keys_eq rfl (by decide) h

theorem SocketOptions.textsAt_id (o : SocketOptions) (f : Field) :
    textsAt "id" ((toValue o : Value).cellsIn f) = [] :=
  textsAt_cellsIn f (textsAt_cellsOf_eq_nil (by simp [PlainValue.isPlain]) (by decide))

theorem PathChardev.textsAt_id {c : PathChardev} (h : c.name ≠ "") :
    textsAt "id" (toValue c : Value).cells = [c.name] := by
  have hkind : Value.areZero [toValue c.kind.text, toValue c.name, toValue c.mux] = false := by
    cases c.kind <;> rfl
  refine (textsAt_embedded hkind ?_).trans
    (ChardevBase.textsAt_id (b := ⟨c.kind.text, c.name, c.mux⟩) h)
  exact textsAt_cellsOf_eq_nil (by simp [PlainValue.isPlain]) (by decide)

theorem FdSocket.textsAt_id {c : FdSocket} (h : c.name ≠ "") :
    textsAt "id" (toValue c : Value).cells = [c.name] := by
  refine (textsAt_embedded rfl ?_).trans
    (ChardevBase.textsAt_id (b := ⟨"socket", c.name, c.mux⟩) h)
  refine (textsAt_cellsOf_cons (c.socket.textsAt_id _) _ _).trans ?_
  exact textsAt_cellsOf_eq_nil (by simp [PlainValue.isPlain]) (by decide)

theorem TcpSocket.textsAt_id {c : TcpSocket} (h : c.name ≠ "") :
    textsAt "id" (toValue c : Value).cells = [c.name] := by
  refine (textsAt_embedded rfl ?_).trans
    (ChardevBase.textsAt_id (b := ⟨"socket", c.name, c.mux⟩) h)
  simp only [List.filterMap, Entry.field?, cellsOf_cons, PlainValue.isPlain]
  rw [cellsOf]
  show textsAt "id" ([_, _, _, _] ++ ((toValue c.socket : Value).cellsIn _ ++ _)) = []
  simp only [textsAt_append, SocketOptions.textsAt_id, cellsOf_cons, PlainValue.isPlain]
  rfl

theorem UnixSocket.textsAt_id {c : UnixSocket} (h : c.name ≠ "") :
    textsAt "id" (toValue c : Value).cells = [c.name] := by
  refine (textsAt_embedded rfl ?_).trans
    (ChardevBase.textsAt_id (b := ⟨"socket", c.name, c.mux⟩) h)
  refine (textsAt_cellsOf_cons (c.socket.textsAt_id _) _ _).trans ?_
  exact textsAt_cellsOf_eq_nil (by simp [PlainValue.isPlain]) (by decide)

theorem UdpSocket.textsAt_id {c : UdpSocket} (h : c.name ≠ "") :
    textsAt "id" (toValue c : Value).cells = [c.name] := by
  refine (textsAt_embedded rfl ?_).trans
    (ChardevBase.textsAt_id (b := ⟨"udp", c.name, c.mux⟩) h)
  exact textsAt_cellsOf_eq_nil (by simp [PlainValue.isPlain]) (by decide)

theorem NetworkPeer.textsAt_id {p : NetworkPeer} (h : p.name ≠ "") :
    textsAt "id" (toValue p : Value).cells = [p.name] :=
  textsAt_cellsOf_eq_singleton (by simp [PlainValue.isPlain]) keys_eq rfl (by decide) h

theorem NodeOptions.textsAt_nodeName {o : NodeOptions} (h : o.name ≠ "") (driver : String) :
    textsAt "node-name" (o.valueFor driver).cells = [o.name] :=
  textsAt_cellsOf_eq_singleton (by simp [PlainValue.isPlain]) keys_eq rfl (by decide) h

theorem FileNode.textsAt_nodeName {n : FileNode} (h : n.options.name ≠ "")
    (hpath : n.file.path?.isSome) :
    textsAt "node-name" (toValue n : Value).cells = [n.options.name] := by
  obtain ⟨s, hs⟩ := Option.isSome_iff_exists.1 hpath
  rw [cells_eq hs, textsAt_append, NodeOptions.textsAt_nodeName h]
  rfl

theorem RawNode.textsAt_nodeName {n : RawNode} (h : n.options.name ≠ "") :
    textsAt "node-name" (toValue n : Value).cells = [n.options.name] := by
  refine (textsAt_embedded rfl ?_).trans (NodeOptions.textsAt_nodeName h "raw")
  exact textsAt_cellsOf_eq_nil (by simp [PlainValue.isPlain]) (by decide)

theorem Qcow2Node.textsAt_nodeName {n : Qcow2Node} (h : n.options.name ≠ "") :
    textsAt "node-name" (toValue n : Value).cells = [n.options.name] := by
  refine (textsAt_embedded rfl ?_).trans (NodeOptions.textsAt_nodeName h "qcow2")
  exact textsAt_cellsOf_eq_nil (by simp [PlainValue.isPlain]) (by decide)

theorem TpmBackend.keys_eq :
    schema.fields.map Field.key? = [none, some "id", some "chardev"] :=
  rfl

theorem TpmBackend.textsAt_id {b : TpmBackend} (h : b.name ≠ "") :
    textsAt "id" (toValue b : Value).cells = [b.name] :=
  textsAt_cellsOf_eq_singleton (by simp [PlainValue.isPlain]) keys_eq rfl (by decide) h

theorem ScsiAdapter.keys_eq : schema.fields.map Field.key? = [none, some "id"] :=
  rfl

theorem ScsiAdapter.textsAt_id {a : ScsiAdapter} (h : a.name ≠ "") :
    textsAt "id" (toValue a : Value).cells = [a.name] :=
  textsAt_cellsOf_eq_singleton (by simp [PlainValue.isPlain]) keys_eq rfl (by decide) h

theorem BootIndex.textsAt_id (b : BootIndex) (f : Field) :
    textsAt "id" ((toValue b : Value).cellsIn f) = [] :=
  textsAt_cellsIn f (textsAt_cellsOf_eq_nil (by simp [PlainValue.isPlain]) (by decide))

theorem StorageModel.textsAt_extras (m : StorageModel) :
    textsAt "id" (m.extras.cellsIn (.embedded "kind")) = [] := by
  cases m with
  | ideCd | ideDisk => rfl
  | scsiCd a | scsiDisk a | nvme serial | nvmeNamespace eui64 uuid =>
    exact textsAt_cellsIn _ (textsAt_cellsOf_eq_nil (by simp [PlainValue.isPlain]) (by decide))

theorem StorageDevice.textsAt_id {d : StorageDevice} (h : d.name ≠ "") :
    textsAt "id" (toValue d : Value).cells = [d.name] := by
  show textsAt "id" (cellsOf schema.fields _) = _
  simp only [schema, Schema.fields, List.filterMap, Entry.field?, cellsOf_cons, PlainValue.isPlain]
  rw [Field.cell_string (s := d.name) rfl h, cellsOf, cellsOf]
  show textsAt "id" ([_, ⟨some "id", some d.name⟩, _, _] ++ ((toValue d.boot : Value).cellsIn _ ++
    (d.model.extras.cellsIn _ ++ []))) = _
  simp only [textsAt_append, BootIndex.textsAt_id, StorageModel.textsAt_extras]
  rfl

theorem TapNetwork.textsAt_id {n : TapNetwork} (h : n.name ≠ "") (fds : List Nat) :
    textsAt "id" (n.valueWith fds).cells = [n.name] := by
  refine (textsAt_embedded rfl ?_).trans (NetworkPeer.textsAt_id (p := ⟨"tap", n.name⟩) h)
  -- whatever the cell of the numbers holds, its key is another one
  cases fds <;> rfl

/-! ### Records with further writes -/

/-- Networking in user mode gives its forwards one slot each, under keys of their own. -/
theorem UserNetwork.sets {n : UserNetwork} (h : n.name ≠ "") :
    (toValue n : Value).Sets "netdev" "id" [n.name] := by
  refine .of_embedded (NetworkPeer.leads ⟨"user", n.name⟩) rfl rfl
    (NetworkPeer.textsAt_id (p := ⟨"user", n.name⟩) h) (?_ : FieldsSet _ _ _ [])
  exact .cons (.of_isPlain (PlainValue.isPlain _ _) (by decide))
    (.cons (.of_isPlain (PlainValue.isPlain _ _) (by decide))
      (.cons (.of_writeNext (by decide) (encodeField_strings rfl rfl rfl n.hostForwards))
        (.cons (.of_writeNext (by decide) (encodeField_strings rfl rfl rfl n.guestForwards))
          .nil)))

namespace Property

/-- The text of a leaf under a key. -/
def leafText? (key : String) (leaf : String × String) : Option String :=
  if leaf.1 = key then some leaf.2 else none

/-- A field for an object with a rendering sets each key to the texts of the leaves under it. -/
theorem sets_object {f : Field} (hskip : f.skipped = false) (hsep : f.separator = none)
    (hrepeated : f.repeated = false) {own : String} (hown : f.key? = some own)
    {entries : List (String × Property)} (h : ¬(object entries).Unrenderable) (key : String) :
    f.Sets (toValue (object entries)) key
      (((object entries).leaves own).filterMap (leafText? key)) := by
  intro path
  refine ⟨((object entries).leaves own).map leafEmission,
    encodeField_object hskip hsep hrepeated hown h path, ?_, ?_⟩
  · intro e he
    obtain ⟨leaf, -, rfl⟩ := List.mem_map.1 he
    exact ⟨_, rfl, trivial⟩
  · rw [List.filterMap_map]
    rfl

end Property

namespace GenericNode

/-- The names that the properties of a node give it, at any depth, in the order of writing. -/
def nameTexts (n : GenericNode) : List String :=
  ((Property.object n.properties).leaves "properties").filterMap (Property.leafText? "node-name")

/-- A node of any driver sets its identity first, and its properties may set it again. -/
theorem sets {n : GenericNode} (hname : n.options.name ≠ "")
    (h : ¬(Property.object n.properties).Unrenderable) :
    (toValue n : Value).Sets "blockdev" "node-name" (n.options.name :: n.nameTexts) := by
  have hzero : (n.options.valueFor n.driver).isZero = false := by
    refine Bool.eq_false_iff.2 fun hzero ↦ hname ?_
    rw [(isZero_valueFor_iff.1 hzero).2]
  have hkey : (Field.plain "properties").key? = some "properties" := by decide
  have hproperties := Property.sets_object rfl rfl rfl hkey h "node-name"
  have hfields := FieldsSet.cons hproperties .nil
  rw [List.append_nil] at hfields
  exact .of_embedded (NodeOptions.leads_valueFor n.driver n.options) hzero rfl
    (NodeOptions.textsAt_nodeName hname n.driver) hfields

end GenericNode

/-! ### Devices -/

theorem SocketPair.sets {p : SocketPair} {v : Value} (hname : p.name ≠ "") (h : p.value = .ok v) :
    v.Sets "chardev" "id" [p.name] := by
  obtain ⟨fd, -, h⟩ := bind_eq_ok.1 h
  obtain rfl := Except.ok.inj h
  exact .of_leads (FdSocket.leads _) (FdSocket.textsAt_id hname)

theorem TapNetwork.sets {n : TapNetwork} {v : Value} (hname : n.name ≠ "") (h : n.value = .ok v) :
    v.Sets "netdev" "id" [n.name] := by
  rw [TapNetwork.value] at h
  split at h
  · cases h
  · obtain ⟨fds, -, h⟩ := bind_eq_ok.1 h
    obtain rfl := Except.ok.inj h
    exact .of_leads (n.leads fds) (n.textsAt_id hname fds)

theorem TpmBackend.sets {b : TpmBackend} (hname : b.name ≠ "") :
    (toValue b : Value).Sets "tpmdev" "id" [b.name] :=
  .of_leads b.leads (TpmBackend.textsAt_id hname)

namespace Device

/-- The group and the key under which a device with a name is defined. -/
def identityPlace? : Device → Option (String × String)
  | userNetwork _ | tapNetwork _ => some ("netdev", "id")
  | nullChardev _ | pathChardev _ | fdSocket _ | tcpSocket _ | unixSocket _ | udpSocket _
  | socketPair _ => some ("chardev", "id")
  | fileNode _ | rawNode _ | qcow2Node _ | genericNode _ => some ("blockdev", "node-name")
  | storage _ | scsiAdapter _ => some ("device", "id")
  | tpm _ | tpmBackend _ => some ("tpmdev", "id")
  | _ => none

/-- What a device sets its identity to after its name: nothing, but for the properties of a node of
any driver. -/
def furtherNames : Device → List String
  | genericNode n => n.nameTexts
  | _ => []

variable {d : Device} {v : Value} {name group key : String}

/-- A device with one value sets its identity to its name first. -/
theorem sets_of_value? (hvalue : d.value? = some v) (hname : d.name? = some name) (hne : name ≠ "")
    (hplace : d.identityPlace? = some (group, key)) {es : List Emission}
    (hes : v.emissions = .ok es) : v.Sets group key (name :: d.furtherNames) := by
  -- a case is left for each kind with one value and a name
  cases d <;> cases hvalue <;> cases hname <;> cases hplace
  case userNetwork n => exact UserNetwork.sets hne
  case nullChardev c =>
    exact .of_leads c.leads (ChardevBase.textsAt_id (b := ⟨"null", _, c.mux⟩) hne)
  case pathChardev c => exact .of_leads c.leads (PathChardev.textsAt_id hne)
  case fdSocket c => exact .of_leads c.leads (FdSocket.textsAt_id hne)
  case tcpSocket c => exact .of_leads c.leads (TcpSocket.textsAt_id hne)
  case unixSocket c => exact .of_leads c.leads (UnixSocket.textsAt_id hne)
  case udpSocket c => exact .of_leads c.leads (UdpSocket.textsAt_id hne)
  case fileNode n =>
    have hpath := isSome_path?_of_value? (d := fileNode n) rfl hes n.file List.mem_cons_self
    exact .of_leads (FileNode.leads hpath) (FileNode.textsAt_nodeName hne hpath)
  case rawNode n => exact .of_leads n.leads (RawNode.textsAt_nodeName hne)
  case qcow2Node n => exact .of_leads n.leads (Qcow2Node.textsAt_nodeName hne)
  case genericNode n => exact GenericNode.sets hne (hes ▸ n.refusesIff).not_of_ok
  case storage s => exact .of_leads s.leads (StorageDevice.textsAt_id hne)
  case scsiAdapter a => exact .of_leads a.leads (ScsiAdapter.textsAt_id hne)
  case tpmBackend b => exact TpmBackend.sets hne

/-- The values that a device is defined under in its tables. -/
def identityIn (d : Device) (ts : List NamedTables) : List String :=
  match d.identityPlace? with
  | some (group, key) => ts.flatMap fun t ↦ t.values group key
  | none => []

theorem identityIn_singleton (hplace : d.identityPlace? = some (group, key)) (t : NamedTables) :
    d.identityIn [t] = t.values group key := by
  rw [identityIn, hplace]
  exact List.flatMap_singleton _ _

/-- The tables of a TPM are those of its channel and of its backend, and only the latter have its
identity. -/
theorem identityIn_tpm {t : Tpm} (hne : t.backend.name ≠ "") {ts : List NamedTables}
    (h : (tpm t).tables = .ok ts) : (tpm t).identityIn ts = [t.backend.name] := by
  obtain ⟨v, hv, h⟩ := bind_eq_ok.1 (show (t.conduit.value >>= _) = .ok ts from h)
  obtain ⟨conduit, hconduit, h⟩ := bind_eq_ok.1 h
  obtain ⟨backend, hbackend, h⟩ := bind_eq_ok.1 h
  obtain rfl := Except.ok.inj h
  obtain ⟨fd, -, hv⟩ := bind_eq_ok.1 hv
  obtain rfl := Except.ok.inj hv
  rw [(FdSocket.leads _).tables_eq] at hconduit
  obtain rfl := Except.ok.inj hconduit
  show _ ++ (backend.values "tpmdev" "id" ++ []) = _
  rw [List.append_nil, (TpmBackend.sets hne).values_eq hbackend]
  rfl

theorem identityIn_of_tables (hname : d.name? = some name) (hne : name ≠ "")
    {ts : List NamedTables} (h : d.tables = .ok ts) :
    d.identityIn ts = [d.furtherNames.getLast?.getD name] := by
  cases hvalue : d.value? with
  | some v =>
    obtain ⟨hgroup, group, key, hplace⟩ :
        d.group? = none ∧ ∃ group key, d.identityPlace? = some (group, key) := by
      cases d <;> cases hname <;> exact ⟨rfl, _, _, rfl⟩
    rw [tables_of_value? hvalue, hgroup] at h
    obtain ⟨t, ht, rfl⟩ := exists_of_map_singleton h
    obtain ⟨es, hes⟩ := emissions_of_tables ht
    rw [identityIn_singleton hplace, (sets_of_value? hvalue hname hne hplace hes).values_eq ht,
      List.getLast?_cons]
    rfl
  | none =>
    cases d with
    | tapNetwork n =>
      cases hname
      obtain ⟨v, hv, h⟩ := bind_eq_ok.1 (show (n.value >>= _) = .ok ts from h)
      obtain ⟨t, ht, rfl⟩ := exists_of_map_singleton h
      rw [identityIn_singleton rfl, (TapNetwork.sets hne hv).values_eq ht]
      rfl
    | socketPair p =>
      cases hname
      obtain ⟨v, hv, h⟩ := bind_eq_ok.1 (show (p.value >>= _) = .ok ts from h)
      obtain ⟨t, ht, rfl⟩ := exists_of_map_singleton h
      rw [identityIn_singleton rfl, (SocketPair.sets hne hv).values_eq ht]
      rfl
    | tpm t =>
      cases hname
      exact identityIn_tpm hne h
    | raw | acceleration | processorModel => cases hname
    | _ => cases hvalue

/-- A device with a name that has arguments is defined there once, under its name, and a reference
to it is written as this name. A node of any driver is the exception: if its properties have texts
under the key `node-name`, at any depth, then it is defined under the last of them. -/
theorem identityIn_of_args (hname : d.name? = some name) (hne : name ≠ "") {ws : List String}
    (h : d.args = .ok ws) :
    ∃ ts, d.tables = .ok ts ∧ ws = ts.flatMap NamedTables.args ∧
      d.identityIn ts = [d.furtherNames.getLast?.getD name] ∧
      ∃ r, d.reference? = some r ∧
        ∀ path dir, (toValue r : Value).encoder path dir = .ok [.write dir.key name] := by
  obtain ⟨ts, hts⟩ := exists_tables_of_args h
  have hfixed : d.isFixed = false := by
    cases d <;> first | rfl | cases hname
  rw [args_eq_tables_map hfixed, hts] at h
  exact ⟨ts, hts, (Except.ok.inj h).symm, identityIn_of_tables hname hne hts, ⟨name⟩,
    by rw [reference?, hname]; rfl, fun _ _ ↦ rfl⟩

/-- A node that exports a block device over the network, with properties that do not name it. -/
def remoteNode : Device :=
  .genericNode
    { driver := "nbd", options := { name := "remote" },
      properties := [("server", .object [("host", .text "10.0.0.5")]), ("export", .text "root")] }

theorem remoteNode_identityIn : ∃ ts, remoteNode.tables = .ok ts ∧
    remoteNode.args =
      .ok ["-blockdev", "driver=nbd,node-name=remote,export=root,host=10.0.0.5"] ∧
    remoteNode.identityIn ts = ["remote"] := by
  have hargs : remoteNode.args =
      .ok ["-blockdev", "driver=nbd,node-name=remote,export=root,host=10.0.0.5"] := by rfl
  obtain ⟨ts, hts, -, hidentity, -⟩ :=
    identityIn_of_args (show remoteNode.name? = some "remote" from rfl) (by decide) hargs
  exact ⟨ts, hts, hargs, hidentity⟩

/-- A node whose properties name it in another way than its options do. -/
def renamedNode : Device :=
  .genericNode
    { driver := "null-co", options := { name := "disk0" },
      properties := [("node-name", .text "other")] }

theorem renamedNode_identityIn : renamedNode.name? = some "disk0" ∧
    renamedNode.args = .ok ["-blockdev", "driver=null-co,node-name=other"] ∧
    ∃ ts, renamedNode.tables = .ok ts ∧ renamedNode.identityIn ts = ["other"] ∧
      ¬renamedNode.identityIn ts = ["disk0"] := by
  refine ⟨rfl, by rfl, _, by rfl, by rfl, by decide⟩

end Device

end MachineArgs
