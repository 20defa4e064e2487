import MachineArgs.Proofs.Device.Tables

/-!
# Numbers in the arguments of devices

Every device with handles writes their numbers in its own way: a kernel as paths behind flags, a
file node as a path under a key, a tap backend as a list of numbers, a socket pair and a TPM as one
number. `Device.RendersFrom` says for each what it writes if its handles are numbered one after the
other, and `rendersFrom_of_args` that this is so whenever it has arguments at all.
-/

namespace MachineArgs

open Handle (pathOf)

/-! ### File nodes -/

instance : PlainValue DiscardMode := ⟨fun _ _ ↦ rfl⟩
instance : PlainValue ZeroDetection := ⟨fun _ _ ↦ rfl⟩
instance : PlainValue AsyncEngine := ⟨fun _ _ ↦ rfl⟩

namespace NodeOptions

/-- The keys that every block node starts with. -/
def keys : List String :=
  ["driver", "node-name", "read-only", "auto-read-only", "force-share", "cache.direct",
   "cache.no-flush", "discard", "detect-zeroes"]

theorem keys_eq : schema.fields.map Field.key? = keys.map some :=
  rfl

variable (driver : String) (o : NodeOptions)

theorem leads_valueFor : Leads "blockdev" (o.valueFor driver) := by
  refine .group rfl ?_
  show areSheets schema.fields _ = true
  simp only [schema, Schema.fields, List.filterMap, Entry.field?, areSheets_cons,
    PlainValue.isPlain]
  rfl

theorem keys_valueFor : (o.valueFor driver).cells.filterMap Cell.key? = keys :=
  filterMap_key?_cellsOf keys_eq rfl (by simp [PlainValue.isPlain])

end NodeOptions

namespace FileNode

variable {n : FileNode} {s : String}

theorem leads (h : n.file.path?.isSome) : Leads "blockdev" (toValue n) := by
  have hplain : ∀ d, (toValue n.file : Value).isPlain d = true := fun _ ↦ h
  refine .embedded rfl rfl ?_ (NodeOptions.leads_valueFor "file" n.options)
  simp only [List.filterMap, Entry.field?, areSheets_cons, hplain, PlainValue.isPlain]
  rfl

theorem cells_eq (h : n.file.path? = some s) :
    (toValue n : Value).cells = (n.options.valueFor "file").cells ++
      [⟨some "filename", some s⟩, (Field.plain "aio").cell (toValue n.engine),
       (Field.plain "locking").cell (toValue n.locking)] := by
  have hplain : ∀ d, (toValue n.file : Value).isPlain d = true := by
    intro d
    show n.file.path?.isSome = true
    rw [h]
    rfl
  have hfile : (toValue n.file : Value) = .path n.file.name (some s) := by
    rw [← h]
    rfl
  refine (cells_embedded rfl).trans ?_
  simp only [List.filterMap, Entry.field?, cellsOf_cons, hplain, PlainValue.isPlain]
  rw [hfile]
  rfl

theorem nodup_keys (h : n.file.path? = some s) :
    ((toValue n : Value).cells.filterMap Cell.key?).Nodup := by
  rw [cells_eq h, List.filterMap_append, NodeOptions.keys_valueFor]
  show List.Nodup ["driver", "node-name", "read-only", "auto-read-only", "force-share",
    "cache.direct", "cache.no-flush", "discard", "detect-zeroes", "filename", "aio", "locking"]
  decide

/-- A file node writes the path of its file. -/
theorem exists_slot (h : n.file.path? = some s) :
    ∃ t, (toValue n : Value).tables none = .ok t ∧
      ∃ table, t.get? "blockdev" = some table ∧ Slot.keyed "filename" s ∈ table.visible :=
  (leads (by rw [h]; rfl)).exists_slot (nodup_keys h) (by simp [cells_eq h])

end FileNode

/-! ### Socket pairs and TPMs -/

namespace ChardevBase

variable (b : ChardevBase)

theorem leads : Leads "chardev" (toValue b) := by
  refine .group rfl ?_
  simp only [List.filterMap, Entry.field?, areSheets_cons, PlainValue.isPlain]
  rfl

theorem keys_eq : schema.fields.map Field.key? = [none, some "id", some "mux"] :=
  rfl

theorem keys : (toValue b : Value).cells.filterMap Cell.key? = ["id", "mux"] :=
  filterMap_key?_cellsOf keys_eq rfl (by simp [PlainValue.isPlain])

end ChardevBase

namespace SocketPair

/-- A pair writes the number of its guest end. -/
theorem exists_slot {p : SocketPair} {fd : Nat} (h : p.guest.index = some fd) (hfd : 0 < fd) :
    ∃ v t, p.value = .ok v ∧ v.tables none = .ok t ∧
      ∃ table, t.get? "chardev" = some table ∧ Slot.keyed "fd" (toString fd) ∈ table.visible := by
  have hvalue : p.value = .ok (toValue ({ name := p.name, fd := fd } : FdSocket)) := by
    rw [value, Handle.requireIndex, h]
    rfl
  have hleads : Leads "chardev" (toValue ({ name := p.name, fd := fd } : FdSocket)) := by
    refine .embedded rfl rfl ?_ (ChardevBase.leads _)
    show (true && areSheets [Field.plain "fd"] [toValue fd]) = true
    rw [areSheets_cons (PlainValue.isPlain _ _)]
    rfl
  have hcells : (toValue ({ name := p.name, fd := fd } : FdSocket) : Value).cells =
      (toValue (ChardevBase.mk "socket" p.name none) : Value).cells ++
        [⟨some "fd", some (toString fd)⟩] := by
    have hcell : (Field.plain "fd").cell (toValue fd) = ⟨some "fd", some (toString fd)⟩ := by
      have hzero : (toValue fd : Value).isZero = false := beq_eq_false_iff_ne.2 (by omega)
      rw [Field.cell, hzero]
      rfl
    refine (cells_embedded rfl).trans (congrArg _ ?_)
    show [] ++ cellsOf [Field.plain "fd"] [toValue fd] = _
    rw [cellsOf_cons (PlainValue.isPlain _ _), hcell]
    rfl
  have hkeys : ((toValue ({ name := p.name, fd := fd } : FdSocket) : Value).cells.filterMap
      Cell.key?).Nodup := by
    rw [hcells, List.filterMap_append, ChardevBase.keys]
    show List.Nodup ["id", "mux", "fd"]
    decide
  obtain ⟨t, ht, hslot⟩ :=
    hleads.exists_slot hkeys (hcells ▸ List.mem_append_right _ List.mem_cons_self)
  exact ⟨_, t, hvalue, ht, hslot⟩

end SocketPair

instance : PlainValue Reference := ⟨fun _ _ ↦ rfl⟩

theorem TpmBackend.leads (b : TpmBackend) : Leads "tpmdev" (toValue b) := by
  refine .group rfl ?_
  simp only [List.filterMap, Entry.field?, areSheets_cons, PlainValue.isPlain]
  rfl

/-! ### Tap backends -/

namespace NetworkPeer

variable (p : NetworkPeer)

theorem leads : Leads "netdev" (toValue p) := by
  refine .group rfl ?_
  simp only [List.filterMap, Entry.field?, areSheets_cons, PlainValue.isPlain]
  rfl

theorem keys_eq : schema.fields.map Field.key? = [none, some "id"] :=
  rfl

theorem keys : (toValue p : Value).cells.filterMap Cell.key? = ["id"] :=
  filterMap_key?_cellsOf keys_eq rfl (by simp [PlainValue.isPlain])

end NetworkPeer

namespace TapNetwork

theorem indices_eq_ok {hs : List Handle} {fds : List Nat}
    (h : hs.map Handle.index = fds.map some) : indices hs = .ok fds := by
  induction hs generalizing fds with
  | nil =>
    obtain rfl : fds = [] := by simpa using h.symm
    rfl
  | cons handle hs ih =>
    cases fds with
    | nil => simp at h
    | cons fd fds =>
      obtain ⟨hfirst, hrest⟩ := List.cons.inj h
      rw [indices, Handle.requireIndex, hfirst, ih hrest]
      rfl

/-- A tap backend writes the numbers of its taps in order. -/
theorem exists_slot {n : TapNetwork} {fds : List Nat}
    (h : n.queues.map Handle.index = fds.map some) (hne : fds ≠ []) :
    ∃ v t, n.value = .ok v ∧ v.tables none = .ok t ∧
      ∃ table, t.get? "netdev" = some table ∧
        Slot.keyed "fds" (":".intercalate (fds.map toString)) ∈ table.visible := by
  have hvalue : n.value = .ok (n.valueWith fds) := by
    have hqueues : n.queues.isEmpty = false := by
      cases hq : n.queues with
      | nil => exact absurd (by simpa [hq] using h.symm) hne
      | cons handle hs => rfl
    rw [value, hqueues, indices_eq_ok h]
    rfl
  have htexts : elementTexts [] (fds.map Value.natural) = .ok (fds.map toString) :=
    elementTexts_map Value.natural toString [] (fun _ ↦ rfl) fds
  obtain ⟨hplain, hcell⟩ : (toValue fds : Value).isPlain fdsField.directives = true ∧
      fdsField.cell (toValue fds) = ⟨some "fds", some (":".intercalate (fds.map toString))⟩ := by
    have hjoined := Field.cell_joined (f := fdsField) rfl rfl htexts
    rw [List.isEmpty_map, List.isEmpty_eq_false_iff.2 hne] at hjoined
    exact hjoined
  have hleads : Leads "netdev" (n.valueWith fds) := by
    refine .embedded rfl rfl ?_ (NetworkPeer.leads _)
    show areSheets [fdsField] [toValue fds] = true
    rw [areSheets_cons hplain]
    rfl
  have hcells : (n.valueWith fds).cells = (toValue (NetworkPeer.mk "tap" n.name) : Value).cells ++
      [⟨some "fds", some (":".intercalate (fds.map toString))⟩] := by
    refine (cells_embedded rfl).trans (congrArg _ ?_)
    show cellsOf [fdsField] [toValue fds] = _
    rw [cellsOf_cons hplain, hcell]
    rfl
  have hkeys : ((n.valueWith fds).cells.filterMap Cell.key?).Nodup := by
    rw [hcells, List.filterMap_append, NetworkPeer.keys]
    show List.Nodup ["id", "fds"]
    decide
  obtain ⟨t, ht, hslot⟩ :=
    hleads.exists_slot hkeys (hcells ▸ List.mem_append_right _ List.mem_cons_self)
  exact ⟨_, t, hvalue, ht, hslot⟩

end TapNetwork

/-! ### Kernels -/

namespace LinuxKernel

/-- The arguments of at most one value for each of the three groups of a kernel. -/
def flagged (kernel? initrd? append? : Option String) : List String :=
  (kernel?.toList.flatMap fun s ↦ ["-kernel", s]) ++
    (initrd?.toList.flatMap fun s ↦ ["-initrd", s]) ++
    (append?.toList.flatMap fun s ↦ ["-append", s])

/-- The text of a kernel's command line, if it has any words. -/
def appendText? (k : LinuxKernel) : Option String :=
  if k.cmdline.isEmpty then none else some (" ".intercalate k.cmdline)

theorem run_eq_flagged (kernel? initrd? append? : Option String) :
    ((NamedTables.initial none).run ([.select "kernel"] ++ kernel?.toList.map .append ++
      ([.select "initrd"] ++ initrd?.toList.map .append ++
        ([.select "append"] ++ append?.toList.map .append ++ [])))).args =
      flagged kernel? initrd? append? := by
  cases kernel? <;> cases initrd? <;> cases append? <;> rfl

/-- A field for a handle writes the path of the handle bare, if there is a handle. -/
theorem encodeField_handle {f : Field} (hkey : f.key? = none) (hskip : f.skipped = false)
    {handle? : Option Handle} (h : ∀ handle, handle? = some handle → handle.path?.isSome)
    (path : List String) :
    encodeField path f (toValue handle? : Value).isZero (toValue handle? : Value).encoder =
      .ok ((handle?.bind Handle.path?).toList.map .append) := by
  cases handle? with
  | none =>
    rw [encodeField, hskip]
    rfl
  | some handle =>
    obtain ⟨s, hs⟩ := Option.isSome_iff_exists.1 (h handle rfl)
    show (if f.skipped || false then _ else Encoder.location handle.name handle.path? _ _) = _
    rw [hskip, Option.bind_some, hs]
    show Except.ok [Emission.write f.key? s] = .ok [.append s]
    rw [hkey]
    rfl

/-- The field for the words of the command line writes them as one bare text, if there are any. -/
theorem encodeField_cmdline {f : Field} (hkey : f.key? = none) (hskip : f.skipped = false)
    (hsep : f.separator = some " ") (k : LinuxKernel) (path : List String) :
    encodeField path f (toValue k.cmdline : Value).isZero (toValue k.cmdline : Value).encoder =
      .ok (k.appendText?.toList.map .append) := by
  have htexts : elementTexts [] (k.cmdline.map Value.string) = .ok k.cmdline := by
    rw [elementTexts_map Value.string id [] (fun _ ↦ rfl), List.map_id]
  obtain ⟨hplain, hcell⟩ := Field.cell_joined hskip hsep htexts
  rw [hkey] at hcell
  show encodeField path f (Value.list (k.cmdline.map Value.string)).isZero
    (Value.list (k.cmdline.map Value.string)).encoder = _
  rw [encodeField_of_isPlain (by rw [hplain, Bool.or_true]), hcell]
  show Except.ok (k.appendText?.map _).toList = _
  rw [Option.toList_map]
  rfl

/-- A kernel selects its three groups in order and writes one bare text to each at most: the paths
of its handles, and the words of its command line. -/
theorem emissions_eq {k : LinuxKernel} (h : ∀ handle ∈ k.handles, handle.path?.isSome) :
    (toValue k : Value).emissions = .ok
      ([.select "kernel"] ++ (k.kernel.bind Handle.path?).toList.map .append ++
        ([.select "initrd"] ++ (k.initrd.bind Handle.path?).toList.map .append ++
          ([.select "append"] ++ k.appendText?.toList.map .append ++ []))) := by
  have hkernel : ∀ handle, k.kernel = some handle → handle.path?.isSome :=
    fun handle hk ↦ h handle (by simp [handles, hk])
  have hinitrd : ∀ handle, k.initrd = some handle → handle.path?.isSome :=
    fun handle hi ↦ h handle (by simp [handles, hi])
  show encodeEntries ["LinuxKernel"] schema.entries (Value.encoders
    [toValue k.kernel, toValue k.initrd, toValue k.cmdline]) = _
  rw [schema, Value.encoders, Value.encoders, Value.encoders, Value.encoders, encodeEntries,
    encodeEntries, encodeEntries, encodeEntries, encodeField_handle rfl rfl hkernel,
    encodeField_handle rfl rfl hinitrd, encodeField_cmdline rfl rfl rfl]
  rfl

/-- A kernel writes the paths of its handles behind the flags of their groups. -/
theorem args_eq_flagged {k : LinuxKernel} (h : ∀ handle ∈ k.handles, handle.path?.isSome) :
    (toValue k : Value).args none = .ok (flagged (k.kernel.bind Handle.path?)
      (k.initrd.bind Handle.path?) k.appendText?) := by
  rw [Value.args, Value.tables, emissions_eq h, ok_bind, pure_eq_ok, ok_bind, pure_eq_ok,
    run_eq_flagged]

/-- Handles with numbers have paths. -/
theorem path?_of_numbered (k : LinuxKernel) (first : Nat) : ∀ handle ∈ (k.mapHandles
    fun position h ↦ h.withIndex (first + position)).handles, handle.path?.isSome := by
  intro handle hmem
  rcases List.mem_append.1 hmem with hmem | hmem <;>
    obtain ⟨_, -, rfl⟩ := Option.map_eq_some_iff.1 (Option.mem_toList.1 hmem) <;> rfl

end LinuxKernel

/-! ### Numbered devices -/

namespace Device

/-- The device with its handles numbered one after the other. -/
def numberedFrom (first : Nat) (d : Device) : Device :=
  d.mapHandles fun position h ↦ h.withIndex (first + position)

/-- Where a device whose handles have the numbers from `first` on writes them among its arguments
`ws`. -/
def RendersFrom (first : Nat) (d : Device) (ws : List String) : Prop :=
  match d with
  | kernel k => ws = LinuxKernel.flagged (k.kernel.map fun _ ↦ pathOf first)
      (k.initrd.map fun _ ↦ pathOf (first + k.kernel.toList.length)) k.appendText?
  | fileNode _ => d.Shows ws "blockdev" (.keyed "filename" (pathOf first))
  | tapNetwork n => d.Shows ws "netdev" (.keyed "fds"
      (":".intercalate ((List.range n.queues.length).map fun i ↦ toString (first + i))))
  | socketPair _ | tpm _ => d.Shows ws "chardev" (.keyed "fd" (toString first))
  | d => d.handles = []

section Kinds

variable {first : Nat} {ws : List String}

theorem kernel_rendersFrom {k : LinuxKernel}
    (h : ((kernel k).numberedFrom first).args = .ok ws) :
    ((kernel k).numberedFrom first).RendersFrom first ws := by
  obtain ⟨kernel, initrd, cmdline⟩ := k
  obtain rfl := Except.ok.inj (h.symm.trans
    (LinuxKernel.args_eq_flagged (LinuxKernel.path?_of_numbered _ first)))
  -- Whether there is a kernel decides where the ramdisk's number starts.
  cases kernel <;> cases initrd <;> rfl

theorem fileNode_rendersFrom {n : FileNode}
    (h : ((fileNode n).numberedFrom first).args = .ok ws) :
    ((fileNode n).numberedFrom first).RendersFrom first ws := by
  obtain ⟨t, ht, hslot⟩ := FileNode.exists_slot
    (n := { n with file := n.file.withIndex (first + 0) }) (s := pathOf first) rfl
  have htables : ((fileNode n).numberedFrom first).tables = .ok [t] :=
    (tables_of_value? rfl).trans (congrArg (Except.map fun t ↦ [t]) ht)
  exact shows_of_tables rfl h htables List.mem_cons_self hslot

theorem tapNetwork_rendersFrom {n : TapNetwork}
    (h : ((tapNetwork n).numberedFrom first).args = .ok ws) :
    ((tapNetwork n).numberedFrom first).RendersFrom first ws := by
  obtain ⟨name, queues⟩ := n
  have hne : queues ≠ [] := by
    rintro rfl
    cases h
  have hindices : (queues.mapIdx fun p h ↦ h.withIndex (first + p)).map Handle.index =
      ((List.range queues.length).map fun p ↦ first + p).map some := by
    apply List.ext_getElem <;> simp [Handle.withIndex]
  obtain ⟨v, t, hv, ht, hslot⟩ := TapNetwork.exists_slot
    (n := ⟨name, queues.mapIdx fun p h ↦ h.withIndex (first + p)⟩) hindices (by simpa using hne)
  have htables : ((tapNetwork ⟨name, queues⟩).numberedFrom first).tables = .ok [t] := by
    show (TapNetwork.value _ >>= fun v ↦ (v.tables none).map fun t ↦ [t]) = _
    rw [hv, ok_bind, ht]
    rfl
  have hshows := shows_of_tables rfl h htables List.mem_cons_self hslot
  show Shows _ ws "netdev" (.keyed "fds" (":".intercalate
    ((List.range (queues.mapIdx _).length).map fun p ↦ toString (first + p))))
  rw [List.map_map] at hshows
  rw [List.length_mapIdx]
  exact hshows

theorem socketPair_rendersFrom {p : SocketPair} (hfirst : 0 < first)
    (h : ((socketPair p).numberedFrom first).args = .ok ws) :
    ((socketPair p).numberedFrom first).RendersFrom first ws := by
  obtain ⟨v, t, hv, ht, hslot⟩ := SocketPair.exists_slot
    (p := { p with guest := p.guest.withIndex (first + 0) }) rfl hfirst
  have htables : ((socketPair p).numberedFrom first).tables = .ok [t] := by
    show (SocketPair.value _ >>= fun v ↦ (v.tables none).map fun t ↦ [t]) = _
    rw [hv, ok_bind, ht]
    rfl
  exact shows_of_tables rfl h htables List.mem_cons_self hslot

theorem tpm_rendersFrom {t : Tpm} (hfirst : 0 < first)
    (h : ((tpm t).numberedFrom first).args = .ok ws) :
    ((tpm t).numberedFrom first).RendersFrom first ws := by
  obtain ⟨v, conduit, hv, hconduit, hslot⟩ := SocketPair.exists_slot
    (p := { t.conduit with guest := t.conduit.guest.withIndex (first + 0) }) rfl hfirst
  obtain ⟨backend, hbackend⟩ : ∃ backend, (toValue t.backend : Value).tables none = .ok backend :=
    ⟨_, (TpmBackend.leads t.backend).tables_eq⟩
  have htables : ((tpm t).numberedFrom first).tables = .ok [conduit, backend] := by
    show (SocketPair.value _ >>= _) = _
    rw [hv, ok_bind, hconduit, ok_bind]
    show ((toValue t.backend : Value).tables none >>= _) = _
    rw [hbackend]
    rfl
  exact shows_of_tables rfl h htables List.mem_cons_self hslot

/-- A device whose handles are numbered one after the other writes these numbers, whenever it has
arguments at all. The number zero is out: a zero is not written. -/
theorem rendersFrom_of_args {d : Device} (hfirst : 0 < first)
    (h : (d.numberedFrom first).args = .ok ws) : (d.numberedFrom first).RendersFrom first ws := by
  cases d with
  | kernel k => exact kernel_rendersFrom h
  | fileNode n => exact fileNode_rendersFrom h
  | tapNetwork n => exact tapNetwork_rendersFrom h
  | socketPair p => exact socketPair_rendersFrom hfirst h
  | tpm t => exact tpm_rendersFrom hfirst h
  | _ => rfl

end Kinds

end Device

end MachineArgs
