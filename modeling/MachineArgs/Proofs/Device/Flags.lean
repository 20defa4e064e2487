import MachineArgs.Proofs.Device.Failure

/-!
# Flags of devices

The arguments of a device with fixed groups are pairs: the flag of one of these groups, and the text
of the table that belongs to it (`Device.args_inPairs_iff`). They are in the order in which the kind
declares its groups, and there are none for a table with nothing in it.

One kind breaks this. A block node of any driver selects its group in the record of its first slots,
which is zero if neither a driver nor any option is given, and is then passed over together with the
selection. The properties of such a node stand among the arguments without a flag.
-/

namespace MachineArgs

/-! ### Tables with something in them -/

/-- The tables that have something in them, by group. -/
def shownTables (ts : List NamedTables) : List (String × OptionTable) :=
  (ts.flatMap NamedTables.groups).filter fun s ↦ !s.2.isEmpty

/-- Arguments in pairs: for each table with something in it the flag of its group and its text. The
groups are among the given ones and in their order. -/
def InPairs (groups : List String) (ts : List NamedTables) (ws : List String) : Prop :=
  ((shownTables ts).map (·.1)).Sublist groups ∧
    ws = (shownTables ts).flatMap fun s ↦ ["-" ++ s.1, s.2.serialize]

theorem shownTables_append (ts ts' : List NamedTables) :
    shownTables (ts ++ ts') = shownTables ts ++ shownTables ts' := by
  rw [shownTables, List.flatMap_append, List.filter_append]
  rfl

namespace InPairs

variable {groups groups' : List String} {ts ts' : List NamedTables} {ws ws' : List String}

theorem append (h : InPairs groups ts ws) (h' : InPairs groups' ts' ws') :
    InPairs (groups ++ groups') (ts ++ ts') (ws ++ ws') := by
  obtain ⟨hgroups, rfl⟩ := h
  obtain ⟨hgroups', rfl⟩ := h'
  refine ⟨?_, ?_⟩
  · rw [shownTables_append, List.map_append]
    exact hgroups.append hgroups'
  · rw [shownTables_append, List.flatMap_append]

theorem of_names {t : NamedTables} (hnames : t.names = groups) (hempty : "" ∉ groups) :
    InPairs groups [t] t.args := by
  have hshown : shownTables [t] = t.groups.filter fun s ↦ !s.2.isEmpty := by
    rw [shownTables, List.flatMap_singleton]
  refine ⟨?_, ?_⟩
  · rw [hshown, ← hnames]
    exact List.filter_sublist.map _
  · rw [NamedTables.args_eq_pairs (hnames ▸ hempty), hshown]

end InPairs

namespace IsSectioned

variable {groups : List String} {default : Option String} {v : Value} {t : NamedTables}

/-- A value in sections has a table for each of its groups. -/
theorem names_eq (h : IsSectioned groups default v) (hnodup : groups.Nodup)
    (ht : v.tables default = .ok t) : t.names = groups := by
  obtain ⟨es, hes, hsections⟩ := h
  have hrun : (NamedTables.initial default).run es =
      (NamedTables.initial none).run (default.toList.map .select ++ es) := by
    cases default <;> rfl
  rw [Value.tables, hes, ok_bind, pure_eq_ok, hrun] at ht
  rw [← Except.ok.inj ht, hsections.names_eq, eraseDups_eq_self hnodup]

theorem inPairs (h : IsSectioned groups default v) (hnodup : groups.Nodup) (hempty : "" ∉ groups)
    (ht : v.tables default = .ok t) : InPairs groups [t] t.args :=
  .of_names (h.names_eq hnodup ht) hempty

end IsSectioned

/-! ### Handles of a device that is encoded -/

/-- Entries are encoded if the value of each field is. -/
theorem forall₂_of_encodeEntries {entries : List Entry} {values : List Value}
    (hcount : (entries.filterMap Entry.field?).length = values.length) {path : List String}
    {es : List Emission} (h : encodeEntries path entries (Value.encoders values) = .ok es) :
    List.Forall₂ (fun f v ↦ ∃ es, encodeField path f v.isZero v.encoder = .ok es)
      (entries.filterMap Entry.field?) values := by
  induction entries generalizing values es with
  | nil =>
    obtain rfl : values = [] := List.length_eq_zero_iff.1 hcount.symm
    exact .nil
  | cons entry entries ih =>
    cases entry with
    | group name =>
      obtain ⟨rest, hrest, -⟩ := bind_eq_ok.1 h
      exact ih hcount hrest
    | field f =>
      cases values with
      | nil => simp [Entry.field?] at hcount
      | cons v values =>
        obtain ⟨here, hhere, h⟩ := bind_eq_ok.1 h
        obtain ⟨rest, hrest, -⟩ := bind_eq_ok.1 h
        exact .cons ⟨here, hhere⟩ (ih (by simpa [Entry.field?] using hcount) hrest)

/-- A handle that is encoded in a field has a number. -/
theorem Handle.isSome_path?_of_encodeField {f : Field} (hskip : f.skipped = false) {h : Handle}
    {path : List String} {es : List Emission}
    (he : encodeField path f false (toValue h : Value).encoder = .ok es) : h.path?.isSome := by
  have hvalue : (toValue h : Value) = .path h.name h.path? := rfl
  rw [encodeField, hskip, hvalue] at he
  cases hpath : h.path? with
  | some s => rfl
  | none =>
    rw [hpath] at he
    cases he

namespace Device

variable {d : Device} {v : Value} {ws : List String} {groups : List String}

/-- If the value of a device is encoded, then the handles that the device lists have numbers. -/
theorem isSome_path?_of_value? (hvalue : d.value? = some v) {es : List Emission}
    (h : v.emissions = .ok es) : ∀ handle ∈ d.handles, handle.path?.isSome := by
  cases d with
  | kernel k =>
    cases hvalue
    have hemissions : (toValue k : Value).emissions =
        encodeEntries ["LinuxKernel"] LinuxKernel.schema.entries
          (Value.encoders [toValue k.kernel, toValue k.initrd, toValue k.cmdline]) :=
      Value.emissions_record rfl
    obtain ⟨⟨_, hkernel⟩, hrest⟩ := List.forall₂_cons.1
      (forall₂_of_encodeEntries rfl (hemissions.symm.trans h))
    obtain ⟨⟨_, hinitrd⟩, -⟩ := List.forall₂_cons.1 hrest
    intro handle hmem
    rcases List.mem_append.1 hmem with hmem | hmem
    · rw [Option.mem_toList.1 hmem] at hkernel
      exact Handle.isSome_path?_of_encodeField rfl hkernel
    · rw [Option.mem_toList.1 hmem] at hinitrd
      exact Handle.isSome_path?_of_encodeField rfl hinitrd
  | fileNode n =>
    cases hvalue
    have hemissions : (toValue n : Value).emissions =
        encodeEntries ["FileBlockDev"] FileNode.schema.entries (Value.encoders
          [n.options.valueFor "file", toValue n.file, toValue n.engine, toValue n.locking]) :=
      Value.emissions_record rfl
    obtain ⟨-, hrest⟩ := List.forall₂_cons.1
      (forall₂_of_encodeEntries rfl (hemissions.symm.trans h))
    obtain ⟨⟨_, hfile⟩, -⟩ := List.forall₂_cons.1 hrest
    intro handle hmem
    rw [List.mem_singleton.1 hmem]
    exact Handle.isSome_path?_of_encodeField rfl hfile
  | tapNetwork | socketPair | tpm => cases hvalue
  | _ => exact nofun

/-! ### Arguments in pairs -/

theorem nodup_of_groups? (hgroups : d.groups? = some groups) : groups.Nodup ∧ "" ∉ groups := by
  cases d <;> cases hgroups <;> decide

/-- A block node of any driver with neither a driver nor any options. -/
def IsBare : Device → Prop
  | genericNode n => n.IsBare
  | _ => False

/-- A value in sections that is all there is to a device gives arguments in pairs. -/
theorem inPairs_of_isSectioned {default : Option String} {t : NamedTables}
    (hgroups : d.groups? = some groups) (h : IsSectioned groups default v)
    (ht : v.tables default = .ok t) : InPairs groups [t] t.args :=
  h.inPairs (nodup_of_groups? hgroups).1 (nodup_of_groups? hgroups).2 ht

/-- A device with one value that is not bare is encoded in sections for its groups. -/
theorem isSectioned_of_emissions (hvalue : d.value? = some v) (hgroups : d.groups? = some groups)
    (hbare : ¬d.IsBare) {es : List Emission} (h : v.emissions = .ok es) :
    IsSectioned groups d.group? v := by
  have hpaths := isSome_path?_of_value? hvalue h
  cases hproperties : d.properties? with
  | none => exact isSectioned_of_value? hvalue hgroups hpaths hproperties
  | some entries =>
    have hfine : ¬d.HasUnrenderable := (h ▸ refusesIff_of_value? hvalue hpaths).not_of_ok
    cases d with
    | generic => cases hgroups
    | genericNode n =>
      cases hvalue; cases hgroups
      exact GenericNode.isSectioned hbare fun h ↦ hfine ⟨_, rfl, h⟩
    | _ => cases hproperties

/-- A single group of tables in a list of its own. -/
theorem exists_of_map_singleton {x : Except Error NamedTables} {ts : List NamedTables}
    (h : (x.map fun t ↦ [t]) = .ok ts) : ∃ t, x = .ok t ∧ ts = [t] := by
  cases x with
  | error e => cases h
  | ok t => exact ⟨t, rfl, (Except.ok.inj h).symm⟩

theorem emissions_of_tables {default : Option String} {t : NamedTables}
    (h : v.tables default = .ok t) : ∃ es, v.emissions = .ok es := by
  obtain ⟨es, hes, -⟩ := bind_eq_ok.1 h
  exact ⟨es, hes⟩

theorem tapNetwork_inPairs {n : TapNetwork} {ts : List NamedTables}
    (h : (tapNetwork n).tables = .ok ts) : InPairs ["netdev"] ts (ts.flatMap NamedTables.args) := by
  obtain ⟨v, hv, h⟩ := bind_eq_ok.1 (show (n.value >>= _) = .ok ts from h)
  obtain ⟨t, ht, rfl⟩ := exists_of_map_singleton h
  have hsectioned : IsSectioned ["netdev"] none v := by
    rw [TapNetwork.value] at hv
    split at hv
    · cases hv
    · obtain ⟨fds, -, hv⟩ := bind_eq_ok.1 hv
      rw [← Except.ok.inj hv]
      exact n.isSectioned fds
  rw [List.flatMap_singleton]
  exact inPairs_of_isSectioned (d := tapNetwork n) rfl hsectioned ht

theorem conduit_inPairs {p : SocketPair} {v : Value} {t : NamedTables} (hv : p.value = .ok v)
    (ht : v.tables none = .ok t) : InPairs ["chardev"] [t] t.args := by
  obtain ⟨fd, -, hv⟩ := bind_eq_ok.1 hv
  obtain rfl := Except.ok.inj hv
  exact inPairs_of_isSectioned (d := socketPair p) rfl (.of_leads (FdSocket.leads _)) ht

theorem socketPair_inPairs {p : SocketPair} {ts : List NamedTables}
    (h : (socketPair p).tables = .ok ts) :
    InPairs ["chardev"] ts (ts.flatMap NamedTables.args) := by
  obtain ⟨v, hv, h⟩ := bind_eq_ok.1 (show (p.value >>= _) = .ok ts from h)
  obtain ⟨t, ht, rfl⟩ := exists_of_map_singleton h
  rw [List.flatMap_singleton]
  exact conduit_inPairs hv ht

theorem tpm_inPairs {t : Tpm} {ts : List NamedTables} (h : (tpm t).tables = .ok ts) :
    InPairs ["chardev", "tpmdev"] ts (ts.flatMap NamedTables.args) := by
  obtain ⟨v, hv, h⟩ := bind_eq_ok.1 (show (t.conduit.value >>= _) = .ok ts from h)
  obtain ⟨conduit, hconduit, h⟩ := bind_eq_ok.1 h
  obtain ⟨backend, hbackend, h⟩ := bind_eq_ok.1 h
  obtain rfl := Except.ok.inj h
  have hpairs := (conduit_inPairs hv hconduit).append
    (inPairs_of_isSectioned (d := tpmBackend t.backend) rfl (.of_leads t.backend.leads) hbackend)
  simpa using hpairs

/-- The arguments of a device with fixed groups that is not bare are pairs of a flag and a table. -/
theorem inPairs_of_args (hgroups : d.groups? = some groups) (hbare : ¬d.IsBare)
    {ts : List NamedTables} (h : d.tables = .ok ts) :
    InPairs groups ts (ts.flatMap NamedTables.args) := by
  cases hvalue : d.value? with
  | some v =>
    rw [tables_of_value? hvalue] at h
    obtain ⟨t, ht, rfl⟩ := exists_of_map_singleton h
    obtain ⟨es, hes⟩ := emissions_of_tables ht
    rw [List.flatMap_singleton]
    exact inPairs_of_isSectioned hgroups (isSectioned_of_emissions hvalue hgroups hbare hes) ht
  | none =>
    cases d <;> cases hvalue <;> cases hgroups
    · exact tapNetwork_inPairs h
    · exact socketPair_inPairs h
    · exact tpm_inPairs h

/-! ### Bare nodes -/

/-- A bare node has one table at most, and that under no name. -/
theorem names_of_isBare (hbare : d.IsBare) {ts : List NamedTables} (h : d.tables = .ok ts) :
    ∃ t, ts = [t] ∧ (t.names = [] ∨ t.names = [""]) := by
  cases d <;> cases hbare
  rename_i n hdriver hoptions
  obtain ⟨t, ht, rfl⟩ := exists_of_map_singleton h
  obtain ⟨es, hes⟩ := emissions_of_tables ht
  have hfine : ¬(Property.object n.properties).Unrenderable := (hes ▸ n.refusesIff).not_of_ok
  obtain ⟨writes, hwrites, hall⟩ := n.emissions_of_isBare ⟨hdriver, hoptions⟩ hfine
  obtain rfl : writes = es := Except.ok.inj (hwrites.symm.trans hes)
  have hrun : (NamedTables.initial none).run writes = t := by
    rw [Value.tables, hes] at ht
    exact Except.ok.inj ht
  refine ⟨t, rfl, ?_⟩
  rw [← hrun, (NamedTables.run_initial none writes).1, NamedTables.names_ofJournal]
  rcases entered_journal_none_writes hall with hentered | hentered
  · exact .inl (congrArg List.eraseDups hentered)
  · exact .inr (congrArg List.eraseDups hentered)

/-- The arguments of a bare node are the texts of its tables, without any flag. -/
theorem args_of_isBare (hbare : d.IsBare) {ts : List NamedTables} (h : d.tables = .ok ts) :
    ts.flatMap NamedTables.args = (shownTables ts).map fun s ↦ s.2.serialize := by
  obtain ⟨⟨groups, current⟩, rfl, hnames⟩ := names_of_isBare hbare h
  rcases hnames with hnames | hnames
  · obtain rfl : groups = [] := List.map_eq_nil_iff.1 hnames
    rfl
  · obtain ⟨⟨name, table⟩, rfl, hname⟩ := List.map_eq_singleton_iff.1 hnames
    obtain rfl : name = "" := hname
    cases hempty : table.isEmpty with
    | true => simp [shownTables, NamedTables.args, NamedTables.groupArgs, hempty]
    | false => simp [shownTables, NamedTables.args, NamedTables.groupArgs, hempty]

/-- A table without a name is in no pair. -/
theorem shownTables_eq_nil_of_isBare (hgroups : d.groups? = some groups) (hbare : d.IsBare)
    {ts : List NamedTables} (h : d.tables = .ok ts) (hpairs : InPairs groups ts ws) :
    shownTables ts = [] := by
  obtain ⟨t, rfl, hnames⟩ := names_of_isBare hbare h
  rw [List.eq_nil_iff_forall_not_mem]
  intro s hs
  have hgroup : s.1 ∈ groups := hpairs.1.subset (List.mem_map_of_mem hs)
  have hname : s.1 ∈ t.names := by
    rw [shownTables, List.flatMap_singleton] at hs
    exact List.mem_map_of_mem (List.mem_filter.1 hs).1
  have hempty : s.1 = "" := by
    rcases hnames with hnames | hnames
    · simp [hnames] at hname
    · simpa [hnames] using hname
  exact (nodup_of_groups? hgroups).2 (hempty ▸ hgroup)

/-- The arguments of a device with fixed groups are pairs: the flag of one of the groups that its
kind declares and the text of the table of that group, in the order of the groups and for each table
with something in it. The exception are block nodes of any driver that have neither a driver nor any
options: whatever they write stands there without a flag. -/
theorem args_inPairs_iff (hgroups : d.groups? = some groups) (h : d.args = .ok ws) :
    ∃ ts, d.tables = .ok ts ∧ (InPairs groups ts ws ↔ ¬(d.IsBare ∧ ws ≠ [])) ∧
      (d.IsBare → ws = (shownTables ts).map fun s ↦ s.2.serialize) := by
  have hfixed : d.isFixed = false := by
    cases d <;> cases hgroups <;> rfl
  rw [args_eq_tables_map hfixed] at h
  cases hts : d.tables with
  | error e => simp [hts, Except.map] at h
  | ok ts =>
    obtain rfl : ts.flatMap NamedTables.args = ws := by
      rw [hts] at h
      exact Except.ok.inj h
    have hbareArgs : d.IsBare → ts.flatMap NamedTables.args =
        (shownTables ts).map fun s ↦ s.2.serialize := fun hbare ↦ args_of_isBare hbare hts
    refine ⟨ts, rfl, ⟨?_, ?_⟩, hbareArgs⟩
    · rintro hpairs ⟨hbare, hne⟩
      rw [hbareArgs hbare, shownTables_eq_nil_of_isBare hgroups hbare hts hpairs] at hne
      exact hne rfl
    · intro hnot
      by_cases hbare : d.IsBare
      · -- a bare node that writes nothing has nothing to pair
        have hnil : ts.flatMap NamedTables.args = [] := by
          by_contra hne
          exact hnot ⟨hbare, hne⟩
        have hshown : shownTables ts = [] := by
          rw [hbareArgs hbare] at hnil
          exact List.map_eq_nil_iff.1 hnil
        rw [hnil, InPairs, hshown]
        exact ⟨List.nil_sublist _, rfl⟩
      · exact inPairs_of_args hgroups hbare hts

/-- A TPM whose channel is descriptor 3. -/
def sampleTpm : Device :=
  tpm { conduit := { name := "tpm0-ctrl", guest := (Handle.guestEnd "tpm0-ctrl").withIndex 3 }
        backend := { name := "tpm0", chardev := ⟨"tpm0-ctrl"⟩ } }

theorem sampleTpm_inPairs : ∃ ts, sampleTpm.tables = .ok ts ∧ InPairs ["chardev", "tpmdev"] ts
    ["-chardev", "socket,id=tpm0-ctrl,fd=3", "-tpmdev", "emulator,id=tpm0,chardev=tpm0-ctrl"] := by
  obtain ⟨ts, hts, hiff, -⟩ := args_inPairs_iff (d := sampleTpm) rfl (by rfl)
  exact ⟨ts, hts, hiff.2 fun h ↦ h.1⟩

/-- A block node with one property and nothing else. -/
def bareNode : Device :=
  genericNode { properties := [("a", .whole 1)] }

/-- What a bare node writes is no pair of a flag and a table. -/
theorem bareNode_not_inPairs : bareNode.groups? = some ["blockdev"] ∧
    bareNode.args = .ok ["a=1"] ∧ ¬∃ ts, InPairs ["blockdev"] ts ["a=1"] := by
  refine ⟨rfl, by rfl, ?_⟩
  rintro ⟨ts, -, hpairs⟩
  have hlength : 1 = (shownTables ts).length * 2 := by
    have := congrArg List.length hpairs
    simpa [List.length_flatMap] using this
  omega

end Device

end MachineArgs
