import MachineArgs.Proofs.Device.Flags
import MachineArgs.Proofs.Device.Slots
import MachineArgs.Proofs.Encoding.Recovery

/-!
# Block nodes are told by their arguments

The arguments of a file node, a raw node or a qcow2 node are one table, of the cells of its record.
A table without commas in its slots can be read back (`OptionTable.serialize_eq_serialize_iff`), so
two nodes of one format with the same arguments fill the same slots. Their keys are all different:
those of the options, which every format shares, and those behind them. Hence a slot belongs to one
field, and a field without a slot was absent or left at a zero that is never written
(`LegibleSettings.eq_of_args_eq`).

What a field writes tells its value. An option that is given always has a slot, even if it is off,
zero or empty, so it is not taken for one that is absent; of a setting that is no option only the
zero has none. A handle is written as the path of its number, and the rest of it is not written at
all: `Device.numbersOnly_eq_of_args` compares nodes up to that.
-/

namespace MachineArgs

open Handle (pathOf)

/-! ### Settings -/

instance : LegibleValue DiscardMode :=
  ⟨fun mode ↦ Value.isLegible_of_scalarText? rfl (by cases mode <;> decide)⟩

instance : LegibleValue ZeroDetection :=
  ⟨fun detection ↦ Value.isLegible_of_scalarText? rfl (by cases detection <;> decide)⟩

instance : LegibleValue AsyncEngine :=
  ⟨fun engine ↦ Value.isLegible_of_scalarText? rfl (by cases engine <;> decide)⟩

instance : ScalarValue DiscardMode :=
  .of_text DiscardMode.text "" (fun _ ↦ rfl) (fun _ h ↦ String.isEmpty_iff.1 h) fun a b h ↦ by
    cases a <;> cases b <;> revert h <;> decide

instance : ScalarValue ZeroDetection :=
  .of_text ZeroDetection.text "" (fun _ ↦ rfl) (fun _ h ↦ String.isEmpty_iff.1 h) fun a b h ↦ by
    cases a <;> cases b <;> revert h <;> decide

instance : ScalarValue AsyncEngine :=
  .of_text AsyncEngine.text "" (fun _ ↦ rfl) (fun _ h ↦ String.isEmpty_iff.1 h) fun a b h ↦ by
    cases a <;> cases b <;> revert h <;> decide

instance : ScalarValue Reference :=
  .of_text Reference.name "" (fun _ ↦ rfl) (fun _ h ↦ String.isEmpty_iff.1 h) fun a b h ↦ by
    cases a
    cases b
    exact congrArg Reference.mk h

theorem isLegible_reference {r : Reference} (h : ',' ∉ r.name.toList) :
    (toValue r : Value).IsLegible :=
  Value.isLegible_of_scalarText? rfl h

/-! ### Nodes of any format -/

/-- The strings and references among the settings of a block node with a format. -/
def Device.settingTexts : Device → List String
  | fileNode n => [n.options.name]
  | rawNode n => [n.options.name, n.file.name]
  | qcow2Node n =>
    [n.options.name, n.file.name, n.overlapCheck] ++ n.backing.toList.map Reference.name
  | _ => []

/-- A device whose strings and references can be read where they are written. -/
def Device.HasLegibleTexts (d : Device) : Prop :=
  ∀ s ∈ d.settingTexts, ',' ∉ s.toList

namespace NodeOptions

/-- The values that every block node starts with. -/
def values (driver : String) (o : NodeOptions) : List Value :=
  [toValue driver, toValue o.name, toValue o.readOnly, toValue o.autoReadOnly,
   toValue o.forceShare, toValue o.cacheDirect, toValue o.cacheNoFlush, toValue o.discard,
   toValue o.detectZeroes]

variable {driver : String} {o o' : NodeOptions}

theorem isLegible_of_mem_values (hdriver : ',' ∉ driver.toList) (hname : ',' ∉ o.name.toList) :
    ∀ v ∈ o.values driver, v.IsLegible := by
  simp only [values, List.forall_mem_cons]
  exact ⟨isLegible_string hdriver, isLegible_string hname, LegibleValue.isLegible _,
    LegibleValue.isLegible _, LegibleValue.isLegible _, LegibleValue.isLegible _,
    LegibleValue.isLegible _, LegibleValue.isLegible _, LegibleValue.isLegible _,
    List.forall_mem_nil _⟩

/-- A driver is written, so the options of its node are not zero. -/
theorem areZero_values (hdriver : driver ≠ "") : Value.areZero (o.values driver) = false := by
  have hstring : driver.isEmpty = false := by simpa using hdriver
  show (driver.isEmpty && _) = false
  rw [hstring, Bool.false_and]

theorem isLegibleKey : ∀ key ∈ keys, IsLegibleKey key := by
  decide

/-- The cells of the options tell each option. -/
theorem eq_of_cells_eq (h : List.zipWith Field.cell schema.fields (o.values driver) =
    List.zipWith Field.cell schema.fields (o'.values driver)) : o = o' := by
  simp only [schema, Schema.fields, List.filterMap, Entry.field?, values, List.zipWith_cons_cons,
    List.cons.injEq] at h
  obtain ⟨-, hname, hreadOnly, hautoReadOnly, hforceShare, hcacheDirect, hcacheNoFlush, hdiscard,
    hdetectZeroes, -⟩ := h
  cases o
  cases o'
  rw [NodeOptions.mk.injEq]
  exact ⟨DistinctValue.eq_of_cell_eq rfl hname, DistinctValue.eq_of_cell_eq rfl hreadOnly,
    DistinctValue.eq_of_cell_eq rfl hautoReadOnly, DistinctValue.eq_of_cell_eq rfl hforceShare,
    DistinctValue.eq_of_cell_eq rfl hcacheDirect, DistinctValue.eq_of_cell_eq rfl hcacheNoFlush,
    DistinctValue.eq_of_cell_eq rfl hdiscard, DistinctValue.eq_of_cell_eq rfl hdetectZeroes⟩

end NodeOptions

/-- Entries that a kind of block node has behind its options: fields in the same group, with keys of
their own that show where they end. -/
structure FurtherEntries (entries : List Entry) (keys : List String) : Prop where
  /-- No entry selects a group. -/
  quiet : entries.all Entry.isQuiet = true
  /-- The keys are those of the fields. -/
  keys_eq : (entries.filterMap Entry.field?).map Field.key? = keys.map some
  /-- No key is used twice. -/
  nodup : (NodeOptions.keys ++ keys).Nodup
  /-- The keys show where they end. -/
  legible : ∀ key ∈ keys, IsLegibleKey key

/-- The record of a block node of some format. -/
def nodeRecord (name driver : String) (entries : List Entry) (o : NodeOptions)
    (values : List Value) : Value :=
  .record ⟨name, .field (.embedded "options") :: entries⟩ (o.valueFor driver :: values)

/-- Settings of a block node without commas: its options and the values of its further fields. -/
structure LegibleSettings (entries : List Entry) (o : NodeOptions) (values : List Value) :
    Prop where
  /-- There is a value for each field. -/
  length_eq : (entries.filterMap Entry.field?).length = values.length
  /-- The name of the node has no comma. -/
  name : ',' ∉ o.name.toList
  /-- The other values have no commas. -/
  values : ∀ v ∈ values, v.IsLegible

section Nodes

variable {name driver : String} {entries : List Entry} {keys : List String}
  {o o' : NodeOptions} {values values' : List Value}

theorem LegibleSettings.leads (h : LegibleSettings entries o values)
    (hentries : FurtherEntries entries keys) (hdriver : driver ≠ "") :
    Leads "blockdev" (nodeRecord name driver entries o values) := by
  exact .embedded (NodeOptions.areZero_values hdriver) hentries.quiet
    (areSheets_of_forall_isPlain h.length_eq fun v hv d ↦ (h.values v hv d).1)
    (NodeOptions.leads_valueFor driver o)

/-- A node with legible settings has one cell for each field. -/
theorem LegibleSettings.cells_eq (h : LegibleSettings entries o values) (hdriver : driver ≠ "")
    (hcomma : ',' ∉ driver.toList) :
    (nodeRecord name driver entries o values).cells =
      List.zipWith Field.cell NodeOptions.schema.fields (o.values driver) ++
        List.zipWith Field.cell (entries.filterMap Entry.field?) values := by
  rw [← cellsOf_eq_zipWith fun v hv d ↦
      (NodeOptions.isLegible_of_mem_values hcomma h.name v hv d).1,
    ← cellsOf_eq_zipWith fun v hv d ↦ (h.values v hv d).1]
  exact cells_embedded (NodeOptions.areZero_values hdriver)

/-- Two nodes of one format with the same arguments have the same options, and each further field is
written alike. -/
theorem LegibleSettings.eq_of_args_eq (h : LegibleSettings entries o values)
    (h' : LegibleSettings entries o' values') (hentries : FurtherEntries entries keys)
    (hdriver : driver ≠ "") (hcomma : ',' ∉ driver.toList)
    (heq : (nodeRecord name driver entries o values).args none =
      (nodeRecord name driver entries o' values').args none) :
    o = o' ∧ List.zipWith Field.cell (entries.filterMap Entry.field?) values =
      List.zipWith Field.cell (entries.filterMap Entry.field?) values' := by
  have hkeys : ∀ {o : NodeOptions} {values : List Value}, LegibleSettings entries o values →
      (nodeRecord name driver entries o values).cells.map Cell.key? =
        (NodeOptions.keys ++ keys).map some := by
    intro o values h
    rw [h.cells_eq hdriver hcomma, List.map_append, map_key?_zipWith_cell h.length_eq,
      hentries.keys_eq, List.map_append]
    rfl
  have hcells : ∀ {o : NodeOptions} {values : List Value}, LegibleSettings entries o values →
      ∀ c ∈ (nodeRecord name driver entries o values).cells, c.IsLegible := by
    intro o values h
    rw [h.cells_eq hdriver hcomma, List.forall_mem_append]
    exact ⟨isLegible_of_mem_zipWith NodeOptions.keys_eq NodeOptions.isLegibleKey
        (NodeOptions.isLegible_of_mem_values hcomma h.name),
      isLegible_of_mem_zipWith hentries.keys_eq hentries.legible h.values⟩
  have hall := (h.leads hentries hdriver).cells_eq_of_args_eq (h'.leads hentries hdriver)
    hentries.nodup (hkeys h) (hkeys h') (hcells h) (hcells h') heq
  rw [h.cells_eq hdriver hcomma, h'.cells_eq hdriver hcomma] at hall
  obtain ⟨hoptions, hfurther⟩ := List.append_inj hall rfl
  exact ⟨NodeOptions.eq_of_cells_eq hoptions, hfurther⟩

end Nodes

/-! ### File nodes -/

/-- The path of a descriptor tells its number. -/
theorem pathOf_injective : Function.Injective pathOf := fun _ _ h ↦
  toString_nat_injective ((String.append_right_inj _).1 h)

theorem comma_notMem_pathOf (index : Nat) : ',' ∉ (pathOf index).toList := by
  rw [pathOf, String.toList_append, List.mem_append]
  rintro (h | h)
  · revert h
    decide
  · exact comma_notMem_toString index h

namespace FileNode

/-- The entries of a file node behind its options. -/
def furtherEntries : List Entry :=
  schema.entries.tail

/-- The values of a file node behind its options. -/
def furtherValues (n : FileNode) : List Value :=
  [toValue n.file, toValue n.engine, toValue n.locking]

theorem toValue_eq (n : FileNode) :
    (toValue n : Value) = nodeRecord schema.name "file" furtherEntries n.options n.furtherValues :=
  rfl

theorem further : FurtherEntries furtherEntries ["filename", "aio", "locking"] :=
  ⟨rfl, rfl, by decide, by decide⟩

variable {n n' : FileNode} {index index' : Nat}

theorem legibleSettings (hindex : n.file.index = some index)
    (h : (Device.fileNode n).HasLegibleTexts) :
    LegibleSettings furtherEntries n.options n.furtherValues where
  length_eq := rfl
  name := h _ List.mem_cons_self
  values := by
    have hpath : (toValue n.file : Value).scalarText? = some (pathOf index) := by
      show n.file.path? = _
      rw [Handle.path?, hindex]
      rfl
    simp only [furtherValues, List.forall_mem_cons]
    exact ⟨Value.isLegible_of_scalarText? hpath (comma_notMem_pathOf index),
      LegibleValue.isLegible _, LegibleValue.isLegible _, List.forall_mem_nil _⟩

/-- File nodes with the same arguments differ at most in what else is known about their handles than
the numbers. -/
theorem eq_of_args_eq (hindex : n.file.index = some index) (hindex' : n'.file.index = some index')
    (h : (Device.fileNode n).HasLegibleTexts) (h' : (Device.fileNode n').HasLegibleTexts)
    (heq : (toValue n : Value).args none = (toValue n' : Value).args none) :
    n.options = n'.options ∧ n.file.index = n'.file.index ∧ n.engine = n'.engine ∧
      n.locking = n'.locking := by
  rw [toValue_eq, toValue_eq] at heq
  obtain ⟨hoptions, hfurther⟩ := (legibleSettings hindex h).eq_of_args_eq
    (legibleSettings hindex' h') further (by decide) (by decide) heq
  simp only [furtherEntries, furtherValues, schema, List.tail_cons, List.filterMap, Entry.field?,
    List.zipWith_cons_cons, List.cons.injEq] at hfurther
  obtain ⟨hfile, hengine, hlocking, -⟩ := hfurther
  have hpath : n.file.path? = n'.file.path? := congrArg Cell.text? hfile
  rw [Handle.path?, Handle.path?, hindex, hindex'] at hpath
  rw [hindex, hindex', pathOf_injective (Option.some.inj hpath)]
  exact ⟨hoptions, rfl, DistinctValue.eq_of_cell_eq rfl hengine,
    DistinctValue.eq_of_cell_eq rfl hlocking⟩

end FileNode

/-! ### Format nodes -/

namespace RawNode

/-- The entries of a raw node behind its options. -/
def furtherEntries : List Entry :=
  schema.entries.tail

/-- The values of a raw node behind its options. -/
def furtherValues (n : RawNode) : List Value :=
  [toValue n.file, toValue n.offset, toValue n.size]

theorem toValue_eq (n : RawNode) :
    (toValue n : Value) = nodeRecord schema.name "raw" furtherEntries n.options n.furtherValues :=
  rfl

theorem further : FurtherEntries furtherEntries ["file", "offset", "size"] :=
  ⟨rfl, rfl, by decide, by decide⟩

variable {n n' : RawNode}

theorem legibleSettings (h : (Device.rawNode n).HasLegibleTexts) :
    LegibleSettings furtherEntries n.options n.furtherValues where
  length_eq := rfl
  name := h _ (by simp [Device.settingTexts])
  values := by
    have hfile : ',' ∉ n.file.name.toList := h _ (by simp [Device.settingTexts])
    simp only [furtherValues, List.forall_mem_cons]
    exact ⟨isLegible_reference hfile, LegibleValue.isLegible _, LegibleValue.isLegible _,
      List.forall_mem_nil _⟩

/-- Raw nodes with the same arguments are the same. -/
theorem eq_of_args_eq (h : (Device.rawNode n).HasLegibleTexts)
    (h' : (Device.rawNode n').HasLegibleTexts)
    (heq : (toValue n : Value).args none = (toValue n' : Value).args none) : n = n' := by
  rw [toValue_eq, toValue_eq] at heq
  obtain ⟨hoptions, hfurther⟩ := (legibleSettings h).eq_of_args_eq (legibleSettings h') further
    (by decide) (by decide) heq
  simp only [furtherEntries, furtherValues, schema, List.tail_cons, List.filterMap, Entry.field?,
    List.zipWith_cons_cons, List.cons.injEq] at hfurther
  obtain ⟨hfile, hoffset, hsize, -⟩ := hfurther
  cases n
  cases n'
  rw [RawNode.mk.injEq]
  exact ⟨hoptions, DistinctValue.eq_of_cell_eq rfl hfile, DistinctValue.eq_of_cell_eq rfl hoffset,
    DistinctValue.eq_of_cell_eq rfl hsize⟩

end RawNode

namespace Qcow2Node

/-- The entries of a qcow2 node behind its options. -/
def furtherEntries : List Entry :=
  schema.entries.tail

/-- The values of a qcow2 node behind its options. -/
def furtherValues (n : Qcow2Node) : List Value :=
  [toValue n.file, toValue n.backing, toValue n.lazyRefcounts, toValue n.cacheSize,
   toValue n.l2CacheSize, toValue n.l2CacheEntrySize, toValue n.refcountCacheSize,
   toValue n.cacheCleanInterval, toValue n.passDiscardRequest, toValue n.passDiscardSnapshot,
   toValue n.passDiscardOther, toValue n.overlapCheck]

theorem toValue_eq (n : Qcow2Node) :
    (toValue n : Value) =
      nodeRecord schema.name "qcow2" furtherEntries n.options n.furtherValues :=
  rfl

theorem further : FurtherEntries furtherEntries ("file" :: furtherKeys) :=
  ⟨rfl, rfl, by decide, by decide⟩

variable {n n' : Qcow2Node}

theorem legibleSettings (h : (Device.qcow2Node n).HasLegibleTexts) :
    LegibleSettings furtherEntries n.options n.furtherValues where
  length_eq := rfl
  name := h _ (by simp [Device.settingTexts])
  values := by
    have hfile : ',' ∉ n.file.name.toList := h _ (by simp [Device.settingTexts])
    have hcheck : ',' ∉ n.overlapCheck.toList := h _ (by simp [Device.settingTexts])
    have hbacking : ∀ r ∈ n.backing, ',' ∉ r.name.toList := fun r hr ↦
      h _ (List.mem_append_right _ (List.mem_map_of_mem (Option.mem_toList.2 hr)))
    simp only [furtherValues, List.forall_mem_cons]
    exact ⟨isLegible_reference hfile,
      isLegible_option fun r hr ↦ isLegible_reference (hbacking r hr),
      LegibleValue.isLegible _, LegibleValue.isLegible _, LegibleValue.isLegible _,
      LegibleValue.isLegible _, LegibleValue.isLegible _, LegibleValue.isLegible _,
      LegibleValue.isLegible _, LegibleValue.isLegible _, LegibleValue.isLegible _,
      isLegible_string hcheck, List.forall_mem_nil _⟩

/-- Qcow2 nodes with the same arguments are the same. -/
theorem eq_of_args_eq (h : (Device.qcow2Node n).HasLegibleTexts)
    (h' : (Device.qcow2Node n').HasLegibleTexts)
    (heq : (toValue n : Value).args none = (toValue n' : Value).args none) : n = n' := by
  rw [toValue_eq, toValue_eq] at heq
  obtain ⟨hoptions, hfurther⟩ := (legibleSettings h).eq_of_args_eq (legibleSettings h') further
    (by decide) (by decide) heq
  simp only [furtherEntries, furtherValues, schema, List.tail_cons, List.filterMap, Entry.field?,
    List.zipWith_cons_cons, List.cons.injEq] at hfurther
  obtain ⟨hfile, hbacking, hlazy, hcache, hl2, hl2Entry, hrefcount, hclean, hrequest, hsnapshot,
    hother, hcheck, -⟩ := hfurther
  cases n
  cases n'
  rw [Qcow2Node.mk.injEq]
  exact ⟨hoptions, DistinctValue.eq_of_cell_eq rfl hfile, DistinctValue.eq_of_cell_eq rfl hbacking,
    DistinctValue.eq_of_cell_eq rfl hlazy, DistinctValue.eq_of_cell_eq rfl hcache,
    DistinctValue.eq_of_cell_eq rfl hl2, DistinctValue.eq_of_cell_eq rfl hl2Entry,
    DistinctValue.eq_of_cell_eq rfl hrefcount, DistinctValue.eq_of_cell_eq rfl hclean,
    DistinctValue.eq_of_cell_eq rfl hrequest, DistinctValue.eq_of_cell_eq rfl hsnapshot,
    DistinctValue.eq_of_cell_eq rfl hother, DistinctValue.eq_of_cell_eq rfl hcheck⟩

end Qcow2Node

/-! ### Two nodes -/

/-- What is known about a handle from its number alone. -/
def Handle.numberOnly (h : Handle) : Handle :=
  { name := "", resource := .descriptor, index := h.index }

namespace Device

/-- Two file nodes, two raw nodes or two qcow2 nodes. -/
inductive SameFormat : Device → Device → Prop where
  /-- Two file nodes. -/
  | file (n n' : FileNode) : SameFormat (fileNode n) (fileNode n')
  /-- Two raw nodes. -/
  | raw (n n' : RawNode) : SameFormat (rawNode n) (rawNode n')
  /-- Two qcow2 nodes. -/
  | qcow2 (n n' : Qcow2Node) : SameFormat (qcow2Node n) (qcow2Node n')

/-- The device with handles about which nothing is known but their numbers. -/
def numbersOnly (d : Device) : Device :=
  d.mapHandles fun _ h ↦ h.numberOnly

/-- A file node with arguments has a number for its file. -/
theorem exists_index_of_args {n : FileNode} {ws : List String} (h : (fileNode n).args = .ok ws) :
    ∃ index, n.file.index = some index := by
  obtain ⟨t, ht, -⟩ := bind_eq_ok.1 (show (toValue n : Value).args none = _ from h)
  obtain ⟨es, hes, -⟩ := bind_eq_ok.1 ht
  have hpath : n.file.path?.isSome := isSome_path?_of_value? (d := fileNode n) rfl hes n.file
    List.mem_cons_self
  rwa [Handle.path?, Option.isSome_map, Option.isSome_iff_exists] at hpath

/-- The arguments of a block node with a format tell all its settings, if none of its texts has a
comma: of two nodes of one format with the same arguments every setting is the same, and the number
of the file if there is one. So an option that is absent is not taken for one that is off, zero or
empty. -/
theorem numbersOnly_eq_of_args {d d' : Device} {ws : List String} (hformat : SameFormat d d')
    (h : d.HasLegibleTexts) (h' : d'.HasLegibleTexts) (hargs : d.args = .ok ws)
    (hargs' : d'.args = .ok ws) : d.numbersOnly = d'.numbersOnly := by
  have heq : d.args = d'.args := hargs.trans hargs'.symm
  cases hformat with
  | file n n' =>
    obtain ⟨index, hindex⟩ := exists_index_of_args hargs
    obtain ⟨index', hindex'⟩ := exists_index_of_args hargs'
    obtain ⟨hoptions, hnumber, hengine, hlocking⟩ :=
      FileNode.eq_of_args_eq hindex hindex' h h' heq
    simp only [numbersOnly, mapHandles, Handle.numberOnly, hoptions, hnumber, hengine, hlocking]
  | raw n n' => rw [RawNode.eq_of_args_eq h h' heq]
  | qcow2 n n' => rw [Qcow2Node.eq_of_args_eq h h' heq]

/-- A node that reads a file under the third number, with locking off. -/
def lockless (h : Handle) : Device :=
  fileNode { options := { name := "disk0" }, file := h.withIndex 3, locking := some false }

/-- A disk and its copy, open under the same number, are written alike. -/
theorem lockless_numbersOnly :
    let ws := ["-blockdev", "driver=file,node-name=disk0,filename=/dev/fd/3,locking=off"]
    let d := lockless (.ofFile "disk" "/disk.img")
    let d' := lockless (.ofFile "copy" "/copy.img")
    d.args = .ok ws ∧ d'.args = .ok ws ∧ d.numbersOnly = d'.numbersOnly := by
  intro ws d d'
  have hargs : d.args = .ok ws := by rfl
  have hargs' : d'.args = .ok ws := by rfl
  have hlegible : ',' ∉ "disk0".toList := by decide
  have htexts : ∀ h : Handle, (lockless h).HasLegibleTexts := fun _ ↦
    List.forall_mem_singleton.2 hlegible
  exact ⟨hargs, hargs', numbersOnly_eq_of_args (.file _ _) (htexts _) (htexts _) hargs hargs'⟩

end Device

end MachineArgs
