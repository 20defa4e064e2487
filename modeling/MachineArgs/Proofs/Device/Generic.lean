import MachineArgs.Proofs.Device.Failure
import MachineArgs.Proofs.Device.Identity
import MachineArgs.Proofs.OptionTable.Settled

/-!
# Generic devices

A generic device has any option group, bare arguments and free-form properties, and nothing else is
known about it. `GenericDevice.args_eq_ok_iff_words` says which of them have a table and arguments,
and what these are.

* There are a table and arguments exactly if the properties have a rendering.
* The table has a slot for each bare argument, in order, and then one for each key among the leaves
  of the properties. The slot of a key stands where its first leaf stands and has the text of its
  last one, since a leaf that repeats a key is set in the slot of the key.
* Without slots there is nothing to write, and without an option the table stands alone.

The device is encoded as writes to one table (`GenericDevice.emissions_eq`), and the slots after
such writes are settled by them (`OptionTable.isSettled_edits`).
-/

namespace MachineArgs

open OptionTable (Write settledSlots)

/-! ### Writes to one table -/

namespace OptionTable

/-- Bare values in front stay in front, and settle no other slot differently. -/
theorem settledSlots_bare_append (values : List String) (ws : List Write) :
    settledSlots (values.map (Write.mk none) ++ ws) =
      values.map Slot.bare ++ settledSlots ws := by
  induction values with
  | nil => rfl
  | cons value values ih =>
    rw [List.map_cons, List.cons_append, List.map_cons, List.cons_append, ← ih]
    generalize values.map (Write.mk none) ++ ws = ws'
    have hfirsts : (Write.firsts ws').filter (fun w ↦ !w.repeats ⟨none, value⟩) =
        Write.firsts ws' := by
      refine List.filter_eq_self.2 fun w _ ↦ ?_
      cases hkey : w.key? <;> simp [Write.repeats, hkey]
    have hsettled : Write.settled (⟨none, value⟩ :: ws') = Write.settled ws' := by
      funext w
      rw [Write.settled, Write.settled]
      cases w.key? <;> rfl
    rw [settledSlots, Write.firsts, hfirsts, List.map_cons, hsettled]
    rfl

/-- A write as a cell. -/
def Write.cell (w : Write) : Cell where
  key? := w.key?
  text? := some w.value

theorem filterMap_edit?_cells (ws : List Write) :
    (ws.map Write.cell).filterMap Cell.edit? = ws.map Write.edit := by
  rw [List.filterMap_map, ← List.filterMap_eq_map]
  rfl

end OptionTable

namespace GenericDevice

variable {d : GenericDevice}

/-- The leaves of the properties of a device: what is set, and to which text. -/
def leaves (d : GenericDevice) : List (String × String) :=
  (Property.object d.properties).leaves "properties"

/-- The writes of the leaves. -/
def leafWrites (d : GenericDevice) : List Write :=
  d.leaves.map fun leaf ↦ ⟨some leaf.1, leaf.2⟩

/-- The slots of a device: its arguments, and one slot for each key among its leaves, where the
first leaf with the key stands and with the text of the last one. -/
def slots (d : GenericDevice) : List Slot :=
  d.arguments.map Slot.bare ++ settledSlots d.leafWrites

/-- Slots as one argument. -/
def slotText (slots : List Slot) : String :=
  ",".intercalate (slots.filterMap Slot.text?)

/-- The arguments of a device: its slots behind its option, if there are any slots, and without an
option the slots alone. -/
def words (d : GenericDevice) : List String :=
  if d.slots = [] then []
  else if d.option = "" then [slotText d.slots]
  else ["-" ++ d.option, slotText d.slots]

/-- The writes that a device comes to. -/
def writes (d : GenericDevice) : List Write :=
  d.arguments.map (Write.mk none) ++ d.leafWrites

/-- The table of a device, by its writes. -/
def table (d : GenericDevice) : OptionTable :=
  OptionTable.empty.edits (d.writes.map Write.edit)

/-! ### Encoding -/

/-- The writes of a device are emitted one by one. -/
theorem emissions_writes : cellEmissions (d.writes.map Write.cell) =
    d.arguments.map .append ++ d.leaves.map Property.leafEmission := by
  rw [writes, leafWrites, List.map_append, cellEmissions_append, List.map_map, List.map_map,
    cellEmissions, cellEmissions, List.filterMap_map, List.filterMap_map, ← List.filterMap_eq_map,
    ← List.filterMap_eq_map]
  rfl

/-- A device whose properties have a rendering comes to its writes. -/
theorem emissions_eq (h : ¬(Property.object d.properties).Unrenderable) :
    (toValue d : Value).emissions = .ok (cellEmissions (d.writes.map Write.cell)) := by
  have hkey : (Field.plain "properties").key? = some "properties" := by decide
  have harguments := encodeField_strings
    (f := { Field.unnamed "arguments" with repeated := true }) rfl rfl rfl d.arguments
    ["GenericDevice"]
  have hproperties := Property.encodeField_object rfl rfl rfl hkey h ["GenericDevice"]
  have hencoded : (toValue d : Value).emissions =
      encodeEntries ["GenericDevice"] schema.entries
        [((toValue d.arguments : Value).isZero, (toValue d.arguments : Value).encoder),
          ((Property.object d.properties).lower.isZero,
            (Property.object d.properties).lower.encoder)] :=
    Value.emissions_record rfl
  rw [hencoded, schema, encodeEntries, harguments, ok_bind, encodeEntries, hproperties, ok_bind,
    encodeEntries, ok_bind, pure_eq_ok, ok_bind, emissions_writes, List.append_nil]
  rfl

/-! ### The table -/

theorem isSettled_table (d : GenericDevice) : d.table.IsSettled d.writes :=
  OptionTable.isSettled_edits d.writes

theorem slots_table (d : GenericDevice) : d.table.slots = d.slots :=
  d.isSettled_table.slots_eq.trans
    (OptionTable.settledSlots_bare_append d.arguments d.leafWrites)

/-- All slots of a device are shown, and no two have one key. -/
theorem visible_table (d : GenericDevice) :
    d.table.visible = d.slots ∧ (d.slots.filterMap Slot.key?).Nodup :=
  ⟨d.isSettled_table.visible_eq.trans d.slots_table,
    d.slots_table ▸ d.isSettled_table.nodup_keys⟩

/-- There is nothing to write exactly if there are no slots. -/
theorem isEmpty_table (d : GenericDevice) : d.table.isEmpty = true ↔ d.slots = [] := by
  rw [OptionTable.isEmpty, OptionTable.size, OptionTable.parts, d.visible_table.1, beq_iff_eq,
    List.length_eq_zero_iff, List.filterMap_eq_nil_iff]
  constructor
  · -- only padding has no text, and there is none
    refine fun hnone ↦ List.eq_nil_iff_forall_not_mem.2 fun slot hslot ↦ ?_
    have htext := hnone slot hslot
    cases slot with
    | padding => exact d.isSettled_table.padding_notMem (d.slots_table ▸ hslot)
    | bare value => cases htext
    | keyed key value => cases htext
  · intro hnil slot hslot
    rw [hnil] at hslot
    cases hslot

/-- The table is written behind its option if it has slots, and without an option alone. -/
theorem groupArgs_table (d : GenericDevice) :
    NamedTables.groupArgs d.option d.table = d.words := by
  have hserialize : d.table.serialize = slotText d.slots := by
    rw [OptionTable.serialize, OptionTable.parts, d.visible_table.1, slotText]
  rw [NamedTables.groupArgs, words, hserialize]
  simp only [isEmpty_table, String.isEmpty_iff]

/-- A device whose properties have a rendering has one table. -/
theorem tables_eq (h : ¬(Property.object d.properties).Unrenderable) :
    (Device.generic d).tables = .ok [⟨[(d.option, d.table)], some d.option⟩] := by
  have hrun : (NamedTables.initial (some d.option)).run (cellEmissions (d.writes.map Write.cell)) =
      ⟨[(d.option, d.table)], some d.option⟩ := by
    refine (NamedTables.run_cellEmissions d.option .empty _).trans ?_
    rw [OptionTable.filterMap_edit?_cells, table]
  rw [Device.tables_of_value? rfl, Value.tables, emissions_eq h, ok_bind]
  exact congrArg (fun t ↦ Except.ok [t]) hrun

/-- Which generic devices have a table: those whose properties have a rendering. The table has the
slots of the device, no two of them with one key, and the words are the option and the slots. The
leaves are met in the order of the bytes of the keys. -/
theorem args_eq_ok_iff_words (d : GenericDevice) :
    let renders := ¬(Property.object d.properties).Unrenderable
    (∀ ts, (Device.generic d).tables = .ok ts ↔
      renders ∧ ts = [⟨[(d.option, d.table)], some d.option⟩]) ∧
    (d.table.visible = d.slots ∧ (d.slots.filterMap Slot.key?).Nodup) ∧
    (∀ ws, (Device.generic d).args = .ok ws ↔ renders ∧ ws = d.words) ∧
    ∀ entries : List (String × Property),
      (orderEntries entries).Pairwise fun e e' ↦ Text.bytes e.1 < Text.bytes e'.1 := by
  intro renders
  have hrefuses : RefusesIff (Property.object d.properties).Unrenderable
      (Device.generic d).tables := by
    rw [Device.tables_of_value? rfl, Value.tables]
    exact (d.refusesIff.map _).map _
  refine ⟨hrefuses.eq_ok_iff tables_eq, d.visible_table, ?_, pairwise_orderEntries⟩
  rw [Device.args_eq_tables_map rfl]
  refine (hrefuses.map _).eq_ok_iff fun h ↦ ?_
  rw [tables_eq h]
  refine congrArg Except.ok ?_
  rw [List.flatMap_singleton, NamedTables.args, List.flatMap_singleton]
  exact d.groupArgs_table

/-- Inner keys of different objects share a slot, at the first and with the last of their leaves. -/
example : words ⟨"smp", ["4"], [("b", .object [("n", .whole 2), ("m", .null)]),
    ("a", .object [("n", .whole 1), ("z", .boolean true)])]⟩ = ["-smp", "4,n=2,z=on"] := by
  decide +kernel

end GenericDevice

end MachineArgs
