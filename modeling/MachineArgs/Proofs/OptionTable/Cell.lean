import Mathlib.Data.List.Induction
import MachineArgs.Proofs.OptionTable.WellFormed

/-!
# Tables of cells

A *cell* is a key, or none, with the text that is to be written there, or none. Most tables are
written cell by cell with a key for each: then no edit meets a slot of an earlier one, and the slots
that the window shows are those of the cells in order (`visible_ofCells`). So whether a table has a
slot can be read off the cells.
-/

namespace MachineArgs

open OptionTable (Edit)

/-- A key, or none, and the text to write there, or none. -/
structure Cell where
  /-- The key; without one the text is written bare. -/
  key? : Option String
  /-- The text; without one nothing is written. -/
  text? : Option String

/-- The slot of a text under a key, or bare. -/
def Slot.ofKey (key? : Option String) (s : String) : Slot :=
  match key? with
  | some key => .keyed key s
  | none => .bare s

namespace Cell

/-- The edit that writes a cell, if there is anything to write. -/
def edit? (c : Cell) : Option Edit :=
  c.text?.map (Edit.write c.key?)

/-- The slot of a cell, if there is anything to write. -/
def slot? (c : Cell) : Option Slot :=
  c.text?.map (Slot.ofKey c.key?)

end Cell

namespace OptionTable

/-- The table that is written cell by cell. -/
def ofCells (cells : List Cell) : OptionTable :=
  empty.edits (cells.filterMap Cell.edit?)

theorem edits_concat (t : OptionTable) (es : List Edit) (e : Edit) :
    t.edits (es ++ [e]) = (t.edits es).edit e := by
  rw [edits, List.foldl_append]
  rfl

namespace WellFormed

variable {t : OptionTable}

/-- Without padding the window shows every slot. -/
theorem visible_eq_slots (h : t.WellFormed) (hpadding : Slot.padding ∉ t.slots) :
    t.visible = t.slots := by
  rw [visible]
  cases hs : t.start with
  | none => exact (h.start_eq_none_iff.1 hs).symm
  | some s =>
    have hzero : s = 0 := by
      rcases Nat.eq_zero_or_pos s with hzero | hpos
      · exact hzero
      · exact absurd (List.mem_of_getElem? (h.padding_of_lt hs hpos)) hpadding
    rw [hzero]
    rfl

/-- A key has no owner if no slot has the key. -/
theorem owner?_eq_none (h : t.WellFormed) {k : String} (hk : ∀ v, Slot.keyed k v ∉ t.slots) :
    t.owner? k = none := by
  cases ho : t.owner? k with
  | none => rfl
  | some i =>
    obtain ⟨v, hv⟩ := h.slot_of_owner? ho
    exact absurd (List.mem_of_getElem? hv) (hk v)

/-- A value is written into a slot of its own if no slot has its key. -/
theorem slots_write (h : t.WellFormed) {key? : Option String} (s : String)
    (hkey : ∀ k v, key? = some k → Slot.keyed k v ∉ t.slots) :
    (t.edit (Edit.write key? s)).slots = t.slots ++ [.ofKey key? s] := by
  cases key? with
  | none => rfl
  | some k =>
    have ho := h.owner?_eq_none fun v ↦ hkey k v rfl
    show (t.setKeyed k s).slots = t.slots ++ [.keyed k s]
    rw [setKeyed_eq_addKeyed ho, slots_addKeyed]

end WellFormed

theorem wellFormed_ofCells (cells : List Cell) : (ofCells cells).WellFormed :=
  wellFormed_empty.edits _

/-- A keyed slot comes from a cell with that key. -/
theorem mem_key?_of_mem_slot? {cells : List Cell} {k v : String}
    (h : Slot.keyed k v ∈ cells.filterMap Cell.slot?) : k ∈ cells.filterMap Cell.key? := by
  obtain ⟨c, hc, hslot⟩ := List.mem_filterMap.1 h
  obtain ⟨s, -, hs⟩ := Option.map_eq_some_iff.1 hslot
  refine List.mem_filterMap.2 ⟨c, hc, ?_⟩
  cases hkey : c.key? with
  | none => simp [Slot.ofKey, hkey] at hs
  | some k' =>
    obtain ⟨rfl, -⟩ : k' = k ∧ s = v := by simpa [Slot.ofKey, hkey] using hs
    rfl

theorem slots_ofCells {cells : List Cell} (h : (cells.filterMap Cell.key?).Nodup) :
    (ofCells cells).slots = cells.filterMap Cell.slot? := by
  -- from the right: the last cell meets the slots of all the others
  induction cells using List.reverseRecOn with
  | nil => rfl
  | append_singleton cells c ih =>
    rw [List.filterMap_append, List.nodup_append] at h
    have hslots := ih h.1
    cases htext : c.text? with
    | none => simpa [ofCells, Cell.edit?, Cell.slot?, htext] using hslots
    | some s =>
      have hkey : ∀ k v, c.key? = some k → Slot.keyed k v ∉ (ofCells cells).slots := by
        intro k v hk hmem
        rw [hslots] at hmem
        exact h.2.2 k (mem_key?_of_mem_slot? hmem) k (by simp [hk]) rfl
      have hedit : ofCells (cells ++ [c]) = (ofCells cells).edit (Edit.write c.key? s) := by
        rw [ofCells, List.filterMap_append, show [c].filterMap Cell.edit? = [Edit.write c.key? s] by
          simp [Cell.edit?, htext], edits_concat]
        rfl
      rw [hedit, (wellFormed_ofCells cells).slots_write s hkey, hslots, List.filterMap_append]
      simp [Cell.slot?, htext]

theorem padding_notMem_slots_ofCells {cells : List Cell} (h : (cells.filterMap Cell.key?).Nodup) :
    Slot.padding ∉ (ofCells cells).slots := by
  rw [slots_ofCells h, List.mem_filterMap]
  rintro ⟨c, -, hslot⟩
  obtain ⟨s, -, hs⟩ := Option.map_eq_some_iff.1 hslot
  cases hkey : c.key? <;> simp [Slot.ofKey, hkey] at hs

/-- If no key is written twice, the window shows the slots of the cells in order. -/
theorem visible_ofCells {cells : List Cell} (h : (cells.filterMap Cell.key?).Nodup) :
    (ofCells cells).visible = cells.filterMap Cell.slot? := by
  rw [(wellFormed_ofCells cells).visible_eq_slots (padding_notMem_slots_ofCells h), slots_ofCells h]

theorem slots_addAll (t : OptionTable) (key : String) (values : List String) :
    (t.edits (values.map (Edit.addKeyed key))).slots = t.slots ++ values.map (Slot.keyed key) := by
  induction values generalizing t with
  | nil => simp
  | cons value values ih =>
    rw [List.map_cons, edits_cons, ih]
    show (t.addKeyed key value).slots ++ _ = _
    rw [slots_addKeyed, List.append_assoc]
    rfl

/-- Further values of a key follow the slots of the cells, each in a slot of its own. -/
theorem visible_addAll {cells : List Cell} (h : (cells.filterMap Cell.key?).Nodup) (key : String)
    (values : List String) :
    ((ofCells cells).edits (values.map (Edit.addKeyed key))).visible =
      cells.filterMap Cell.slot? ++ values.map (Slot.keyed key) := by
  rw [((wellFormed_ofCells cells).edits _).visible_eq_slots, slots_addAll, slots_ofCells h]
  rw [slots_addAll, List.mem_append]
  rintro (hmem | hmem)
  · exact padding_notMem_slots_ofCells h hmem
  · simp at hmem

end OptionTable

end MachineArgs
