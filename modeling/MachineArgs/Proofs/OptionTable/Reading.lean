import Mathlib.Data.List.Basic
import Mathlib.Data.List.TakeWhile
import MachineArgs.Proofs.OptionTable.WellFormed

/-!
# Reading tables back

Tables are written without quoting, so whether a table can be read back is decided by the characters
in its slots. Whoever reads it cuts the text at commas and each part at its first equals sign
(`OptionTable.read`). That gives back the slots that were written, one for each part, if neither
keys nor bare values have a comma or an equals sign and the other values have no comma
(`Slot.IsLegible`). An equals sign in the value of a key does no harm: the one behind the key comes
first.

What is read back tells tables apart: two tables are written alike exactly if the same slots are
written, whatever became of padding, owners and windows (`serialize_eq_serialize_iff`). Empty tables
have to be left out. Nothing at all is written for them, which reads as one empty bare value.
-/

namespace MachineArgs

/-! ### Slots and parts -/

namespace Slot

/-- A slot whose written form shows where it ends and where its key does. -/
def IsLegible : Slot → Prop
  | padding => True
  | bare value => ',' ∉ value.toList ∧ '=' ∉ value.toList
  | keyed key value => ',' ∉ key.toList ∧ '=' ∉ key.toList ∧ ',' ∉ value.toList

instance : DecidablePred IsLegible
  | padding => inferInstanceAs (Decidable True)
  | bare value => inferInstanceAs (Decidable (',' ∉ value.toList ∧ '=' ∉ value.toList))
  | keyed key value =>
    inferInstanceAs (Decidable (',' ∉ key.toList ∧ '=' ∉ key.toList ∧ ',' ∉ value.toList))

/-- The slot that a part is read as: what stands before the first equals sign is the key, and
without such a sign there is none. -/
def ofPart (part : String) : Slot :=
  match part.toList.dropWhile (· != '=') with
  | [] => bare part
  | _ :: value => keyed (String.ofList (part.toList.takeWhile (· != '='))) (String.ofList value)

theorem forall_bne_equals {cs : List Char} (h : '=' ∉ cs) : ∀ c ∈ cs, (c != '=') = true := by
  intro c hc
  rw [bne_iff_ne]
  rintro rfl
  exact h hc

/-- A bare value is read as such if it has no equals sign. -/
theorem ofPart_bare {value : String} (h : '=' ∉ value.toList) : ofPart value = bare value := by
  rw [ofPart, List.dropWhile_eq_nil_iff.2 (forall_bne_equals h)]

/-- A key without an equals sign ends at the first one, whatever the value is. -/
theorem ofPart_keyed {key : String} (h : '=' ∉ key.toList) (value : String) :
    ofPart (key ++ "=" ++ value) = keyed key value := by
  have hpart : (key ++ "=" ++ value).toList = key.toList ++ '=' :: value.toList := by simp
  rw [ofPart, hpart, List.dropWhile_append_of_pos (forall_bne_equals h),
    List.takeWhile_append_of_pos (forall_bne_equals h)]
  simp

variable {slot : Slot} {part : String}

/-- A legible slot is read back from its written form. -/
theorem IsLegible.ofPart_text? (h : slot.IsLegible) (htext : slot.text? = some part) :
    ofPart part = slot := by
  cases slot with
  | padding => cases htext
  | bare value =>
    obtain rfl := Option.some.inj htext
    exact ofPart_bare h.2
  | keyed key value =>
    obtain rfl := Option.some.inj htext
    exact ofPart_keyed h.2.1 value

/-- No part of a legible slot is taken for two. -/
theorem IsLegible.comma_notMem (h : slot.IsLegible) (htext : slot.text? = some part) :
    ',' ∉ part.toList := by
  cases slot with
  | padding => cases htext
  | bare value =>
    obtain rfl := Option.some.inj htext
    exact h.1
  | keyed key value =>
    obtain rfl := Option.some.inj htext
    simpa using ⟨h.1, h.2.2⟩

end Slot

namespace OptionTable

/-- The slots that are written, in order. -/
def writtenSlots (t : OptionTable) : List Slot :=
  t.slots.filter Slot.isWritten

/-- The parts of a text between commas. -/
def partsOf (s : String) : List String :=
  (s.split ',').toList.map String.Slice.copy

/-- The slots that a text is read as. -/
def read (s : String) : List Slot :=
  (partsOf s).map Slot.ofPart

/-- Parts without commas are found again, if there is any part. -/
theorem partsOf_intercalate {parts : List String} (h : ∀ part ∈ parts, ',' ∉ part.toList)
    (hne : parts ≠ []) : partsOf (",".intercalate parts) = parts := by
  have hcomma : ∀ cs ∈ parts.map String.toList, ',' ∉ cs := List.forall_mem_map.2 h
  have hsplit : ([','].intercalate (parts.map String.toList)).splitOn ',' =
      parts.map String.toList :=
    List.splitOn_intercalate ',' hcomma (by simpa using hne)
  have hjoined : (",".intercalate parts).toList = [','].intercalate (parts.map String.toList) :=
    String.toList_intercalate
  rw [partsOf, String.toList_split_char, hjoined, hsplit, List.map_map]
  exact (List.map_congr_left fun part _ ↦ String.ofList_toList).trans (List.map_id parts)

namespace WellFormed

variable {t : OptionTable}

/-- The parts of a table are the written forms of the slots that are written. -/
theorem parts_eq_filterMap (h : t.WellFormed) : t.parts = t.writtenSlots.filterMap Slot.text? := by
  rw [h.parts_eq, writtenSlots, List.filterMap_filter]
  refine List.filterMap_congr fun slot _ ↦ ?_
  cases slot <;> rfl

/-- A table is empty if no slot is written. -/
theorem isEmpty_iff (h : t.WellFormed) : t.isEmpty = true ↔ t.writtenSlots = [] := by
  rw [isEmpty, beq_iff_eq, h.size_eq, ← writtenSlots, List.length_eq_zero_iff]

variable (h : t.WellFormed) (hlegible : ∀ slot ∈ t.slots, slot.IsLegible)
include h hlegible

/-- Each part of a legible table is read as the slot that was written. -/
theorem map_ofPart_parts : t.parts.map Slot.ofPart = t.writtenSlots := by
  rw [h.parts_eq, writtenSlots]
  clear h
  generalize t.slots = slots at hlegible
  induction slots with
  | nil => rfl
  | cons slot slots ih =>
    rw [List.forall_mem_cons] at hlegible
    cases htext : slot.text? with
    | none =>
      rw [List.filterMap_cons_none htext, ih hlegible.2,
        List.filter_cons_of_neg (by simp [Slot.isWritten, htext])]
    | some part =>
      rw [List.filterMap_cons_some htext, List.map_cons, ih hlegible.2,
        hlegible.1.ofPart_text? htext, List.filter_cons_of_pos (by simp [Slot.isWritten, htext])]

/-- The parts of a legible table are found again between commas. -/
theorem partsOf_serialize (hempty : t.isEmpty = false) : partsOf t.serialize = t.parts := by
  refine partsOf_intercalate (fun part hpart ↦ ?_) ?_
  · rw [h.parts_eq] at hpart
    obtain ⟨slot, hslot, htext⟩ := List.mem_filterMap.1 hpart
    exact (hlegible slot hslot).comma_notMem htext
  · rintro hparts
    rw [isEmpty, size, hparts] at hempty
    cases hempty

/-- A legible table is read back. -/
theorem read_serialize (hempty : t.isEmpty = false) : read t.serialize = t.writtenSlots := by
  rw [read, h.partsOf_serialize hlegible hempty, h.map_ofPart_parts hlegible]

end WellFormed

/-- Tables that are written alike have the same slots written, if they are legible and not empty. -/
theorem writtenSlots_eq_of_serialize_eq {t t' : OptionTable} (h : t.WellFormed)
    (h' : t'.WellFormed) (hlegible : ∀ slot ∈ t.slots, slot.IsLegible)
    (hlegible' : ∀ slot ∈ t'.slots, slot.IsLegible) (hempty : t.isEmpty = false)
    (hempty' : t'.isEmpty = false) (heq : t.serialize = t'.serialize) :
    t.writtenSlots = t'.writtenSlots := by
  rw [← h.read_serialize hlegible hempty, heq, h'.read_serialize hlegible' hempty']

/-- What is written tells two tables apart, whatever was done to them, as long as both are legible
and not empty: they are written alike exactly if the same slots are written. Cut at commas, the text
of such a table has as many parts as the table has slots that are written, and each part, cut at its
first equals sign, is read as its slot. -/
theorem serialize_eq_serialize_iff (values values' : List String) (es es' : List Edit) :
    let t := (ofValues values).edits es
    let t' := (ofValues values').edits es'
    t.isEmpty = false → t'.isEmpty = false →
    (∀ slot ∈ t.slots, slot.IsLegible) → (∀ slot ∈ t'.slots, slot.IsLegible) →
      (t.serialize = t'.serialize ↔ t.writtenSlots = t'.writtenSlots) ∧
      (partsOf t.serialize).length = t.size ∧
      (partsOf t.serialize).map Slot.ofPart = t.writtenSlots := by
  intro t t' hempty hempty' hlegible hlegible'
  have h : t.WellFormed := (wellFormed_ofValues values).edits es
  have h' : t'.WellFormed := (wellFormed_ofValues values').edits es'
  refine ⟨⟨writtenSlots_eq_of_serialize_eq h h' hlegible hlegible' hempty hempty', fun heq ↦ ?_⟩,
    ?_, h.read_serialize hlegible hempty⟩
  · rw [serialize, serialize, h.parts_eq_filterMap, h'.parts_eq_filterMap, heq]
  · rw [h.partsOf_serialize hlegible hempty, size]

/-- A table that was written front to back, and one that was written from the middle, with padding
in front and a value that was replaced. -/
theorem network_serialize_eq_iff :
    let t := (ofValues ["user"]).edits [.addKeyed "id" "net0", .setKeyed "hostfwd" "tcp::=:22"]
    let t' := (ofValues []).edits [.setPositional 3 "tap", .setKeyed "id" "old",
      .addKeyed "hostfwd" "tcp::=:22", .setPositional 3 "user", .setKeyed "id" "net0"]
    t ≠ t' ∧ t.serialize = t'.serialize ∧
      (partsOf t.serialize).map Slot.ofPart =
        [.bare "user", .keyed "id" "net0", .keyed "hostfwd" "tcp::=:22"] := by
  intro t t'
  have h := serialize_eq_serialize_iff ["user"] [] [.addKeyed "id" "net0",
    .setKeyed "hostfwd" "tcp::=:22"] [.setPositional 3 "tap", .setKeyed "id" "old",
      .addKeyed "hostfwd" "tcp::=:22", .setPositional 3 "user", .setKeyed "id" "net0"]
    (by decide) (by decide) (by decide) (by decide)
  exact ⟨by decide, h.1.2 (by decide), h.2.2.trans (by decide)⟩

-- without slots a table is written like one with an empty value
example : empty.serialize = (ofValues [""]).serialize := by decide

end OptionTable

end MachineArgs
