import MachineArgs.Proofs.OptionTable.Cell

/-!
# The value of a key

A table that is never told to open a second slot for a key has one slot for it at most, and this
slot has the value that was set last (`values_edits`). What is done to other keys is no matter, and
neither are bare values.

The invariant is `Holds`. Besides the one slot it keeps that the key has an owner exactly if it has
a slot; otherwise the next value would be given a slot of its own.
-/

namespace MachineArgs

/-- The value of a slot with a given key. -/
def Slot.valueOf? (key : String) : Slot → Option String
  | keyed key' value => if key' = key then some value else none
  | _ => none

namespace OptionTable

/-- The values that a table shows under a key, in order. -/
def values (t : OptionTable) (key : String) : List String :=
  t.visible.filterMap (Slot.valueOf? key)

namespace Edit

/-- The value that an edit sets a key to. -/
def setOf? (key : String) : Edit → Option String
  | setKeyed key' value => if key' = key then some value else none
  | _ => none

/-- An edit that opens no slot for a key behind others of it, and takes no slot from a key. -/
def Spares (key : String) : Edit → Prop
  | addKeyed key' _ => key' ≠ key
  | setPositional _ _ => False
  | _ => True

end Edit

/-! ### Slots and owners after a key was written -/

/-- A key with an owner is set in the slot of that owner, and nothing else changes. -/
theorem WellFormed.exists_slots_setKeyed {t : OptionTable} (h : t.WellFormed) {k : String} {i : Nat}
    (ho : t.owner? k = some i) (v : String) : ∃ before old after,
      t.slots = before ++ .keyed k old :: after ∧
      (t.setKeyed k v).slots = before ++ .keyed k v :: after ∧
      (t.setKeyed k v).owners = t.owners := by
  obtain ⟨old, hold⟩ := h.slot_of_owner? ho
  obtain ⟨hlt, hget⟩ := List.getElem?_eq_some_iff.1 hold
  refine ⟨t.slots.take i, old, t.slots.drop (i + 1), ?_, ?_, ?_⟩
  · rw [← hget, List.getElem_cons_drop, List.take_append_drop]
  · rw [setKeyed_eq_place h ho, OptionTable.place, if_pos hlt, List.set_eq_take_append_cons_drop,
      if_pos hlt]
  · rw [setKeyed_eq_place h ho]
    rfl

/-! ### One slot for a key -/

/-- A table without padding has one slot for a key, with the given value, and the key has an owner;
or it has none, and no value is given. -/
structure Holds (t : OptionTable) (key : String) (value? : Option String) : Prop where
  /-- The parts of the table are in step. -/
  wellFormed : t.WellFormed
  /-- Every slot is written. -/
  padding_notMem : Slot.padding ∉ t.slots
  /-- The key has an owner exactly if there is a value. -/
  isSome_owner? : (t.owner? key).isSome = value?.isSome
  /-- The value stands in the one slot of the key. -/
  filterMap_slots : t.slots.filterMap (Slot.valueOf? key) = value?.toList

theorem holds_empty (key : String) : empty.Holds key none where
  wellFormed := wellFormed_empty
  padding_notMem := by simp [empty]
  isSome_owner? := rfl
  filterMap_slots := rfl

namespace Holds

variable {t : OptionTable} {key : String} {value? : Option String}

/-- A table shows the value of the key and no other. -/
theorem values_eq (h : t.Holds key value?) : t.values key = value?.toList := by
  rw [values, h.wellFormed.visible_eq_slots h.padding_notMem, h.filterMap_slots]

/-- A further slot without the key changes nothing. -/
theorem push (h : t.Holds key value?) {slot : Slot} (hslot : slot ≠ .padding)
    (hkey : slot.valueOf? key = none) : (t.push slot).Holds key value? where
  wellFormed := h.wellFormed.push hslot
  padding_notMem := by
    show Slot.padding ∉ t.slots ++ [slot]
    simpa using ⟨h.padding_notMem, hslot.symm⟩
  isSome_owner? := h.isSome_owner?
  filterMap_slots := by
    show (t.slots ++ [slot]).filterMap _ = _
    rw [List.filterMap_append, h.filterMap_slots, List.filterMap_cons, hkey]
    exact List.append_nil _

theorem append (h : t.Holds key value?) (values : List String) :
    (t.append values).Holds key value? := by
  induction values generalizing t with
  | nil => exact h
  | cons value values ih => exact ih (h.push (by simp) rfl)

theorem addKeyed_of_ne (h : t.Holds key value?) {k : String} (hne : k ≠ key) (v : String) :
    (t.addKeyed k v).Holds key value? where
  wellFormed := h.wellFormed.addKeyed k v
  padding_notMem := by
    rw [slots_addKeyed]
    simpa using h.padding_notMem
  isSome_owner? := by
    rw [owner?_addKeyed, if_neg hne]
    exact h.isSome_owner?
  filterMap_slots := by
    rw [slots_addKeyed]
    simpa [Slot.valueOf?, hne] using h.filterMap_slots

theorem setKeyed_of_ne (h : t.Holds key value?) {k : String} (hne : k ≠ key) (v : String) :
    (t.setKeyed k v).Holds key value? := by
  cases ho : t.owner? k with
  | none =>
    rw [setKeyed_eq_addKeyed ho]
    exact h.addKeyed_of_ne hne v
  | some i =>
    -- a slot of another key is as good as the one that stood there
    obtain ⟨before, old, after, hslots, hset, howners⟩ := h.wellFormed.exists_slots_setKeyed ho v
    have hpadding := h.padding_notMem
    have hvalues := h.filterMap_slots
    rw [hslots] at hpadding hvalues
    refine ⟨h.wellFormed.setKeyed k v, ?_, ?_, ?_⟩
    · rw [hset]
      simpa using hpadding
    · rw [owner?, howners]
      exact h.isSome_owner?
    · rw [hset]
      simpa [Slot.valueOf?, hne] using hvalues

/-- A key with an owner is set in the only slot that has it. -/
theorem exists_slots_setKeyed (h : t.Holds key value?) {i : Nat} (ho : t.owner? key = some i)
    (v : String) : ∃ before old after,
      t.slots = before ++ .keyed key old :: after ∧
      (t.setKeyed key v).slots = before ++ .keyed key v :: after ∧
      (t.setKeyed key v).owners = t.owners ∧
      before.filterMap (Slot.valueOf? key) = [] ∧ after.filterMap (Slot.valueOf? key) = [] := by
  obtain ⟨before, old, after, hslots, hset, howners⟩ := h.wellFormed.exists_slots_setKeyed ho v
  have hlength := congrArg List.length h.filterMap_slots
  have hle : value?.toList.length ≤ 1 := by cases value? <;> simp
  simp only [hslots, List.filterMap_append, List.filterMap_cons, Slot.valueOf?, if_true,
    List.length_append, List.length_cons] at hlength
  refine ⟨before, old, after, hslots, hset, howners, ?_, ?_⟩
  · exact List.length_eq_zero_iff.1 (by omega)
  · exact List.length_eq_zero_iff.1 (by omega)

/-- The value of the key is replaced, or the key is given its slot. -/
theorem setKeyed (h : t.Holds key value?) (v : String) : (t.setKeyed key v).Holds key (some v) := by
  cases ho : t.owner? key with
  | none =>
    have hnone : value? = none := by
      rw [← Option.not_isSome_iff_eq_none, ← h.isSome_owner?, ho]
      simp
    rw [setKeyed_eq_addKeyed ho]
    refine ⟨h.wellFormed.addKeyed key v, ?_, ?_, ?_⟩
    · rw [slots_addKeyed]
      simpa using h.padding_notMem
    · rw [owner?_addKeyed, if_pos rfl, ho]
      rfl
    · rw [slots_addKeyed, List.filterMap_append, h.filterMap_slots, hnone]
      simp [Slot.valueOf?]
  | some i =>
    obtain ⟨before, old, after, hslots, hset, howners, hbefore, hafter⟩ :=
      h.exists_slots_setKeyed ho v
    have hpadding := h.padding_notMem
    rw [hslots] at hpadding
    refine ⟨h.wellFormed.setKeyed key v, ?_, ?_, ?_⟩
    · rw [hset]
      simpa using hpadding
    · rw [owner?, howners]
      show (t.owner? key).isSome = true
      rw [ho]
      rfl
    · rw [hset, List.filterMap_append, List.filterMap_cons, hbefore, hafter]
      simp [Slot.valueOf?]

theorem edit (h : t.Holds key value?) {e : Edit} (he : e.Spares key) :
    (t.edit e).Holds key ((e.setOf? key).or value?) := by
  cases e with
  | append values => exact h.append values
  | setPositional index v => exact he.elim
  | addKeyed k v => exact h.addKeyed_of_ne he v
  | setKeyed k v =>
    by_cases hk : k = key
    · subst hk
      rw [Edit.setOf?, if_pos rfl]
      exact h.setKeyed v
    · rw [Edit.setOf?, if_neg hk]
      exact h.setKeyed_of_ne hk v

theorem edits (h : t.Holds key value?) {es : List Edit} (hes : ∀ e ∈ es, e.Spares key) :
    (t.edits es).Holds key ((es.filterMap (Edit.setOf? key)).getLast?.or value?) := by
  induction es generalizing t value? with
  | nil => exact h
  | cons e es ih =>
    rw [List.forall_mem_cons] at hes
    have hrest := ih (h.edit hes.1) hes.2
    rw [edits_cons, List.filterMap_cons]
    cases hset : e.setOf? key with
    | none =>
      rw [hset] at hrest
      exact hrest
    | some v =>
      rw [hset, Option.some_or] at hrest
      rw [List.getLast?_cons, Option.some_or]
      cases hlast : (es.filterMap (Edit.setOf? key)).getLast? <;> rw [hlast] at hrest <;>
        exact hrest

end Holds

/-- A table shows the last value that a key was set to, and only that one. -/
theorem values_edits {key : String} {es : List Edit} (hes : ∀ e ∈ es, e.Spares key) :
    (empty.edits es).values key = (es.filterMap (Edit.setOf? key)).getLast?.toList := by
  have hholds := (holds_empty key).edits hes
  rw [Option.or_none] at hholds
  exact hholds.values_eq

end OptionTable

end MachineArgs
