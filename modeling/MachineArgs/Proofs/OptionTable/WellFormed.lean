import MachineArgs.OptionTable

/-!
# Well-formed option tables

The three parts of a table, its slots, the owners of its keys and the start of its window, are kept
apart, and every edit has to keep them in step. `WellFormed` says what "in step" means; every table
that edits can produce has it (`wellFormed_edits_ofValues`).

All edits are made of three moves, and the invariant is proved for the moves only.

* `place` puts a slot at a position, in place of the slot there or behind padding. It keeps a table
  well-formed unless it takes the slot of an owner away (`WellFormed.place`).
* `forget` drops the owner of a position, which makes room for any slot there.
* `own` gives a key its owner if it has none.

What rests on the invariant: the window cuts nothing but padding off, so the parts of a table are
those of all its slots (`parts_eq`); an owner always leads to a slot of its key
(`setKeyed_eq_place`); and the slot that is replaced tells which owner has to go
(`setPositional_eq`).
-/

namespace MachineArgs

namespace OptionTable

/-- The parts of a table are in step: the window starts at the first slot that is written, the last
slot is written, and every owner is the position of a slot of its key. -/
structure WellFormed (t : OptionTable) : Prop where
  /-- There is no window exactly if there are no slots. -/
  start_eq_none_iff : t.start = none ↔ t.slots = []
  /-- The window starts at a slot. -/
  start_lt : ∀ {s}, t.start = some s → s < t.slots.length
  /-- The slot at which the window starts is written. -/
  start_ne_padding : ∀ {s}, t.start = some s → t.slots[s]? ≠ some .padding
  /-- Every slot before the window is padding. -/
  padding_of_lt : ∀ {s i}, t.start = some s → i < s → t.slots[i]? = some .padding
  /-- The last slot is written. -/
  last_ne_padding : t.slots.getLast? ≠ some .padding
  /-- The owner of a key is the position of a slot with that key. -/
  slot_of_owner : ∀ {k i}, (k, i) ∈ t.owners → ∃ v, t.slots[i]? = some (.keyed k v)
  /-- A key has one owner at most. -/
  nodup_keys : (t.owners.map Prod.fst).Nodup

/-! ### Three moves -/

/-- Puts a slot at a position: in place of the slot there, or behind padding up to there. -/
def place (t : OptionTable) (index : Nat) (slot : Slot) : OptionTable where
  slots :=
    if index < t.slots.length then
      t.slots.set index slot
    else
      t.slots ++ List.replicate (index - t.slots.length) .padding ++ [slot]
  owners := t.owners
  start := some (t.startWith index)

/-- Drops the owner of a position. -/
def forget (t : OptionTable) (index : Nat) : OptionTable :=
  { t with owners := t.owners.filter fun owner ↦ owner.2 ≠ index }

/-- Makes a position the owner of a key that has none. -/
def own (t : OptionTable) (key : String) (index : Nat) : OptionTable :=
  match t.owner? key with
  | some _ => t
  | none => { t with owners := t.owners ++ [(key, index)] }

@[simp]
theorem start_place (t : OptionTable) (i : Nat) (slot : Slot) :
    (t.place i slot).start = some (t.startWith i) :=
  rfl

@[simp]
theorem length_place (t : OptionTable) (i : Nat) (slot : Slot) :
    (t.place i slot).slots.length = max t.slots.length (i + 1) := by
  by_cases hi : i < t.slots.length
  · simp only [place, hi, if_true, List.length_set]
    omega
  · simp only [place, hi, if_false, List.length_append, List.length_replicate,
      List.length_singleton]
    omega

/-- The slots after a placement: the new one, padding in the gap, and the others as they were. -/
theorem getElem?_place (t : OptionTable) (i j : Nat) (slot : Slot) :
    (t.place i slot).slots[j]? =
      if j = i then some slot
      else if t.slots.length ≤ j ∧ j < i then some .padding
      else t.slots[j]? := by
  by_cases hi : i < t.slots.length
  · have hgap : ¬(t.slots.length ≤ j ∧ j < i) := by omega
    simp only [place, hi, if_true, hgap, if_false, List.getElem?_set, eq_comm (a := i)]
  · simp only [place, hi, if_false, List.append_assoc]
    rcases Nat.lt_trichotomy j i with hj | rfl | hj
    · by_cases hlen : t.slots.length ≤ j
      · rw [List.getElem?_append_right hlen, List.getElem?_append_left (by simp; omega)]
        simp only [List.getElem?_replicate]
        rw [if_pos (by omega), if_neg (by omega), if_pos ⟨hlen, hj⟩]
      · rw [List.getElem?_append_left (by omega), if_neg (by omega), if_neg (by omega)]
    · rw [List.getElem?_append_right (by omega), List.getElem?_append_right (by simp)]
      simp
    · rw [if_neg (by omega), if_neg (by omega), List.getElem?_eq_none (l := t.slots) (by omega)]
      apply List.getElem?_eq_none
      simp only [List.length_append, List.length_replicate, List.length_singleton]
      omega

theorem getElem?_place_self (t : OptionTable) (i : Nat) (slot : Slot) :
    (t.place i slot).slots[i]? = some slot := by
  rw [getElem?_place, if_pos rfl]

theorem getElem?_place_of_lt (t : OptionTable) {i j : Nat} (slot : Slot)
    (hj : j < t.slots.length) (hne : j ≠ i) : (t.place i slot).slots[j]? = t.slots[j]? := by
  rw [getElem?_place, if_neg hne, if_neg (by omega)]

/-! ### The moves and the invariant -/

theorem wellFormed_empty : empty.WellFormed where
  start_eq_none_iff := by simp [empty]
  start_lt h := by simp [empty] at h
  start_ne_padding h := by simp [empty] at h
  padding_of_lt h := by simp [empty] at h
  last_ne_padding := by simp [empty]
  slot_of_owner h := by simp [empty] at h
  nodup_keys := by simp [empty]

namespace WellFormed

variable {t : OptionTable}

theorem owner_lt (h : t.WellFormed) {k : String} {i : Nat} (hm : (k, i) ∈ t.owners) :
    i < t.slots.length := by
  obtain ⟨v, hv⟩ := h.slot_of_owner hm
  exact (List.getElem?_eq_some_iff.1 hv).1

theorem mem_owners (h : t.WellFormed) {k : String} {i : Nat} :
    t.owner? k = some i ↔ (k, i) ∈ t.owners := by
  rw [owner?, List.lookup_eq_some_iff]
  constructor
  · rintro ⟨l₁, l₂, heq, -⟩
    simp [heq]
  · intro hm
    obtain ⟨l₁, l₂, heq⟩ := List.append_of_mem hm
    refine ⟨l₁, l₂, heq, fun p hp ↦ ?_⟩
    have hnd := h.nodup_keys
    rw [heq, List.map_append, List.map_cons, List.nodup_append] at hnd
    have hne : p.1 ≠ k := hnd.2.2 p.1 (List.mem_map_of_mem hp) k List.mem_cons_self
    simpa using hne.symm

/-- An owner leads to a slot of its key. -/
theorem slot_of_owner? (h : t.WellFormed) {k : String} {i : Nat} (ho : t.owner? k = some i) :
    ∃ v, t.slots[i]? = some (.keyed k v) :=
  h.slot_of_owner (h.mem_owners.1 ho)

/-- Placing a slot that is written keeps a table well-formed, if the slots of owners keep their
keys. -/
theorem place (h : t.WellFormed) {i : Nat} {slot : Slot} (hslot : slot ≠ .padding)
    (howner : ∀ k, (k, i) ∈ t.owners → ∃ v, slot = .keyed k v) : (t.place i slot).WellFormed where
  start_eq_none_iff := by
    have hlen : 0 < (t.place i slot).slots.length := by
      rw [length_place]
      omega
    simpa using List.ne_nil_of_length_pos hlen
  start_lt {s} hs := by
    obtain rfl : t.startWith i = s := by simpa using hs
    rw [length_place, startWith]
    split <;> omega
  start_ne_padding {s} hs := by
    obtain rfl : t.startWith i = s := by simpa using hs
    by_cases hi : t.startWith i = i
    · rw [hi, getElem?_place_self]
      simpa using hslot
    · -- the window did not move, so it still starts at the slot where it started before
      obtain ⟨s, hs⟩ : ∃ s, t.start = some s := by
        cases hstart : t.start with
        | none => exact absurd (by simp [startWith, hstart]) hi
        | some s => exact ⟨s, rfl⟩
      have heq : t.startWith i = s := by
        simp only [startWith, hs] at hi ⊢
        omega
      rw [heq] at hi ⊢
      rw [getElem?_place_of_lt t slot (h.start_lt hs) hi]
      exact h.start_ne_padding hs
  padding_of_lt {s j} hs hj := by
    obtain rfl : t.startWith i = s := by simpa using hs
    cases hstart : t.start with
    | none =>
      have hlen : t.slots = [] := h.start_eq_none_iff.1 hstart
      simp only [startWith, hstart] at hj
      rw [getElem?_place, if_neg (by omega), if_pos ⟨by simp [hlen], hj⟩]
    | some s =>
      have hlen := h.start_lt hstart
      simp only [startWith, hstart] at hj
      rw [getElem?_place_of_lt t slot (by omega) (by omega)]
      exact h.padding_of_lt hstart (by omega)
  last_ne_padding := by
    rw [List.getLast?_eq_getElem?, length_place]
    by_cases hi : i + 1 < t.slots.length
    · rw [getElem?_place_of_lt t slot (by omega) (by omega),
        show max t.slots.length (i + 1) = t.slots.length by omega, ← List.getLast?_eq_getElem?]
      exact h.last_ne_padding
    · rw [show max t.slots.length (i + 1) - 1 = i by omega, getElem?_place_self]
      simpa using hslot
  slot_of_owner {k j} hm := by
    by_cases hj : j = i
    · subst hj
      obtain ⟨v, rfl⟩ := howner k hm
      exact ⟨v, getElem?_place_self t j _⟩
    · rw [getElem?_place_of_lt t slot (h.owner_lt hm) hj]
      exact h.slot_of_owner hm
  nodup_keys := h.nodup_keys

theorem forget (h : t.WellFormed) (i : Nat) : (t.forget i).WellFormed where
  start_eq_none_iff := h.start_eq_none_iff
  start_lt := h.start_lt
  start_ne_padding := h.start_ne_padding
  padding_of_lt := h.padding_of_lt
  last_ne_padding := h.last_ne_padding
  slot_of_owner hm := h.slot_of_owner (List.mem_filter.1 hm).1
  nodup_keys := h.nodup_keys.sublist (List.filter_sublist.map _)

theorem own (h : t.WellFormed) {k v : String} {i : Nat}
    (hslot : t.slots[i]? = some (.keyed k v)) : (t.own k i).WellFormed := by
  rw [OptionTable.own]
  split
  · exact h
  · next ho =>
    refine ⟨h.start_eq_none_iff, h.start_lt, h.start_ne_padding, h.padding_of_lt,
      h.last_ne_padding, fun {k' j} hm ↦ ?_, ?_⟩
    · rcases List.mem_append.1 hm with hm | hm
      · exact h.slot_of_owner hm
      · obtain ⟨rfl, rfl⟩ := Prod.mk.inj (List.mem_singleton.1 hm)
        exact ⟨v, hslot⟩
    · have hfresh : ∀ p ∈ t.owners, p.1 ≠ k := by
        intro p hp heq
        have hne := List.lookup_eq_none_iff.1 ho p hp
        simp [heq] at hne
      rw [List.map_append, List.nodup_append]
      refine ⟨h.nodup_keys, by simp, fun a ha b hb ↦ ?_⟩
      obtain ⟨p, hp, rfl⟩ := List.mem_map.1 ha
      rw [List.map_singleton, List.mem_singleton] at hb
      exact hb ▸ hfresh p hp

end WellFormed

/-! ### Edits as moves -/

theorem push_eq_place (t : OptionTable) (slot : Slot) :
    t.push slot = t.place t.slots.length slot := by
  simp [push, OptionTable.place]

/-- Forgetting the key that the slot at a position owns is forgetting the owner at that position: no
other key can have it, and this key has no other owner. -/
theorem ownersWithout_eq {t : OptionTable} (h : t.WellFormed) (i : Nat) :
    t.ownersWithout i = (t.forget i).owners := by
  -- an owner at this position has the key of the slot there
  have hkey : ∀ k, (k, i) ∈ t.owners → ∃ v, t.slots[i]? = some (.keyed k v) :=
    fun k hm ↦ h.slot_of_owner hm
  have hnone : (∀ k, (k, i) ∉ t.owners) → t.owners = (t.forget i).owners := by
    intro hno
    refine (List.filter_eq_self.2 fun p hp ↦ ?_).symm
    rw [decide_eq_true_eq]
    rintro rfl
    exact hno p.1 hp
  rw [ownersWithout]
  split
  · next key old hslot =>
    split
    · next ho =>
      refine List.filter_congr fun p hp ↦ ?_
      rw [decide_eq_decide]
      refine not_congr ⟨?_, ?_⟩
      · rintro rfl
        exact Option.some.inj ((h.mem_owners.2 hp).symm.trans ho)
      · rintro rfl
        obtain ⟨v, hv⟩ := hkey p.1 hp
        rw [hslot] at hv
        exact (Slot.keyed.inj (Option.some.inj hv)).1.symm
    · next ho =>
      refine hnone fun k hm ↦ ho ?_
      obtain ⟨v, hv⟩ := hkey k hm
      rw [hslot] at hv
      rw [(Slot.keyed.inj (Option.some.inj hv)).1]
      exact h.mem_owners.2 hm
  · next hslot =>
    refine hnone fun k hm ↦ ?_
    obtain ⟨v, hv⟩ := hkey k hm
    exact hslot k v hv

/-- A key keeps its owner unless that is the position whose owner is dropped. -/
theorem owner?_forget {t : OptionTable} (h : t.WellFormed) (i : Nat) (key : String) :
    (t.forget i).owner? key = (t.owner? key).filter (· ≠ i) := by
  ext j
  rw [(h.forget i).mem_owners, Option.filter_eq_some_iff, h.mem_owners, forget, List.mem_filter]

/-- A key has the owner that it had, or else the one that it is given. -/
theorem owner?_own (t : OptionTable) (key k : String) (i : Nat) :
    (t.own k i).owner? key = if k = key then (t.owner? key).or (some i) else t.owner? key := by
  rw [own]
  cases ho : t.owner? k with
  | some j =>
    by_cases hk : k = key
    · subst hk
      simp [ho]
    · rw [if_neg hk]
  | none =>
    show (t.owners ++ [(k, i)]).lookup key = _
    rw [List.lookup_append, ← owner?]
    by_cases hk : k = key
    · simp [hk]
    · have hne : (key == k) = false := by simpa using Ne.symm hk
      simp [hk, List.lookup_cons, hne]

theorem setPositional_eq {t : OptionTable} (h : t.WellFormed) (i : Nat) (v : String) :
    t.setPositional i v = (t.forget i).place i (.bare v) := by
  rw [setPositional, ownersWithout_eq h]
  rfl

theorem addKeyed_eq (t : OptionTable) (k v : String) :
    t.addKeyed k v = (t.place t.slots.length (.keyed k v)).own k t.slots.length := by
  have howner : (t.push (.keyed k v)).owner? k = t.owner? k := rfl
  rw [← push_eq_place, addKeyed, OptionTable.own, howner]
  cases t.owner? k <;> rfl

/-- A slot that is opened for a key stands behind all others. -/
theorem slots_addKeyed (t : OptionTable) (k v : String) :
    (t.addKeyed k v).slots = t.slots ++ [.keyed k v] := by
  rw [addKeyed]
  cases t.owner? k <;> rfl

/-- A slot that is opened for a key owns it if no other slot does. -/
theorem owner?_addKeyed (t : OptionTable) (key k v : String) :
    (t.addKeyed k v).owner? key =
      if k = key then (t.owner? key).or (some t.slots.length) else t.owner? key := by
  rw [addKeyed_eq, owner?_own]
  rfl

/-- A key with an owner is set in place: the owner leads to a slot of the key, so no other slot is
opened and none of another kind is replaced. -/
theorem setKeyed_eq_place {t : OptionTable} (h : t.WellFormed) {k v : String} {i : Nat}
    (ho : t.owner? k = some i) : t.setKeyed k v = t.place i (.keyed k v) := by
  obtain ⟨old, hslot⟩ := h.slot_of_owner? ho
  have hlen : i < t.slots.length := (List.getElem?_eq_some_iff.1 hslot).1
  have hstart : t.start = some (t.startWith i) := by
    cases hs : t.start with
    | none => simp [h.start_eq_none_iff.1 hs] at hlen
    | some s =>
      have hle : s ≤ i := by
        rcases Nat.lt_or_ge i s with hlt | hge
        · have hpad := h.padding_of_lt hs hlt
          rw [hslot] at hpad
          exact absurd (Option.some.inj hpad) (by simp)
        · exact hge
      simp only [startWith, hs, Option.some.injEq]
      omega
  rw [setKeyed, ho]
  simp only [hslot, OptionTable.place, hlen, if_true, hstart]

theorem setKeyed_eq_addKeyed {t : OptionTable} {k v : String} (ho : t.owner? k = none) :
    t.setKeyed k v = t.addKeyed k v := by
  rw [setKeyed, ho]

namespace WellFormed

variable {t : OptionTable}

theorem push (h : t.WellFormed) {slot : Slot} (hslot : slot ≠ .padding) :
    (t.push slot).WellFormed := by
  rw [push_eq_place]
  exact h.place hslot fun k hm ↦ absurd (h.owner_lt hm) (Nat.lt_irrefl _)

theorem append (h : t.WellFormed) (values : List String) : (t.append values).WellFormed := by
  induction values generalizing t with
  | nil => exact h
  | cons v vs ih => exact ih (h.push (by simp))

theorem setPositional (h : t.WellFormed) (i : Nat) (v : String) :
    (t.setPositional i v).WellFormed := by
  rw [setPositional_eq h]
  refine (h.forget i).place (by simp) fun k hm ↦ ?_
  have hne := (List.mem_filter.1 hm).2
  simp at hne

theorem addKeyed (h : t.WellFormed) (k v : String) : (t.addKeyed k v).WellFormed := by
  rw [addKeyed_eq, ← push_eq_place]
  exact (h.push (by simp)).own (by rw [push_eq_place, getElem?_place_self])

theorem setKeyed (h : t.WellFormed) (k v : String) : (t.setKeyed k v).WellFormed := by
  cases ho : t.owner? k with
  | none =>
    rw [setKeyed_eq_addKeyed ho]
    exact h.addKeyed k v
  | some i =>
    rw [setKeyed_eq_place h ho]
    obtain ⟨old, hold⟩ := h.slot_of_owner? ho
    refine h.place (by simp) fun k' hm ↦ ?_
    -- two owners of one position have the key of the slot there
    obtain ⟨old', hold'⟩ := h.slot_of_owner hm
    rw [hold] at hold'
    obtain ⟨rfl, -⟩ := Slot.keyed.inj (Option.some.inj hold')
    exact ⟨v, rfl⟩

/-- Every edit keeps a table well-formed. -/
theorem edit (h : t.WellFormed) (e : Edit) : (t.edit e).WellFormed := by
  cases e with
  | append values => exact h.append values
  | setPositional i v => exact h.setPositional i v
  | addKeyed k v => exact h.addKeyed k v
  | setKeyed k v => exact h.setKeyed k v

/-- Every run of edits keeps a table well-formed. -/
theorem edits (h : t.WellFormed) (es : List Edit) : (t.edits es).WellFormed := by
  induction es generalizing t with
  | nil => exact h
  | cons e es ih => exact ih (h.edit e)

end WellFormed

theorem wellFormed_ofValues (values : List String) : (ofValues values).WellFormed :=
  wellFormed_empty.append values

/-! ### The window -/

namespace WellFormed

variable {t : OptionTable}

/-- What is left of the window is padding. -/
theorem filterMap_take (h : t.WellFormed) {s : Nat} (hs : t.start = some s) :
    (t.slots.take s).filterMap Slot.text? = [] := by
  rw [List.filterMap_eq_nil_iff]
  intro slot hslot
  obtain ⟨i, hi⟩ := List.mem_iff_getElem?.1 hslot
  have hlt : i < s := by
    have hlen := (List.getElem?_eq_some_iff.1 hi).1
    rw [List.length_take] at hlen
    omega
  rw [List.getElem?_take_of_lt hlt, h.padding_of_lt hs hlt] at hi
  rw [← Option.some.inj hi]
  rfl

/-- The parts of a table are the written forms of all its slots. -/
theorem parts_eq (h : t.WellFormed) : t.parts = t.slots.filterMap Slot.text? := by
  rw [parts, visible]
  cases hs : t.start with
  | none => simp [h.start_eq_none_iff.1 hs]
  | some s =>
    calc (t.slots.drop s).filterMap Slot.text?
        = (t.slots.take s).filterMap Slot.text? ++ (t.slots.drop s).filterMap Slot.text? := by
          rw [h.filterMap_take hs, List.nil_append]
      _ = t.slots.filterMap Slot.text? := by
          rw [← List.filterMap_append, List.take_append_drop]

/-- The size of a table is the number of all its slots that are written. -/
theorem size_eq (h : t.WellFormed) : t.size = (t.slots.filter Slot.isWritten).length := by
  rw [size, h.parts_eq, List.length_filterMap_eq_countP, List.countP_eq_length_filter]
  rfl

end WellFormed

/-- Whatever is done to a table, its parts stay in step. So the window is within the slots, the
size counts every slot that is written, and a key that has an owner is set in the slot of that
owner, which holds that key. -/
theorem wellFormed_edits_ofValues (values : List String) (es : List Edit) :
    let t := (ofValues values).edits es
    t.WellFormed ∧
      (∀ s, t.start = some s → s + t.visible.length = t.slots.length) ∧
      t.size = (t.slots.filter Slot.isWritten).length ∧
      ∀ k v i, t.owner? k = some i →
        (∃ old, t.slots[i]? = some (.keyed k old)) ∧
          t.setKeyed k v = { t with slots := t.slots.set i (.keyed k v) } := by
  intro t
  have h : t.WellFormed := (wellFormed_ofValues values).edits es
  refine ⟨h, fun s hs ↦ ?_, h.size_eq, fun k v i ho ↦ ?_⟩
  · have hlt := h.start_lt hs
    simp only [visible, hs, List.length_drop]
    omega
  · obtain ⟨old, hold⟩ := h.slot_of_owner? ho
    refine ⟨⟨old, hold⟩, ?_⟩
    rw [setKeyed, ho]
    simp only [hold]

end OptionTable

end MachineArgs
