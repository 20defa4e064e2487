import MachineArgs.Proofs.OptionTable.LastValue

/-!
# The slot that a key is set in

Setting a key replaces the value of its first slot, as long as that slot was never replaced by a
bare value. Such a write makes the key start over: the slots that have the key at that moment do not
count for it any more, and it is set in the first of its slots that were opened since, or in a new
one.

So each key has a *horizon*, the number of slots that do not count for it. It is 0 at the start and
moves to the end of the table whenever a positional write hits the first slot that counts; nothing
else moves it (`horizonAfter`). The invariant is that the owner of a key is its first slot from the
horizon on (`OwnsFirst`). Every edit keeps this up with the horizon that it leaves
(`OwnsFirst.edit`), and what is set then follows from the owner alone.
-/

namespace MachineArgs

theorem Slot.valueOf?_eq_some_iff {key v : String} {slot : Slot} :
    slot.valueOf? key = some v ↔ slot = .keyed key v := by
  cases slot with
  | padding | bare => simp [Slot.valueOf?]
  | keyed key' v' =>
    rw [Slot.valueOf?, Slot.keyed.injEq]
    split <;> simp_all

namespace OptionTable

/-! ### First slots -/

/-- Whether the slot at a position has a key. -/
def hasKeyAt (t : OptionTable) (key : String) (i : Nat) : Bool :=
  ((t.slots[i]?).bind (Slot.valueOf? key)).isSome

/-- The first slot with a key among those from a position on. -/
def firstFrom? (t : OptionTable) (key : String) (n : Nat) : Option Nat :=
  (List.range t.slots.length).find? fun i ↦ decide (n ≤ i) && t.hasKeyAt key i

variable {t t' : OptionTable} {key : String} {n i : Nat}

theorem hasKeyAt_iff : t.hasKeyAt key i = true ↔ ∃ v, t.slots[i]? = some (.keyed key v) := by
  simp only [hasKeyAt, Option.isSome_iff_exists, Option.bind_eq_some_iff,
    Slot.valueOf?_eq_some_iff, exists_eq_right]

theorem lt_length_of_hasKeyAt (h : t.hasKeyAt key i = true) : i < t.slots.length := by
  obtain ⟨v, hv⟩ := hasKeyAt_iff.1 h
  exact (List.getElem?_eq_some_iff.1 hv).1

theorem firstFrom?_eq_some_iff :
    t.firstFrom? key n = some i ↔
      t.hasKeyAt key i = true ∧ n ≤ i ∧ ∀ j, n ≤ j → j < i → t.hasKeyAt key j = false := by
  rw [firstFrom?, List.find?_range_eq_some, Bool.and_eq_true, decide_eq_true_eq, List.mem_range]
  constructor
  · rintro ⟨⟨hn, hi⟩, -, hbefore⟩
    refine ⟨hi, hn, fun j hj hlt ↦ ?_⟩
    simpa [hj] using hbefore j hlt
  · rintro ⟨hi, hn, hbefore⟩
    refine ⟨⟨hn, hi⟩, lt_length_of_hasKeyAt hi, fun j hlt ↦ ?_⟩
    by_cases hj : n ≤ j
    · simp [hj, hbefore j hj hlt]
    · simp [hj]

theorem firstFrom?_eq_none_iff :
    t.firstFrom? key n = none ↔ ∀ j, n ≤ j → t.hasKeyAt key j = false := by
  rw [firstFrom?, List.find?_range_eq_none]
  constructor
  · intro h j hj
    by_contra hkey
    rw [Bool.not_eq_false] at hkey
    have hnot := h j (lt_length_of_hasKeyAt hkey)
    simp [hj, hkey] at hnot
  · intro h j _
    by_cases hj : n ≤ j
    · simp [h j hj]
    · simp [hj]

/-- Which slot is first depends only on which slots have the key. -/
theorem firstFrom?_congr (h : ∀ j, t.hasKeyAt key j = t'.hasKeyAt key j) :
    t.firstFrom? key n = t'.firstFrom? key n := by
  refine Option.ext fun i ↦ ?_
  simp only [firstFrom?_eq_some_iff, h]

/-! ### Keys after a placement -/

theorem hasKeyAt_place (t : OptionTable) (key : String) (i j : Nat) (slot : Slot) :
    (t.place i slot).hasKeyAt key j =
      if j = i then (slot.valueOf? key).isSome else t.hasKeyAt key j := by
  rw [hasKeyAt, getElem?_place]
  split
  · rfl
  · split
    · next hgap =>
      rw [hasKeyAt, List.getElem?_eq_none hgap.1]
      rfl
    · rfl

/-- Behind the last slot there is no key. -/
theorem hasKeyAt_length (t : OptionTable) (key : String) :
    t.hasKeyAt key t.slots.length = false := by
  rw [hasKeyAt, List.getElem?_eq_none (Nat.le_refl _)]
  rfl

/-- A slot at the end is the first with its key if there was none. -/
theorem firstFrom?_place_length (hn : n ≤ t.slots.length) (v : String) :
    (t.place t.slots.length (.keyed key v)).firstFrom? key n =
      (t.firstFrom? key n).or (some t.slots.length) := by
  have hkey : ∀ j, j ≠ t.slots.length →
      (t.place t.slots.length (.keyed key v)).hasKeyAt key j = t.hasKeyAt key j :=
    fun j hj ↦ by rw [hasKeyAt_place, if_neg hj]
  cases hfirst : t.firstFrom? key n with
  | some i =>
    obtain ⟨hi, hni, hbefore⟩ := firstFrom?_eq_some_iff.1 hfirst
    have hlt := lt_length_of_hasKeyAt hi
    refine firstFrom?_eq_some_iff.2 ⟨?_, hni, fun j hj hji ↦ ?_⟩
    · rw [hkey i (by omega), hi]
    · rw [hkey j (by omega), hbefore j hj hji]
  | none =>
    have hnone := firstFrom?_eq_none_iff.1 hfirst
    refine firstFrom?_eq_some_iff.2 ⟨?_, hn, fun j hj hlt ↦ ?_⟩
    · rw [hasKeyAt_place, if_pos rfl, Slot.valueOf?, if_pos rfl, Option.isSome_some]
    · rw [hkey j (by omega), hnone j hj]

/-! ### Horizons -/

/-- The horizon of a key after an edit. A positional write to the first slot from the horizon on
moves it to the end of the table. -/
def horizonAfter (t : OptionTable) (key : String) (n : Nat) : Edit → Nat
  | .setPositional i _ => if t.firstFrom? key n = some i then t.slots.length else n
  | _ => n

/-- The horizon of a key after edits. -/
def horizon (t : OptionTable) (key : String) (n : Nat) : List Edit → Nat
  | [] => n
  | e :: es => (t.edit e).horizon key (t.horizonAfter key n e) es

/-- The owner of a key is its first slot from the horizon on. -/
structure OwnsFirst (t : OptionTable) (key : String) (n : Nat) : Prop where
  /-- The horizon is within the table or at its end. -/
  le_length : n ≤ t.slots.length
  /-- The owner is the first slot with the key that counts. -/
  owner?_eq : t.owner? key = t.firstFrom? key n

namespace OwnsFirst

/-- A placement that gives no slot the key and takes it from none changes nothing. -/
theorem place (h : t.OwnsFirst key n) {slot : Slot}
    (hkey : (slot.valueOf? key).isSome = t.hasKeyAt key i) : (t.place i slot).OwnsFirst key n where
  le_length := by
    rw [length_place]
    exact Nat.le_trans h.le_length (Nat.le_max_left _ _)
  owner?_eq := by
    have hsame : ∀ j, t.hasKeyAt key j = (t.place i slot).hasKeyAt key j := by
      intro j
      rw [hasKeyAt_place]
      split
      · next hj => rw [hj, hkey]
      · rfl
    rw [← firstFrom?_congr hsame]
    exact h.owner?_eq

theorem push (h : t.OwnsFirst key n) {slot : Slot} (hkey : slot.valueOf? key = none) :
    (t.push slot).OwnsFirst key n := by
  rw [push_eq_place]
  exact h.place (by rw [hkey, hasKeyAt_length, Option.isSome_none])

theorem append (h : t.OwnsFirst key n) (values : List String) :
    (t.append values).OwnsFirst key n := by
  induction values generalizing t with
  | nil => exact h
  | cons value values ih => exact ih (h.push rfl)

/-- A slot that is opened for the key becomes its owner if no slot counts yet. -/
theorem addKeyed (h : t.OwnsFirst key n) (k v : String) : (t.addKeyed k v).OwnsFirst key n := by
  have hlength : n ≤ (t.addKeyed k v).slots.length := by
    rw [slots_addKeyed, List.length_append]
    exact Nat.le_add_right_of_le h.le_length
  have hslots : (t.addKeyed k v).firstFrom? key n =
      (t.place t.slots.length (.keyed k v)).firstFrom? key n := by
    refine firstFrom?_congr fun j ↦ ?_
    rw [hasKeyAt, slots_addKeyed, ← push_eq_place]
    rfl
  refine ⟨hlength, ?_⟩
  rw [hslots, owner?_addKeyed]
  by_cases hk : k = key
  · subst hk
    rw [if_pos rfl, firstFrom?_place_length h.le_length, h.owner?_eq]
  · have hnone : (Slot.keyed k v).valueOf? key = none := if_neg hk
    have hplace : (t.place t.slots.length (.keyed k v)).OwnsFirst key n :=
      h.place (by rw [hnone, hasKeyAt_length, Option.isSome_none])
    rw [if_neg hk, ← hplace.owner?_eq]
    rfl

/-- A key that is set keeps its slots, or is given its first one that counts. -/
theorem setKeyed (h : t.OwnsFirst key n) (hw : t.WellFormed) (k v : String) :
    (t.setKeyed k v).OwnsFirst key n := by
  cases ho : t.owner? k with
  | none =>
    rw [setKeyed_eq_addKeyed ho]
    exact h.addKeyed k v
  | some i =>
    obtain ⟨old, hold⟩ := hw.slot_of_owner? ho
    rw [setKeyed_eq_place hw ho]
    refine h.place ?_
    rw [hasKeyAt, hold, Option.bind_some, Slot.valueOf?, Slot.valueOf?]
    split <;> rfl

/-- A positional write to the first slot that counts leaves none. Any other one leaves the owner as
it is. -/
theorem setPositional (h : t.OwnsFirst key n) (hw : t.WellFormed) (i : Nat) (v : String) :
    (t.setPositional i v).OwnsFirst key (t.horizonAfter key n (.setPositional i v)) := by
  have hkey : ∀ j, ((t.forget i).place i (.bare v)).hasKeyAt key j =
      if j = i then false else t.hasKeyAt key j :=
    fun j ↦ hasKeyAt_place (t.forget i) key i j (.bare v)
  have howner : ((t.forget i).place i (.bare v)).owner? key = (t.owner? key).filter (· ≠ i) :=
    owner?_forget hw i key
  rw [setPositional_eq hw, horizonAfter]
  split
  · next hfirst =>
    refine ⟨by rw [length_place]; exact Nat.le_max_left _ _, ?_⟩
    have hnone : ((t.forget i).place i (.bare v)).firstFrom? key t.slots.length = none := by
      refine firstFrom?_eq_none_iff.2 fun j hj ↦ ?_
      rw [hkey]
      split
      · rfl
      · by_contra hk
        have hlt := lt_length_of_hasKeyAt (Bool.of_not_eq_false hk)
        omega
    rw [hnone, howner, h.owner?_eq, hfirst]
    simp
  · next hfirst =>
    refine ⟨?_, ?_⟩
    · rw [length_place]
      exact Nat.le_trans h.le_length (Nat.le_max_left _ _)
    · rw [howner, h.owner?_eq]
      cases ho : t.firstFrom? key n with
      | none =>
        have hnone := firstFrom?_eq_none_iff.1 ho
        refine (firstFrom?_eq_none_iff.2 fun j hj ↦ ?_).symm
        rw [hkey, hnone j hj, ite_self]
      | some j =>
        have hne : j ≠ i := fun heq ↦ hfirst (heq ▸ ho)
        obtain ⟨hj, hnj, hbefore⟩ := firstFrom?_eq_some_iff.1 ho
        rw [Option.filter_some, if_pos (by simpa using hne)]
        refine (firstFrom?_eq_some_iff.2 ⟨?_, hnj, fun m hm hlt ↦ ?_⟩).symm
        · rw [hkey, if_neg hne, hj]
        · rw [hkey, hbefore m hm hlt, ite_self]

/-- Every edit keeps the owner of a key at its first slot from the horizon on. -/
theorem edit (h : t.OwnsFirst key n) (hw : t.WellFormed) (e : Edit) :
    (t.edit e).OwnsFirst key (t.horizonAfter key n e) := by
  cases e with
  | append values => exact h.append values
  | setPositional i v => exact h.setPositional hw i v
  | addKeyed k v => exact h.addKeyed k v
  | setKeyed k v => exact h.setKeyed hw k v

/-- Every run of edits does. -/
theorem edits (h : t.OwnsFirst key n) (hw : t.WellFormed) (es : List Edit) :
    (t.edits es).OwnsFirst key (t.horizon key n es) := by
  induction es generalizing t n with
  | nil => exact h
  | cons e es ih => exact ih (h.edit hw e) (hw.edit e)

end OwnsFirst

theorem ownsFirst_empty (key : String) : empty.OwnsFirst key 0 where
  le_length := Nat.le_refl 0
  owner?_eq := rfl

/-- The horizon of a key does not move unless a positional write hits its first slot. -/
theorem horizon_eq_zero {es : List Edit}
    (h : ∀ before i v after, es = before ++ .setPositional i v :: after →
      (t.edits before).firstFrom? key 0 ≠ some i) : t.horizon key 0 es = 0 := by
  induction es generalizing t with
  | nil => rfl
  | cons e es ih =>
    have hstay : t.horizonAfter key 0 e = 0 := by
      cases e with
      | setPositional i v => exact if_neg (h [] i v es rfl)
      | append | addKeyed | setKeyed => rfl
    rw [horizon, hstay]
    refine ih fun before i v after hes ↦ ?_
    exact h (e :: before) i v after (by rw [hes, List.cons_append])

/-- Where a key is set, in a table started with any values and put through any edits. Of the slots
with the key, those from its horizon on count. If there are any, the first of them is given the
value and nothing else changes; a slot is opened exactly if there are none. The horizon is 0, so
that all slots count, unless a positional write ever replaced the first slot with the key. -/
theorem setKeyed_edits_ofValues (values : List String) (es : List Edit) (key v : String) :
    let t := (ofValues values).edits es
    let n := (ofValues values).horizon key 0 es
    (∀ i old, n ≤ i → t.slots[i]? = some (.keyed key old) →
      (∀ j, n ≤ j → j < i → ∀ old', t.slots[j]? ≠ some (.keyed key old')) →
        t.setKeyed key v = { t with slots := t.slots.set i (.keyed key v) }) ∧
      ((t.setKeyed key v).slots = t.slots ++ [.keyed key v] ↔
        ∀ i, n ≤ i → ∀ old, t.slots[i]? ≠ some (.keyed key old)) ∧
      ((∀ before i v' after, es = before ++ .setPositional i v' :: after →
        ((ofValues values).edits before).firstFrom? key 0 ≠ some i) → n = 0) := by
  intro t n
  have hw : t.WellFormed := (wellFormed_ofValues values).edits es
  have hfirst : t.OwnsFirst key n :=
    ((ownsFirst_empty key).append values).edits (wellFormed_ofValues values) es
  have hlacks : ∀ i, t.hasKeyAt key i = false ↔ ∀ old, t.slots[i]? ≠ some (.keyed key old) := by
    intro i
    rw [← Bool.not_eq_true, hasKeyAt_iff, not_exists]
  have hset : ∀ i, t.firstFrom? key n = some i →
      t.setKeyed key v = { t with slots := t.slots.set i (.keyed key v) } := by
    intro i hi
    have ho : t.owner? key = some i := hfirst.owner?_eq.trans hi
    obtain ⟨old, hold⟩ := hw.slot_of_owner? ho
    rw [setKeyed, ho]
    simp only [hold]
  refine ⟨fun i old hi hold hbefore ↦ hset i ?_, ⟨fun happend ↦ ?_, fun hnone ↦ ?_⟩,
    horizon_eq_zero⟩
  · exact firstFrom?_eq_some_iff.2
      ⟨hasKeyAt_iff.2 ⟨old, hold⟩, hi, fun j hj hlt ↦ (hlacks j).2 (hbefore j hj hlt)⟩
  · cases hi : t.firstFrom? key n with
    | none => exact fun j hj ↦ (hlacks j).1 (firstFrom?_eq_none_iff.1 hi j hj)
    | some i =>
      have hlength := congrArg List.length happend
      rw [hset i hi, List.length_set, List.length_append, List.length_singleton] at hlength
      omega
  · have ho : t.owner? key = none :=
      hfirst.owner?_eq.trans (firstFrom?_eq_none_iff.2 fun j hj ↦ (hlacks j).2 (hnone j hj))
    rw [setKeyed_eq_addKeyed ho, slots_addKeyed]

/-- A key whose first slot is replaced by a bare value is set in a new slot, although another slot
has the key. -/
theorem startedOver_setKeyed :
    let t := (ofValues []).edits
      [.addKeyed "k" "a", .addKeyed "k" "b", .setPositional 0 "x"]
    t.slots = [.bare "x", .keyed "k" "b"] ∧
      (t.setKeyed "k" "c").slots = [.bare "x", .keyed "k" "b", .keyed "k" "c"] := by
  decide

end OptionTable

end MachineArgs
