import MachineArgs.Proofs.OptionTable.WellFormed

/-!
# Values that are overwritten

Setting a key twice is setting it to the second value: the first one leaves no trace. Other edits
may come in between, as long as they neither set the key nor put a bare value in the place of its
slot (`Edit.Avoids`). Slots may be opened for the same key, other keys may be set, and positional
writes may fall before the slot, behind it and beyond the end.

Every setting of a key is two of the moves of a well-formed table: a slot is placed at the position
where the key is set (`setPosition`), and the key owns that position (`WellFormed.setKeyed_eq`).
Placements at different positions commute as long as one of them is inside the table (`place_comm`),
and dropping or giving owners does not see the slots at all. So a placement at the owner of a key
commutes with every edit that avoids it (`WellFormed.edit_setKeyed`) and moves to the end of a run
of such edits, where it takes the value of the second setting.
-/

namespace MachineArgs

namespace OptionTable

variable {t : OptionTable} {key : String} {i j : Nat}

/-! ### Moves that commute -/

/-- Tables are equal if they have the same slot at every position, and the rest is equal. -/
theorem ext_slots {t t' : OptionTable} (hslots : ∀ j : Nat, t.slots[j]? = t'.slots[j]?)
    (howners : t.owners = t'.owners) (hstart : t.start = t'.start) : t = t' := by
  obtain ⟨slots, owners, start⟩ := t
  obtain ⟨slots', owners', start'⟩ := t'
  obtain rfl : slots = slots' := List.ext_getElem? hslots
  obtain rfl : owners = owners' := howners
  obtain rfl : start = start' := hstart
  rfl

theorem length_place_of_lt (hi : i < t.slots.length) (a : Slot) :
    (t.place i a).slots.length = t.slots.length := by
  rw [length_place]
  omega

/-- Of two placements at one position the second counts. -/
theorem place_place (t : OptionTable) (i : Nat) (a b : Slot) :
    (t.place i a).place i b = t.place i b := by
  refine ext_slots (fun j ↦ ?_) rfl ?_
  · simp only [getElem?_place, length_place]
    by_cases hj : j = i
    · rw [if_pos hj, if_pos hj]
    · rw [if_neg hj, if_neg hj, if_neg hj, if_neg (by omega)]
  · rw [start_place, start_place, startWith, start_place]
    simp only [startWith]
    split <;> simp

/-- Placements at different positions commute if one of them is inside the table. -/
theorem place_comm (hi : i < t.slots.length) (hne : j ≠ i) (a b : Slot) :
    (t.place i a).place j b = (t.place j b).place i a := by
  refine ext_slots (fun m ↦ ?_) rfl ?_
  · have hlength : max t.slots.length (i + 1) = t.slots.length := by omega
    simp only [getElem?_place, length_place, hlength]
    by_cases hmi : m = i
    · -- the position inside keeps what was placed there, since the gap is behind the last slot
      subst hmi
      rw [if_neg (Ne.symm hne), if_neg (by omega), if_pos rfl, if_pos rfl]
    · rw [if_neg hmi, if_neg hmi, if_neg (show ¬(t.slots.length ≤ m ∧ m < i) by omega),
        if_neg (show ¬(max t.slots.length (j + 1) ≤ m ∧ m < i) by omega)]
  · rw [start_place, start_place, startWith, startWith, start_place, start_place]
    simp only [startWith]
    split <;> simp only [Option.some.injEq] <;> omega

/-- Owners are given without regard to the slots. -/
theorem place_own (t : OptionTable) (k : String) (i j : Nat) (a : Slot) :
    (t.own k i).place j a = (t.place j a).own k i := by
  have howner : (t.place j a).owner? k = t.owner? k := rfl
  rw [own, own, howner]
  cases t.owner? k <;> rfl

/-- A key is given an owner once. -/
theorem own_own (t : OptionTable) (k : String) (i : Nat) : (t.own k i).own k i = t.own k i := by
  have howner : ((t.own k i).owner? k).isSome = true := by
    rw [owner?_own, if_pos rfl]
    cases t.owner? k <;> rfl
  obtain ⟨j, hj⟩ := Option.isSome_iff_exists.1 howner
  rw [own, hj]

/-! ### Where a key is set -/

/-- The position at which a key is set: that of its owner, or the one behind the last slot. -/
def setPosition (t : OptionTable) (key : String) : Nat :=
  (t.owner? key).getD t.slots.length

/-- Setting a key places a slot where the key is set, and the key owns this position. -/
theorem WellFormed.setKeyed_eq (h : t.WellFormed) (key v : String) :
    t.setKeyed key v =
      (t.place (t.setPosition key) (.keyed key v)).own key (t.setPosition key) := by
  rw [setPosition]
  cases ho : t.owner? key with
  | none =>
    rw [setKeyed_eq_addKeyed ho, addKeyed_eq]
    rfl
  | some i =>
    have howner : (t.place i (.keyed key v)).owner? key = some i := ho
    rw [setKeyed_eq_place h ho, Option.getD_some, OptionTable.own, howner]

/-- The slot of the key is the only one that a setting changes. -/
theorem WellFormed.getElem?_setKeyed (h : t.WellFormed) (key v : String) (j : Nat) :
    (t.setKeyed key v).slots[j]? =
      if j = t.setPosition key then some (.keyed key v) else t.slots[j]? := by
  have hslots : (t.setKeyed key v).slots =
      (t.place (t.setPosition key) (.keyed key v)).slots := by
    rw [h.setKeyed_eq, OptionTable.own]
    split <;> rfl
  have hle : t.setPosition key ≤ t.slots.length := by
    rw [setPosition]
    cases ho : t.owner? key with
    | none => exact Nat.le_refl _
    | some i => exact Nat.le_of_lt (h.owner_lt (h.mem_owners.1 ho))
  rw [hslots, getElem?_place]
  split
  · rfl
  · rw [if_neg (by omega)]

/-- The key owns the position at which it was set. -/
theorem WellFormed.owner?_setKeyed (h : t.WellFormed) (key v : String) :
    (t.setKeyed key v).owner? key = some (t.setPosition key) := by
  rw [h.setKeyed_eq, owner?_own, if_pos rfl, setPosition]
  show (t.owner? key).or _ = _
  cases t.owner? key <;> rfl

/-- Of two settings in a row the second counts. -/
theorem WellFormed.setKeyed_setKeyed (h : t.WellFormed) (key v v' : String) :
    (t.setKeyed key v).setKeyed key v' = t.setKeyed key v' := by
  have hposition : (t.setKeyed key v).setPosition key = t.setPosition key := by
    rw [setPosition, h.owner?_setKeyed, Option.getD_some]
  rw [(h.setKeyed key v).setKeyed_eq, hposition, h.setKeyed_eq, place_own, place_place, own_own,
    ← h.setKeyed_eq]

/-! ### Edits in between -/

/-- An edit that does not set a key, and puts no bare value in the place of its slot. -/
def Edit.Avoids (key : String) (i : Nat) : Edit → Prop
  | .setKeyed key' _ => key' ≠ key
  | .setPositional j _ => j ≠ i
  | _ => True

instance (key : String) (i : Nat) : (e : Edit) → Decidable (e.Avoids key i)
  | .append _ | .addKeyed _ _ => .isTrue trivial
  | .setPositional j _ => inferInstanceAs (Decidable (j ≠ i))
  | .setKeyed key' _ => inferInstanceAs (Decidable (key' ≠ key))

theorem owner?_append (t : OptionTable) (key : String) (values : List String) :
    (t.append values).owner? key = t.owner? key := by
  induction values generalizing t with
  | nil => rfl
  | cons value values ih => exact ih (t.push (.bare value))

/-- A slot inside the table is placed before further ones are opened or after. -/
theorem append_place (hi : i < t.slots.length) (a : Slot) (values : List String) :
    (t.place i a).append values = (t.append values).place i a := by
  induction values generalizing t with
  | nil => rfl
  | cons value values ih =>
    have hpush : (t.place i a).push (.bare value) = (t.push (.bare value)).place i a := by
      rw [push_eq_place, push_eq_place, length_place_of_lt hi, place_comm hi (by omega)]
    have hlt : i < (t.push (.bare value)).slots.length := by
      rw [push_eq_place, length_place]
      omega
    show ((t.place i a).push (.bare value)).append values = _
    rw [hpush]
    exact ih hlt

namespace WellFormed

variable {e : Edit} {es : List Edit}

/-- A key keeps its owner through an edit that avoids it. -/
theorem owner?_edit (h : t.WellFormed) (ho : t.owner? key = some i) (he : e.Avoids key i) :
    (t.edit e).owner? key = some i := by
  cases e with
  | append values => exact (owner?_append t key values).trans ho
  | setPositional j v =>
    have hforget : (t.setPositional j v).owner? key = (t.owner? key).filter (· ≠ j) := by
      rw [setPositional_eq h]
      exact owner?_forget h j key
    have hne : i ≠ j := Ne.symm he
    show (t.setPositional j v).owner? key = _
    rw [hforget, ho, Option.filter_some, if_pos (by simpa using hne)]
  | addKeyed k v =>
    show (t.addKeyed k v).owner? key = _
    rw [owner?_addKeyed, ho]
    split <;> rfl
  | setKeyed k v =>
    have hne : k ≠ key := he
    show (t.setKeyed k v).owner? key = _
    rw [h.setKeyed_eq, owner?_own, if_neg hne]
    exact ho

/-- Setting a key that has an owner commutes with an edit that avoids it. -/
theorem edit_setKeyed (h : t.WellFormed) (ho : t.owner? key = some i) (he : e.Avoids key i)
    (v : String) : (t.setKeyed key v).edit e = (t.edit e).setKeyed key v := by
  have hi : i < t.slots.length := h.owner_lt (h.mem_owners.1 ho)
  have hlength := length_place_of_lt hi (.keyed key v)
  have hplaced : (t.place i (.keyed key v)).WellFormed := by
    rw [← setKeyed_eq_place h ho]
    exact h.setKeyed key v
  rw [setKeyed_eq_place h ho, setKeyed_eq_place (h.edit e) (h.owner?_edit ho he)]
  cases e with
  | append values => exact append_place hi _ values
  | setPositional j w =>
    have hforget : (t.place i (.keyed key v)).forget j = (t.forget j).place i (.keyed key v) := rfl
    show (t.place i _).setPositional j w = (t.setPositional j w).place i _
    rw [setPositional_eq hplaced, setPositional_eq h, hforget,
      place_comm (t := t.forget j) hi he]
  | addKeyed k w =>
    show (t.place i _).addKeyed k w = (t.addKeyed k w).place i _
    rw [addKeyed_eq, addKeyed_eq, hlength, place_comm hi (by omega), place_own]
  | setKeyed k w =>
    have hposition : (t.place i (.keyed key v)).setPosition k = t.setPosition k := by
      rw [setPosition, hlength]
      rfl
    -- the slot at the owner of one key has no other key
    have hne : t.setPosition k ≠ i := by
      intro heq
      rw [setPosition] at heq
      cases hk : t.owner? k with
      | none =>
        rw [hk, Option.getD_none] at heq
        omega
      | some j =>
        obtain rfl : j = i := by rwa [hk] at heq
        obtain ⟨old, hold⟩ := h.slot_of_owner? hk
        obtain ⟨old', hold'⟩ := h.slot_of_owner? ho
        rw [hold] at hold'
        exact he (Slot.keyed.inj (Option.some.inj hold')).1
    show (t.place i _).setKeyed k w = (t.setKeyed k w).place i _
    rw [hplaced.setKeyed_eq, h.setKeyed_eq, hposition, place_comm hi hne, place_own]

/-- Setting a key that has an owner commutes with every run of edits that avoid it. -/
theorem edits_setKeyed (h : t.WellFormed) (ho : t.owner? key = some i)
    (hes : ∀ e ∈ es, e.Avoids key i) (v : String) :
    (t.setKeyed key v).edits es = (t.edits es).setKeyed key v := by
  induction es generalizing t with
  | nil => rfl
  | cons e es ih =>
    rw [List.forall_mem_cons] at hes
    rw [edits_cons, edits_cons, h.edit_setKeyed ho hes.1]
    exact ih (h.edit e) (h.owner?_edit ho hes.1) hes.2

end WellFormed

/-- A value that a key is set to leaves no trace once the key is set again, in a table started with
any values and put through any edits. The key is set at one position, where its slot is the only one
to change; edits in between may do anything but set the key or put a bare value at this position. -/
theorem edits_setKeyed_twice (values : List String) (es : List Edit) (key : String) :
    let t := (ofValues values).edits es
    (∀ v j, (t.setKeyed key v).slots[j]? =
      if j = t.setPosition key then some (.keyed key v) else t.slots[j]?) ∧
      ∀ v v' ops, (∀ e ∈ ops, e.Avoids key (t.setPosition key)) →
        t.edits (.setKeyed key v :: ops ++ [.setKeyed key v']) =
          t.edits (.setKeyed key v' :: ops) := by
  intro t
  have hw : t.WellFormed := (wellFormed_ofValues values).edits es
  refine ⟨hw.getElem?_setKeyed key, fun v v' ops hops ↦ ?_⟩
  calc t.edits (.setKeyed key v :: ops ++ [.setKeyed key v'])
      = ((t.setKeyed key v).edits ops).setKeyed key v' := by
        rw [List.cons_append, edits_cons, edits, List.foldl_append]
        rfl
    _ = ((t.setKeyed key v).setKeyed key v').edits ops :=
        ((hw.setKeyed key v).edits_setKeyed (hw.owner?_setKeyed key v) hops v').symm
    _ = t.edits (.setKeyed key v' :: ops) := by
        rw [hw.setKeyed_setKeyed]
        rfl

/-- Between two settings of a key that owns the second slot, another slot is opened for it, another
key is set, and bare values are put before its slot and beyond the end. -/
theorem edits_setKeyed_twice_between :
    let t := (ofValues ["tcp"]).edits [.addKeyed "port" "22"]
    let ops : List Edit := [.addKeyed "port" "80", .setPositional 0 "udp", .setKeyed "host" "a",
      .setPositional 5 "nowait", .setKeyed "host" "b"]
    (∀ e ∈ ops, e.Avoids "port" (t.setPosition "port")) ∧
      t.edits (.setKeyed "port" "1" :: ops ++ [.setKeyed "port" "2"]) =
        t.edits (.setKeyed "port" "2" :: ops) := by
  intro t ops
  have hops : ∀ e ∈ ops, e.Avoids "port" (t.setPosition "port") := by decide
  exact ⟨hops, (edits_setKeyed_twice ["tcp"] [.addKeyed "port" "22"] "port").2 "1" "2" ops hops⟩

end OptionTable

end MachineArgs
