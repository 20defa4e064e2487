import Mathlib.Data.List.Basic
import Mathlib.Data.List.Induction
import MachineArgs.Proofs.OptionTable.LastValue

/-!
# Slots after plain writes

A plain write sets a key or appends a bare value. After such writes, starting from the empty table,
the slots are told by the writes alone (`slots_edits_eq`): there is one slot for each write that
does not repeat an earlier key, in the order of these writes, and the slot of a key has the value
that was written last under the key. All other writes to the key leave nothing behind.

One more write either opens a slot at the end or gives a new value to the one slot of its key; which
of the two is decided by the owner, and the owner is there exactly if the key was written before
(`Holds`). What is left is that the settled slots change in the same way
(`settledSlots_concat_bare`, `settledSlots_concat_keyed`).
-/

namespace MachineArgs

namespace Slot

/-- The key of a slot, if it has one. -/
def key? : Slot → Option String
  | keyed key _ => some key
  | _ => none

/-- The slot with another value if it has the given key. -/
def revalue (key value : String) (slot : Slot) : Slot :=
  if (slot.valueOf? key).isSome then .keyed key value else slot

/-- Slots without a key keep their values. -/
theorem map_revalue_eq_self {key : String} {slots : List Slot}
    (h : slots.filterMap (valueOf? key) = []) (value : String) :
    slots.map (revalue key value) = slots := by
  rw [List.filterMap_eq_nil_iff] at h
  have hslot : ∀ slot ∈ slots, slot.revalue key value = slot := by
    intro slot hmem
    rw [revalue, h slot hmem]
    rfl
  exact (List.map_congr_left hslot).trans (List.map_id slots)

end Slot

namespace OptionTable

/-- A value to be written, under a key or bare. -/
structure Write where
  /-- The key. -/
  key? : Option String
  /-- The value. -/
  value : String

namespace Write

/-- The edit that makes a write. -/
def edit (w : Write) : Edit :=
  .write w.key? w.value

/-- Whether a write has the key of another. Bare writes have none. -/
def repeats (w w' : Write) : Bool :=
  w.key?.isSome && w.key? == w'.key?

/-- The writes that repeat no earlier key, in order. -/
def firsts : List Write → List Write
  | [] => []
  | w :: ws => w :: (firsts ws).filter fun w' ↦ !w'.repeats w

/-- The value that is written if the write has the key. -/
def valueFor? (key : String) (w : Write) : Option String :=
  if w.key? = some key then some w.value else none

/-- The value that is written last under a key. -/
def lastValue? (key : String) (ws : List Write) : Option String :=
  (ws.filterMap (valueFor? key)).getLast?

/-- The slot of a write that repeats no key, once all writes are made. -/
def settled (ws : List Write) (w : Write) : Slot :=
  match w.key? with
  | none => .bare w.value
  | some key => .keyed key ((lastValue? key ws).getD w.value)

theorem setOf?_edit (key : String) (w : Write) : w.edit.setOf? key = w.valueFor? key := by
  obtain ⟨key?, value⟩ := w
  cases key? with
  | none => rfl
  | some key' => simp [edit, Edit.write, Edit.setOf?, valueFor?]

theorem spares_edit (key : String) (w : Write) : w.edit.Spares key := by
  obtain ⟨key?, value⟩ := w
  cases key? <;> trivial

theorem lastValue?_concat (key : String) (ws : List Write) (w : Write) :
    lastValue? key (ws ++ [w]) = (w.valueFor? key).or (lastValue? key ws) := by
  rw [lastValue?, List.filterMap_append, List.getLast?_append, lastValue?]
  congr 1
  cases hv : w.valueFor? key with
  | none => rw [List.filterMap_cons_none hv]; rfl
  | some v => rw [List.filterMap_cons_some hv]; rfl

/-- A write repeats an earlier key if the key was given a value. -/
theorem any_repeats (key value : String) (ws : List Write) :
    ws.any (repeats ⟨some key, value⟩) = (lastValue? key ws).isSome := by
  rw [Bool.eq_iff_iff, List.any_eq_true, lastValue?, List.getLast?_isSome, ne_eq,
    List.filterMap_eq_nil_iff, not_forall]
  refine exists_congr fun w ↦ ?_
  rw [repeats, valueFor?, Classical.not_imp]
  by_cases hkey : w.key? = some key
  · simp [hkey]
  · simp [hkey, Ne.symm hkey]

/-- One more write counts if it repeats no earlier key. -/
theorem firsts_concat (ws : List Write) (w : Write) :
    firsts (ws ++ [w]) = if ws.any w.repeats then firsts ws else firsts ws ++ [w] := by
  induction ws with
  | nil => rfl
  | cons w' ws ih =>
    rw [List.cons_append, firsts, ih, List.any_cons, firsts]
    cases hany : ws.any w.repeats with
    | true => simp
    | false =>
      cases hrep : w.repeats w' with
      | true => simp [hrep]
      | false => simp [hrep]

/-- The writes that repeat no key have different keys. -/
theorem nodup_keys_firsts (ws : List Write) : ((firsts ws).filterMap key?).Nodup := by
  induction ws with
  | nil => exact List.nodup_nil
  | cons w ws ih =>
    have hrest : (((firsts ws).filter fun w' ↦ !w'.repeats w).filterMap key?).Nodup :=
      ih.sublist (List.filter_sublist.filterMap key?)
    rw [firsts]
    cases hkey : w.key? with
    | none => rwa [List.filterMap_cons_none hkey]
    | some key =>
      rw [List.filterMap_cons_some hkey]
      refine List.nodup_cons.2 ⟨fun hmem ↦ ?_, hrest⟩
      obtain ⟨w', hw', hkey'⟩ := List.mem_filterMap.1 hmem
      have hnot := (List.mem_filter.1 hw').2
      simp [repeats, hkey, hkey'] at hnot

/-- A bare write settles no other slot differently. -/
theorem settled_concat_bare (ws : List Write) (value : String) :
    settled (ws ++ [⟨none, value⟩]) = settled ws := by
  funext w
  rw [settled, settled]
  cases w.key? with
  | none => rfl
  | some key =>
    simp only
    rw [lastValue?_concat]
    rfl

/-- A write with a key gives its value to the slots of the key. -/
theorem settled_concat_keyed (ws : List Write) (key value : String) :
    settled (ws ++ [⟨some key, value⟩]) = Slot.revalue key value ∘ settled ws := by
  funext w
  rw [Function.comp_apply, settled, settled]
  cases hkey : w.key? with
  | none => rfl
  | some key' =>
    simp only
    rw [lastValue?_concat, Slot.revalue, Slot.valueOf?, valueFor?]
    by_cases hk : key' = key
    · subst hk
      simp
    · have hk' : ¬some key = some key' := fun heq ↦ hk (Option.some.inj heq).symm
      simp [hk, hk']

end Write

/-- The slots that writes leave behind: one for each that repeats no key, with the last value of its
key. -/
def settledSlots (ws : List Write) : List Slot :=
  (Write.firsts ws).map (Write.settled ws)

/-- A bare write opens a slot. -/
theorem settledSlots_concat_bare (ws : List Write) (value : String) :
    settledSlots (ws ++ [⟨none, value⟩]) = settledSlots ws ++ [.bare value] := by
  have hany : ws.any (Write.repeats ⟨none, value⟩) = false := by simp [Write.repeats]
  rw [settledSlots, Write.firsts_concat, hany, Write.settled_concat_bare, settledSlots]
  exact List.map_append

/-- A write with a key gives its value to the slot of the key, or opens one. -/
theorem settledSlots_concat_keyed (ws : List Write) (key value : String) :
    settledSlots (ws ++ [⟨some key, value⟩]) =
      (settledSlots ws).map (Slot.revalue key value) ++
        if (Write.lastValue? key ws).isSome then [] else [.keyed key value] := by
  rw [settledSlots, Write.firsts_concat, Write.any_repeats, Write.settled_concat_keyed,
    settledSlots, List.map_map]
  cases hlast : Write.lastValue? key ws with
  | some old => exact (List.append_nil _).symm
  | none =>
    show List.map _ (Write.firsts ws ++ [⟨some key, value⟩]) = _
    rw [List.map_append]
    simp [Write.settled, hlast, Slot.revalue, Slot.valueOf?]

/-- The table after plain writes has a slot for a key if there was a write for it, with the value of
the last one. -/
theorem holds_edits (key : String) (ws : List Write) :
    (empty.edits (ws.map Write.edit)).Holds key (Write.lastValue? key ws) := by
  have hspares : ∀ e ∈ ws.map Write.edit, e.Spares key := by
    intro e he
    obtain ⟨w, -, rfl⟩ := List.mem_map.1 he
    exact w.spares_edit key
  have hholds := (holds_empty key).edits hspares
  have hvalues : (ws.map Write.edit).filterMap (Edit.setOf? key) =
      ws.filterMap (Write.valueFor? key) := by
    rw [List.filterMap_map]
    exact List.filterMap_congr fun w _ ↦ w.setOf?_edit key
  rwa [Option.or_none, hvalues] at hholds

/-- After plain writes the slots are the settled ones. -/
theorem slots_edits_eq (ws : List Write) :
    (empty.edits (ws.map Write.edit)).slots = settledSlots ws := by
  induction ws using List.reverseRecOn with
  | nil => rfl
  | append_singleton ws w ih =>
    have hlast : empty.edits ((ws ++ [w]).map Write.edit) =
        (empty.edits (ws.map Write.edit)).edit w.edit := by
      rw [List.map_append, List.map_singleton, edits_concat]
    rw [hlast]
    obtain ⟨key?, value⟩ := w
    cases key? with
    | none =>
      rw [settledSlots_concat_bare, ← ih]
      rfl
    | some key =>
      rw [settledSlots_concat_keyed, ← ih]
      have hholds := holds_edits key ws
      generalize empty.edits (ws.map Write.edit) = t at hholds
      show (t.setKeyed key value).slots = _
      cases ho : t.owner? key with
      | none =>
        have hnone : Write.lastValue? key ws = none := by
          rw [← Option.not_isSome_iff_eq_none, ← hholds.isSome_owner?, ho]
          simp
        have hslots := hholds.filterMap_slots
        rw [hnone] at hslots
        rw [hnone, setKeyed_eq_addKeyed ho, slots_addKeyed, Slot.map_revalue_eq_self hslots]
        rfl
      | some i =>
        have hsome : (Write.lastValue? key ws).isSome = true := by
          rw [← hholds.isSome_owner?, ho]
          rfl
        -- no other slot has the key, so only this one is given the value
        obtain ⟨before, old, after, hslots, hset, -, hbefore, hafter⟩ :=
          hholds.exists_slots_setKeyed ho value
        have hslot : (Slot.keyed key old).revalue key value = .keyed key value := by
          simp [Slot.revalue, Slot.valueOf?]
        rw [hset, hslots, if_pos hsome, List.append_nil, List.map_append, List.map_cons, hslot,
          Slot.map_revalue_eq_self hbefore, Slot.map_revalue_eq_self hafter]

theorem keys_settledSlots (ws : List Write) :
    (settledSlots ws).filterMap Slot.key? = (Write.firsts ws).filterMap Write.key? := by
  rw [settledSlots, List.filterMap_map]
  refine List.filterMap_congr fun w _ ↦ ?_
  rw [Function.comp_apply, Write.settled]
  cases w.key? <;> rfl

/-- A table after plain writes: its slots are settled by the writes, all of them are shown and
written, and their keys are different. -/
structure IsSettled (t : OptionTable) (ws : List Write) : Prop where
  /-- The slots are told by the writes. -/
  slots_eq : t.slots = settledSlots ws
  /-- Every slot is shown. -/
  visible_eq : t.visible = t.slots
  /-- No slot is padding. -/
  padding_notMem : Slot.padding ∉ t.slots
  /-- No two slots have one key. -/
  nodup_keys : (t.slots.filterMap Slot.key?).Nodup

theorem isSettled_edits (ws : List Write) : (empty.edits (ws.map Write.edit)).IsSettled ws := by
  have hholds := holds_edits "" ws
  refine ⟨slots_edits_eq ws, hholds.wellFormed.visible_eq_slots hholds.padding_notMem,
    hholds.padding_notMem, ?_⟩
  rw [slots_edits_eq, keys_settledSlots]
  exact Write.nodup_keys_firsts ws

example :
    settledSlots [⟨some "a", "1"⟩, ⟨none, "x"⟩, ⟨some "b", "2"⟩, ⟨some "a", "3"⟩, ⟨none, "x"⟩] =
      [.keyed "a" "3", .bare "x", .keyed "b" "2", .bare "x"] := by decide

end OptionTable

end MachineArgs
