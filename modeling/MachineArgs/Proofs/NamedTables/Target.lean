import MachineArgs.Proofs.NamedTables.Journal
import MachineArgs.Proofs.OptionTable.Cell
import MachineArgs.Proofs.OptionTable.Overwriting

/-!
# The table that takes writes

Writes go to the table of the current group, or to that of the implicit group if none was selected.
Whatever is done there, every other table stays as it is, and so does the order of the groups; a
group that takes its first write comes last (`TargetChanges`). This needs that the current group has
a table, which every emission sees to (`IsCoherent`).

One write goes to one slot: the slot in which the key was set before, or else a new one behind all
others (`OptionTable.WritesSlot`). Several values of one key never go to a slot that is there.
-/

namespace MachineArgs

open OptionTable (Edit)

/-! ### Slots of writes -/

namespace OptionTable

/-- One slot is written, and no other changes. It is a slot of the same key, or a new one behind all
others. -/
def WritesSlot (key? : Option String) (s : String) (t t' : OptionTable) : Prop :=
  ∃ i ≤ t.slots.length, (∀ slot ∈ t.slots[i]?, ∃ key old, key? = some key ∧ slot = .keyed key old) ∧
    ∀ j : Nat, t'.slots[j]? = if j = i then some (.ofKey key? s) else t.slots[j]?

theorem slots_append (t : OptionTable) (values : List String) :
    (t.append values).slots = t.slots ++ values.map Slot.bare := by
  induction values generalizing t with
  | nil => simp [append]
  | cons value values ih =>
    show ((t.push (.bare value)).append values).slots = _
    rw [ih, push, List.append_assoc]
    rfl

/-- A new slot at the end is one slot that is written. -/
theorem writesSlot_of_slots_eq {t t' : OptionTable} {key? : Option String} {s : String}
    (h : t'.slots = t.slots ++ [.ofKey key? s]) : t.WritesSlot key? s t' := by
  refine ⟨t.slots.length, Nat.le_refl _, ?_, fun j ↦ ?_⟩
  · intro slot hslot
    rw [List.getElem?_eq_none (Nat.le_refl _)] at hslot
    cases hslot
  · rw [h]
    split
    · next hj => rw [hj, List.getElem?_concat_length]
    · next hj =>
      rcases Nat.lt_or_gt_of_ne hj with hlt | hlt
      · exact List.getElem?_append_left hlt
      · rw [List.getElem?_eq_none (by simp; omega), List.getElem?_eq_none (by omega)]

/-- A write goes to one slot. -/
theorem WellFormed.writesSlot {t : OptionTable} (h : t.WellFormed) (key? : Option String)
    (s : String) : t.WritesSlot key? s (t.edit (.write key? s)) := by
  cases key? with
  | none => exact writesSlot_of_slots_eq (slots_append t [s])
  | some key =>
    cases ho : t.owner? key with
    | none =>
      refine writesSlot_of_slots_eq ?_
      show (t.setKeyed key s).slots = _
      rw [setKeyed_eq_addKeyed ho, slots_addKeyed]
      rfl
    | some i =>
      have hposition : t.setPosition key = i := by rw [setPosition, ho, Option.getD_some]
      obtain ⟨old, hold⟩ := h.slot_of_owner? ho
      refine ⟨i, Nat.le_of_lt (h.owner_lt (h.mem_owners.1 ho)), ?_, fun j ↦ ?_⟩
      · intro slot hslot
        obtain rfl := Option.some.inj (hold.symm.trans hslot)
        exact ⟨key, old, rfl, rfl⟩
      · rw [← hposition]
        exact h.getElem?_setKeyed key s j

/-- Values of one key, or bare ones, each take a new slot. -/
theorem slots_edits_writeNext (t : OptionTable) (key? : Option String) (texts : List String) :
    (t.edits (texts.map (Edit.writeNext key?))).slots = t.slots ++ texts.map (Slot.ofKey key?) := by
  cases key? with
  | some key => exact slots_addAll t key texts
  | none =>
    induction texts generalizing t with
    | nil => simp
    | cons s texts ih =>
      show ((t.append [s]).edits _).slots = _
      rw [ih, slots_append, List.append_assoc]
      rfl

end OptionTable

/-! ### The target -/

namespace NamedTables

/-- The group that takes writes. -/
def targetName (t : NamedTables) : String :=
  t.current.getD implicitGroup

/-- The table that takes writes, which is empty as long as its group has none. -/
def target (t : NamedTables) : OptionTable :=
  (t.get? t.targetName).getD .empty

/-- The table that takes writes is changed as a relation says, and nothing else is. -/
structure TargetChanges (R : OptionTable → OptionTable → Prop) (t t' : NamedTables) : Prop where
  /-- The group that takes writes is the current one afterwards. -/
  current_eq : t'.current = some t.targetName
  /-- The groups keep their order. The one that takes writes comes last if it is new. -/
  names_eq : t'.names = if t.targetName ∈ t.names then t.names else t.names ++ [t.targetName]
  /-- The other tables are the same. -/
  get?_eq : ∀ name ≠ t.targetName, t'.get? name = t.get? name
  /-- The table that takes writes is changed. -/
  exists_table : ∃ table, t'.get? t.targetName = some table ∧ R t.target table

/-- The current group, if there is one, has a table. -/
def IsCoherent (t : NamedTables) : Prop :=
  ∀ n, t.current = some n → n ∈ t.names

variable {t : NamedTables} {n m : String}

theorem get?_eq_none_iff : t.get? n = none ↔ n ∉ t.names := by
  rw [get?, List.lookup_eq_none_iff, names, List.mem_map]
  grind

@[simp]
theorem names_modify (t : NamedTables) (n : String) (f : OptionTable → OptionTable) :
    (t.modify n f).names = t.names := by
  simp [names, modify, Function.comp_def]

theorem names_select (t : NamedTables) (n : String) :
    (t.select n).names = if n ∈ t.names then t.names else t.names ++ [n] := by
  rw [select, names]
  simp only [List.contains_iff_mem]
  split
  · rfl
  · rw [List.map_append]
    rfl

theorem get?_select (t : NamedTables) (n m : String) :
    (t.select n).get? m = if m = n then some ((t.get? n).getD .empty) else t.get? m := by
  rw [select, get?]
  simp only [List.contains_iff_mem]
  by_cases hn : n ∈ t.names
  · rw [if_pos hn]
    split
    · next hm =>
      subst hm
      cases hget : t.get? m with
      | none => exact absurd hn (get?_eq_none_iff.1 hget)
      | some table => exact hget
    · rfl
  · rw [if_neg hn, List.lookup_append]
    have hnone := get?_eq_none_iff.2 hn
    split
    · next hm =>
      subst hm
      rw [hnone, ← get?, hnone]
      simp
    · next hm =>
      have hne : (m == n) = false := by simpa using hm
      rw [List.lookup_cons, hne]
      simp [get?]

theorem get?_modify (t : NamedTables) (n m : String) (f : OptionTable → OptionTable) :
    (t.modify n f).get? m = if m = n then (t.get? m).map f else t.get? m := by
  rw [modify, get?, get?]
  induction t.groups with
  | nil => simp
  | cons group groups ih =>
    rw [List.map_cons, List.lookup_cons, List.lookup_cons, ih]
    grind

/-- Selecting the current group changes nothing. -/
theorem select_current (h : t.current = some n) (hn : n ∈ t.names) : t.select n = t := by
  rw [select, if_pos (List.contains_iff_mem.2 hn), ← h]

theorem IsCoherent.onTarget_eq (h : t.IsCoherent) (f : OptionTable → OptionTable) :
    t.onTarget f = (t.select t.targetName).modify t.targetName f := by
  rw [onTarget, targetName]
  cases hcurrent : t.current with
  | none => rfl
  | some n => rw [Option.getD_some, select_current hcurrent (h n hcurrent)]

/-- Whatever is done to the table that takes writes, nothing else changes. -/
theorem IsCoherent.targetChanges (h : t.IsCoherent) {R : OptionTable → OptionTable → Prop}
    {f : OptionTable → OptionTable} (hR : R t.target (f t.target)) :
    TargetChanges R t (t.onTarget f) := by
  rw [h.onTarget_eq]
  refine ⟨rfl, ?_, fun name hname ↦ ?_, f t.target, ?_, hR⟩
  · rw [names_modify, names_select]
  · rw [get?_modify, if_neg hname, get?_select, if_neg hname]
  · rw [get?_modify, if_pos rfl, get?_select, if_pos rfl]
    rfl

/-! ### Runs of writes -/

theorem perform_write (t : NamedTables) (key? : Option String) (s : String) :
    t.perform (.write key? s) = t.onTarget (·.edit (.write key? s)) := by
  cases key? <;> rfl

theorem onTarget_onTarget (t : NamedTables) (f f' : OptionTable → OptionTable) :
    (t.onTarget f).onTarget f' = t.onTarget (f' ∘ f) := by
  have hmodify : ∀ (t : NamedTables) (n : String),
      (t.modify n f).modify n f' = t.modify n (f' ∘ f) := by
    intro t n
    simp only [modify, List.map_map, mk.injEq, and_true]
    refine List.map_congr_left fun group _ ↦ ?_
    by_cases hn : group.1 = n <;> simp [hn]
  cases hcurrent : t.current with
  | none =>
    -- the first of the two selects the implicit group, and the second finds it current
    simp only [onTarget, hcurrent]
    exact hmodify _ _
  | some n =>
    have hnext : (t.modify n f).current = some n := hcurrent
    simp only [onTarget, hcurrent, hnext]
    exact hmodify t n

/-- Several values of one key, or bare ones, all go to the table that takes writes. -/
theorem run_writeNext (t : NamedTables) (key? : Option String) {texts : List String}
    (h : texts ≠ []) :
    t.run (texts.map (Emission.writeNext key?)) =
      t.onTarget (·.edits (texts.map (Edit.writeNext key?))) := by
  have hperform : ∀ (t : NamedTables) (s : String), t.perform (.writeNext key? s) =
      t.onTarget (·.edit (.writeNext key? s)) := by
    intro t s
    cases key? <;> rfl
  induction texts generalizing t with
  | nil => exact absurd rfl h
  | cons s texts ih =>
    rw [List.map_cons, run_cons, hperform]
    cases texts with
    | nil => rfl
    | cons s' texts =>
      rw [ih _ (by simp), onTarget_onTarget]
      rfl

/-! ### Tables of encodings -/

theorem isCoherent_select (t : NamedTables) (n : String) : (t.select n).IsCoherent := by
  intro m hm
  obtain rfl := Option.some.inj (show some n = some m from hm)
  rw [names_select]
  split
  · assumption
  · exact List.mem_append_right _ (List.mem_singleton_self n)

namespace IsCoherent

theorem onTarget (h : t.IsCoherent) (f : OptionTable → OptionTable) :
    (t.onTarget f).IsCoherent := by
  intro n hn
  rw [h.onTarget_eq] at hn ⊢
  rw [names_modify]
  exact isCoherent_select t t.targetName n hn

/-- After every emission the current group has a table. -/
theorem perform (h : t.IsCoherent) (e : Emission) : (t.perform e).IsCoherent := by
  cases e with
  | select name => exact isCoherent_select t name
  | set | add | append => exact h.onTarget _

theorem run (h : t.IsCoherent) (es : List Emission) : (t.run es).IsCoherent := by
  induction es generalizing t with
  | nil => exact h
  | cons e es ih => exact ih (h.perform e)

end IsCoherent

/-- In the tables of an encoding the current group has a table. -/
theorem isCoherent_run_initial (group : Option String) (es : List Emission) :
    ((initial group).run es).IsCoherent := by
  refine IsCoherent.run ?_ es
  cases group with
  | none => exact nofun
  | some name => exact isCoherent_select {} name

/-- In the tables of an encoding the one that takes writes is well formed. -/
theorem wellFormed_target_run_initial (group : Option String) (es : List Emission) :
    ((initial group).run es).target.WellFormed := by
  rw [target, (run_initial group es).1, get?_ofJournal]
  split
  · exact OptionTable.wellFormed_empty.edits _
  · exact OptionTable.wellFormed_empty

end NamedTables

end MachineArgs
