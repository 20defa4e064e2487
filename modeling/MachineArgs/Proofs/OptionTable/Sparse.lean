import Mathlib.Data.Finmap
import Mathlib.Data.Finset.Lattice.Fold
import Mathlib.Data.Finset.Sort
import Mathlib.Order.Lattice.Nat
import MachineArgs.Proofs.OptionTable.WellFormed

/-!
# Option tables as finite maps

The simple picture of a table: a finite map from positions to entries, and for some keys the
position that owns them (`SparseTable`). There is no padding, no window and no list of owners in
it; a position without an entry is just absent, and a new entry goes behind the largest position in
use.

A table *refines* a sparse table if both have the same entries and the same owners (`Refines`). Each
of the moves that edits are made of keeps this up, and so do the edits. The one place where the two
sides count differently is the position of a new slot: the table takes the number of its slots, the
map takes its largest position. These agree because the last slot of a table is never padding
(`Refines.next_eq`).

Whatever is done to a table, it refines the sparse table to which the same is done, and both have
the same size and are written alike (`forall₂_history`).
-/

namespace MachineArgs

/-- A table as a finite map from positions to values, each with its key if it has one. -/
structure SparseTable where
  /-- The entry at each position in use. -/
  entries : Finmap fun _ : ℕ ↦ Option String × String := ∅
  /-- The position that owns a key. -/
  owner : String → Option ℕ := fun _ ↦ none

namespace SparseTable

open OptionTable (Edit)

/-- The position behind the largest one in use. -/
def next (s : SparseTable) : ℕ :=
  s.entries.keys.sup (· + 1)

/-- Writes an entry at a position. -/
def put (s : SparseTable) (i : ℕ) (entry : Option String × String) : SparseTable :=
  { s with entries := s.entries.insert i entry }

/-- Forgets which key a position owns. -/
def forget (s : SparseTable) (i : ℕ) : SparseTable :=
  { s with owner := fun key ↦ (s.owner key).filter (· ≠ i) }

/-- Records the owner of a key, if it has none. -/
def own (s : SparseTable) (key : String) (i : ℕ) : SparseTable :=
  match s.owner key with
  | some _ => s
  | none => { s with owner := Function.update s.owner key (some i) }

/-- A key has the owner that it had, or else the one that is recorded. -/
theorem owner_own (s : SparseTable) (key k : String) (i : ℕ) :
    (s.own k i).owner key = if k = key then (s.owner key).or (some i) else s.owner key := by
  rw [own]
  by_cases hk : k = key
  · subst hk
    cases ho : s.owner k <;> simp [ho]
  · cases s.owner k <;> simp [hk, Ne.symm hk]

/-- Gives the entry at a position another value and keeps its key. -/
def rewrite (s : SparseTable) (i : ℕ) (value : String) : SparseTable :=
  match s.entries.lookup i with
  | some entry => s.put i (entry.1, value)
  | none => s

/-! ### Edits -/

/-- Writes each value behind the entries there are. -/
def append (s : SparseTable) (values : List String) : SparseTable :=
  values.foldl (fun s value ↦ s.put s.next (none, value)) s

/-- Writes a bare value at a position, which owns no key from then on. -/
def setPositional (s : SparseTable) (i : ℕ) (value : String) : SparseTable :=
  (s.forget i).put i (none, value)

/-- Writes a value with a key behind the entries there are. -/
def addKeyed (s : SparseTable) (key value : String) : SparseTable :=
  (s.put s.next (some key, value)).own key s.next

/-- Rewrites the value at the owner of a key, or adds the key. -/
def setKeyed (s : SparseTable) (key value : String) : SparseTable :=
  match s.owner key with
  | some i => s.rewrite i value
  | none => s.addKeyed key value

/-- Performs one edit. -/
def edit (s : SparseTable) : Edit → SparseTable
  | .append values => s.append values
  | .setPositional i value => s.setPositional i value
  | .addKeyed key value => s.addKeyed key value
  | .setKeyed key value => s.setKeyed key value

/-- The tables before the first edit and after each. -/
def history (s : SparseTable) : List Edit → List SparseTable
  | [] => [s]
  | e :: es => s :: (s.edit e).history es

/-! ### The written form -/

/-- How an entry is written. -/
def entryText : Option String × String → String
  | (none, value) => value
  | (some key, value) => key ++ "=" ++ value

/-- The number of entries. -/
def size (s : SparseTable) : ℕ :=
  s.entries.keys.card

/-- The written entries by ascending position. -/
def parts (s : SparseTable) : List String :=
  (s.entries.keys.sort (· ≤ ·)).filterMap fun i ↦ (s.entries.lookup i).map entryText

/-- The table as one argument. -/
def serialize (s : SparseTable) : String :=
  ",".intercalate s.parts

/-- Every entry gives one part. -/
theorem length_parts (s : SparseTable) : s.parts.length = s.size := by
  have hall : ∀ i ∈ s.entries.keys.sort (· ≤ ·),
      ((s.entries.lookup i).map entryText).isSome := by
    intro i hi
    rw [Option.isSome_map]
    exact Finmap.lookup_isSome.2 (Finmap.mem_keys.1 ((Finset.mem_sort _).1 hi))
  rw [parts, List.length_filterMap_eq_countP, List.countP_eq_length.2 hall,
    Finset.length_sort, size]

end SparseTable

/-- The entry that a slot stands for; padding stands for none. -/
def Slot.entry? : Slot → Option (Option String × String)
  | padding => none
  | bare value => some (none, value)
  | keyed key value => some (some key, value)

theorem Slot.entry?_eq_none_iff {slot : Slot} : slot.entry? = none ↔ slot = .padding := by
  cases slot <;> simp [Slot.entry?]

/-- Going through the positions of a list is going through the list. -/
theorem filterMap_range_getElem? {α β : Type} (l : List α) (f : α → Option β) :
    ((List.range l.length).filterMap fun i ↦ (l[i]?).bind f) = l.filterMap f := by
  induction l with
  | nil => rfl
  | cons a l ih =>
    rw [List.length_cons, List.range_succ_eq_map, List.filterMap_cons, List.filterMap_map,
      List.filterMap_cons]
    simp only [Function.comp_def, List.getElem?_cons_succ, ih]
    rfl

namespace OptionTable

/-- A table has the entries and the owners of a sparse table. -/
structure Refines (t : OptionTable) (s : SparseTable) : Prop where
  /-- The entry at a position is what the slot there stands for. -/
  lookup_eq : ∀ i, s.entries.lookup i = (t.slots[i]?).bind Slot.entry?
  /-- Both have the same owners. -/
  owner_eq : ∀ key, s.owner key = t.owner? key

theorem refines_empty : empty.Refines {} where
  lookup_eq i := by simp [empty]
  owner_eq key := rfl

namespace Refines

variable {t : OptionTable} {s : SparseTable}

theorem mem_keys (r : t.Refines s) {i : ℕ} :
    i ∈ s.entries.keys ↔ ∃ slot, t.slots[i]? = some slot ∧ slot ≠ .padding := by
  rw [Finmap.mem_keys, ← Finmap.lookup_isSome, r.lookup_eq, Option.isSome_iff_ne_none]
  cases hi : t.slots[i]? with
  | none => simp
  | some slot => simp [Slot.entry?_eq_none_iff]

/-- A new entry goes where a new slot goes: the last slot is in use. -/
theorem next_eq (r : t.Refines s) (h : t.WellFormed) : s.next = t.slots.length := by
  apply le_antisymm
  · refine Finset.sup_le fun i hi ↦ ?_
    obtain ⟨slot, hslot, -⟩ := r.mem_keys.1 hi
    exact (List.getElem?_eq_some_iff.1 hslot).1
  · rcases Nat.eq_zero_or_pos t.slots.length with hzero | hpos
    · omega
    · have hlast : t.slots.length - 1 ∈ s.entries.keys := by
        refine r.mem_keys.2 ⟨t.slots[t.slots.length - 1],
          List.getElem?_eq_getElem (by omega), fun hpad ↦ h.last_ne_padding ?_⟩
        rw [List.getLast?_eq_getElem?, List.getElem?_eq_getElem (by omega), hpad]
      have hle : t.slots.length - 1 + 1 ≤ s.next := Finset.le_sup (f := (· + 1)) hlast
      omega

/-! ### The moves -/

theorem place (r : t.Refines s) {i : ℕ} {slot : Slot} {entry : Option String × String}
    (hentry : slot.entry? = some entry) : (t.place i slot).Refines (s.put i entry) where
  lookup_eq j := by
    rw [getElem?_place]
    by_cases hj : j = i
    · subst hj
      rw [if_pos rfl, Option.bind_some, hentry]
      exact Finmap.lookup_insert _
    · rw [if_neg hj, SparseTable.put, Finmap.lookup_insert_of_ne _ hj, r.lookup_eq]
      by_cases hgap : t.slots.length ≤ j ∧ j < i
      · rw [if_pos hgap, List.getElem?_eq_none hgap.1]
        rfl
      · rw [if_neg hgap]
  owner_eq := r.owner_eq

theorem forget (r : t.Refines s) (h : t.WellFormed) (i : ℕ) :
    (t.forget i).Refines (s.forget i) where
  lookup_eq := r.lookup_eq
  owner_eq key := by
    rw [owner?_forget h, ← r.owner_eq]
    rfl

theorem own (r : t.Refines s) (key : String) (i : ℕ) : (t.own key i).Refines (s.own key i) where
  lookup_eq j := by
    rw [OptionTable.own, SparseTable.own, r.owner_eq]
    cases t.owner? key <;> exact r.lookup_eq j
  owner_eq key' := by
    rw [owner?_own, SparseTable.owner_own, r.owner_eq]

/-! ### The edits -/

theorem push (r : t.Refines s) (h : t.WellFormed) {slot : Slot} {entry : Option String × String}
    (hentry : slot.entry? = some entry) : (t.push slot).Refines (s.put s.next entry) := by
  rw [push_eq_place, ← r.next_eq h]
  exact r.place hentry

theorem append (r : t.Refines s) (h : t.WellFormed) (values : List String) :
    (t.append values).Refines (s.append values) := by
  induction values generalizing t s with
  | nil => exact r
  | cons v vs ih => exact ih (r.push h rfl) (h.push (by simp))

theorem setPositional (r : t.Refines s) (h : t.WellFormed) (i : ℕ) (v : String) :
    (t.setPositional i v).Refines (s.setPositional i v) := by
  rw [setPositional_eq h]
  exact (r.forget h i).place rfl

theorem addKeyed (r : t.Refines s) (h : t.WellFormed) (k v : String) :
    (t.addKeyed k v).Refines (s.addKeyed k v) := by
  rw [addKeyed_eq, ← r.next_eq h]
  exact (r.place rfl).own k s.next

theorem setKeyed (r : t.Refines s) (h : t.WellFormed) (k v : String) :
    (t.setKeyed k v).Refines (s.setKeyed k v) := by
  rw [SparseTable.setKeyed, r.owner_eq]
  cases ho : t.owner? k with
  | none =>
    rw [setKeyed_eq_addKeyed ho]
    exact r.addKeyed h k v
  | some i =>
    obtain ⟨old, hold⟩ := h.slot_of_owner? ho
    have hlookup : s.entries.lookup i = some (some k, old) := by
      rw [r.lookup_eq, hold]
      rfl
    -- the entry there has the key already, so rewriting its value is placing the slot
    rw [setKeyed_eq_place h ho]
    simp only [SparseTable.rewrite, hlookup]
    exact r.place rfl

/-- An edit of a table refines the same edit of the sparse table. -/
theorem edit (r : t.Refines s) (h : t.WellFormed) (e : Edit) : (t.edit e).Refines (s.edit e) := by
  cases e with
  | append values => exact r.append h values
  | setPositional i v => exact r.setPositional h i v
  | addKeyed k v => exact r.addKeyed h k v
  | setKeyed k v => exact r.setKeyed h k v

/-! ### The observables -/

/-- The keys are the positions of the slots that are written, in order. -/
theorem sort_keys (r : t.Refines s) :
    s.entries.keys.sort (· ≤ ·) =
      (List.range t.slots.length).filter fun i ↦ (s.entries.lookup i).isSome := by
  have hnodup : ((List.range t.slots.length).filter
      fun i ↦ (s.entries.lookup i).isSome).Nodup := List.nodup_range.filter _
  have hkeys : s.entries.keys = ((List.range t.slots.length).filter
      fun i ↦ (s.entries.lookup i).isSome).toFinset := by
    ext i
    rw [List.mem_toFinset, List.mem_filter, List.mem_range, Finmap.mem_keys,
      ← Finmap.lookup_isSome, iff_and_self, r.lookup_eq]
    intro hsome
    by_contra hlen
    rw [List.getElem?_eq_none (Nat.le_of_not_lt hlen)] at hsome
    exact absurd hsome (by simp)
  rw [hkeys, (List.toFinset_sort _ hnodup)]
  exact (List.pairwise_lt_range.filter _).imp Nat.le_of_lt

/-- Both are written by the same parts. -/
theorem parts_eq (r : t.Refines s) (h : t.WellFormed) : s.parts = t.parts := by
  rw [SparseTable.parts, r.sort_keys, h.parts_eq, List.filterMap_filter]
  have hentry : ∀ i, (if (s.entries.lookup i).isSome then
      (s.entries.lookup i).map SparseTable.entryText else none) =
        (t.slots[i]?).bind Slot.text? := by
    intro i
    rw [r.lookup_eq]
    cases t.slots[i]? with
    | none => rfl
    | some slot => cases slot <;> rfl
  simp only [hentry]
  exact filterMap_range_getElem? t.slots Slot.text?

theorem size_eq (r : t.Refines s) (h : t.WellFormed) : s.size = t.size := by
  rw [← s.length_parts, r.parts_eq h, size]

theorem serialize_eq (r : t.Refines s) (h : t.WellFormed) : s.serialize = t.serialize := by
  rw [SparseTable.serialize, r.parts_eq h, serialize]

/-! ### Runs -/

/-- A run of edits keeps a table in step with its sparse table, before the first edit and after
each. -/
theorem history (r : t.Refines s) (h : t.WellFormed) (es : List Edit) :
    List.Forall₂ (fun t s ↦ t.Refines s ∧ t.size = s.size ∧ t.serialize = s.serialize)
      (t.history es) (s.history es) := by
  induction es generalizing t s with
  | nil => exact .cons ⟨r, (r.size_eq h).symm, (r.serialize_eq h).symm⟩ .nil
  | cons e es ih =>
    exact .cons ⟨r, (r.size_eq h).symm, (r.serialize_eq h).symm⟩ (ih (r.edit h e) (h.edit e))

end Refines

/-- A table started with any values and put through any edits refines, at every step, the sparse
table that the same is done to; both have the same number of entries and are written alike. -/
theorem forall₂_history (values : List String) (es : List Edit) :
    List.Forall₂ (fun t s ↦ t.Refines s ∧ t.size = s.size ∧ t.serialize = s.serialize)
      ((ofValues values).history es) ((SparseTable.append {} values).history es) :=
  (refines_empty.append wellFormed_empty values).history (wellFormed_ofValues values) es

/-- The window moves back to the earliest position that was ever assigned. -/
example : ((empty.edits [.setPositional 4 "a", .append ["1", "2", "3", "4"]]).setPositional 2
    "b").serialize = "b,a,1,2,3,4" := by
  decide

end OptionTable

end MachineArgs
