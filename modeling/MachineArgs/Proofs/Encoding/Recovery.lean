import Mathlib.Logic.Function.Basic
import MachineArgs.Proofs.Encoding.Plain
import MachineArgs.Proofs.OptionTable.Reading

/-!
# What arguments tell about a record

The arguments of a record with one group are its flag and its table. If the fields have different
keys and nothing in the table is misread, the slots can be taken out of the arguments again, and
since every slot shows the key of its field, so can what each field was written as. So two such
records with the same arguments agree field by field (`Leads.cells_eq_of_args_eq`).

Whether a field then tells its value is a question of types (`DistinctValue`). It does if the
members of the type have different texts and one zero at most, which is the one that nothing is
written for. It does for options of such a type as well: an option that is there is written even if
its value is zero, so what leaves nothing behind is the absent option and no other.
-/

namespace MachineArgs

/-! ### Cells and their slots -/

/-- Slots of cells have the keys of the cells. -/
theorem keyed_notMem_slots {keys : List String} {cells : List Cell}
    (hkeys : cells.map Cell.key? = keys.map some) {key : String} (hkey : key ∉ keys) (s : String) :
    Slot.keyed key s ∉ cells.filterMap Cell.slot? := by
  intro hmem
  obtain ⟨c, hc, hslot⟩ := List.mem_filterMap.1 (OptionTable.mem_key?_of_mem_slot? hmem)
  have hsome : some key ∈ keys.map some := by
    rw [← hkeys, ← hslot]
    exact List.mem_map_of_mem hc
  simp [hkey] at hsome

/-- Cells with different keys are told by their slots, those that are not written included. -/
theorem eq_of_filterMap_slot? {keys : List String} (hnodup : keys.Nodup) {cells cells' : List Cell}
    (hkeys : cells.map Cell.key? = keys.map some) (hkeys' : cells'.map Cell.key? = keys.map some)
    (h : cells.filterMap Cell.slot? = cells'.filterMap Cell.slot?) : cells = cells' := by
  induction keys generalizing cells cells' with
  | nil =>
    rw [List.map_nil, List.map_eq_nil_iff] at hkeys hkeys'
    rw [hkeys, hkeys']
  | cons key keys ih =>
    obtain ⟨⟨_, text?⟩, cells, rfl, rfl, hrest⟩ := List.map_eq_cons_iff.1 hkeys
    obtain ⟨⟨_, text?'⟩, cells', rfl, rfl, hrest'⟩ := List.map_eq_cons_iff.1 hkeys'
    obtain ⟨hfresh, hnodup⟩ := List.nodup_cons.1 hnodup
    -- a slot that only one side writes first would have to come later on the other
    cases text? with
    | none =>
      cases text?' with
      | none => rw [ih hnodup hrest hrest' h]
      | some s' =>
        have hmem : Slot.keyed key s' ∈ cells.filterMap Cell.slot? := by
          rw [show cells.filterMap Cell.slot? = _ from h]
          exact List.mem_cons_self
        exact absurd hmem (keyed_notMem_slots hrest hfresh s')
    | some s =>
      cases text?' with
      | none =>
        have hmem : Slot.keyed key s ∈ cells'.filterMap Cell.slot? := by
          rw [← show _ = cells'.filterMap Cell.slot? from h]
          exact List.mem_cons_self
        exact absurd hmem (keyed_notMem_slots hrest' hfresh s)
      | some s' =>
        obtain ⟨hslot, hslots⟩ := List.cons.inj h
        obtain rfl : s = s' := (Slot.keyed.inj hslot).2
        rw [ih hnodup hrest hrest' hslots]

/-! ### Legible values -/

/-- A plain value whose text, if there is one, shows where it ends. -/
def Value.IsLegible (v : Value) : Prop :=
  ∀ d, v.isPlain d = true ∧ ∀ s, v.plainText? d = some s → ',' ∉ s.toList

/-- A key that shows where it ends. -/
def IsLegibleKey (key : String) : Prop :=
  ',' ∉ key.toList ∧ '=' ∉ key.toList

instance : DecidablePred IsLegibleKey := fun key ↦
  inferInstanceAs (Decidable (',' ∉ key.toList ∧ '=' ∉ key.toList))

/-- A cell whose slot, if there is one, is legible. -/
def Cell.IsLegible (c : Cell) : Prop :=
  ∀ slot, c.slot? = some slot → slot.IsLegible

theorem Field.isLegible_cell {f : Field} {v : Value} {key : String} (hkey : f.key? = some key)
    (hlegible : IsLegibleKey key) (hv : v.IsLegible) : (f.cell v).IsLegible := by
  intro slot hslot
  obtain ⟨s, hs, rfl⟩ := Option.map_eq_some_iff.1 hslot
  obtain ⟨-, htext⟩ := Option.ite_none_left_eq_some.1 hs
  show (Slot.ofKey f.key? s).IsLegible
  rw [hkey]
  exact ⟨hlegible.1, hlegible.2, (hv _).2 s htext⟩

/-- The cells of legible values are legible if the keys of the fields are. -/
theorem isLegible_of_mem_zipWith {keys : List String} {fs : List Field} {values : List Value}
    (hkeys : fs.map Field.key? = keys.map some) (hlegible : ∀ key ∈ keys, IsLegibleKey key)
    (hvalues : ∀ v ∈ values, v.IsLegible) :
    ∀ c ∈ List.zipWith Field.cell fs values, c.IsLegible := by
  intro c hc
  rw [← List.map_uncurry_zip_eq_zipWith] at hc
  obtain ⟨⟨f, v⟩, hmem, rfl⟩ := List.mem_map.1 hc
  obtain ⟨hf, hv⟩ := List.of_mem_zip hmem
  have hsome : f.key? ∈ keys.map some := hkeys ▸ List.mem_map_of_mem hf
  obtain ⟨key, hkey, heq⟩ := List.mem_map.1 hsome
  exact Field.isLegible_cell heq.symm (hlegible key hkey) (hvalues v hv)

/-! ### Arguments of one table -/

namespace OptionTable

/-- A table that is written cell by cell has the slots of the cells written. -/
theorem writtenSlots_ofCells {cells : List Cell} (h : (cells.filterMap Cell.key?).Nodup) :
    (ofCells cells).writtenSlots = cells.filterMap Cell.slot? := by
  rw [← slots_ofCells h, writtenSlots, List.filter_eq_self]
  intro slot hslot
  cases slot with
  | padding => exact absurd hslot (padding_notMem_slots_ofCells h)
  | bare | keyed => rfl

/-- What a group adds to the arguments tells the slots of its table, if these are legible. -/
theorem writtenSlots_eq_of_groupArgs_eq {group : String} {t t' : OptionTable} (h : t.WellFormed)
    (h' : t'.WellFormed) (hlegible : ∀ slot ∈ t.slots, slot.IsLegible)
    (hlegible' : ∀ slot ∈ t'.slots, slot.IsLegible)
    (heq : NamedTables.groupArgs group t = NamedTables.groupArgs group t') :
    t.writtenSlots = t'.writtenSlots := by
  rw [NamedTables.groupArgs, NamedTables.groupArgs] at heq
  cases hempty : t.isEmpty with
  | true =>
    cases hempty' : t'.isEmpty with
    | true => rw [h.isEmpty_iff.1 hempty, h'.isEmpty_iff.1 hempty']
    | false =>
      rw [hempty, hempty'] at heq
      cases hname : group.isEmpty <;> simp [hname] at heq
  | false =>
    cases hempty' : t'.isEmpty with
    | true =>
      rw [hempty, hempty'] at heq
      cases hname : group.isEmpty <;> simp [hname] at heq
    | false =>
      have hserialize : t.serialize = t'.serialize := by
        rw [hempty, hempty'] at heq
        cases hname : group.isEmpty <;> simpa [hname] using heq
      exact writtenSlots_eq_of_serialize_eq h h' hlegible hlegible' hempty hempty' hserialize

end OptionTable

/-- Two records with one group and the same arguments agree cell by cell, if the cells have
different keys and are legible. -/
theorem Leads.cells_eq_of_args_eq {group : String} {v v' : Value} (h : Leads group v)
    (h' : Leads group v') {keys : List String} (hnodup : keys.Nodup)
    (hkeys : v.cells.map Cell.key? = keys.map some)
    (hkeys' : v'.cells.map Cell.key? = keys.map some) (hlegible : ∀ c ∈ v.cells, c.IsLegible)
    (hlegible' : ∀ c ∈ v'.cells, c.IsLegible) (heq : v.args none = v'.args none) :
    v.cells = v'.cells := by
  have hfilter : ∀ {cells : List Cell}, cells.map Cell.key? = keys.map some →
      (cells.filterMap Cell.key?).Nodup := by
    intro cells hcells
    rwa [show cells.filterMap Cell.key? = (cells.map Cell.key?).filterMap id by
      rw [List.filterMap_map]; rfl, hcells, List.filterMap_map, Function.id_comp,
      List.filterMap_some]
  have hslots : ∀ {cells : List Cell}, cells.map Cell.key? = keys.map some →
      (∀ c ∈ cells, c.IsLegible) → ∀ slot ∈ (OptionTable.ofCells cells).slots, slot.IsLegible := by
    intro cells hcells hall slot hslot
    rw [OptionTable.slots_ofCells (hfilter hcells)] at hslot
    obtain ⟨c, hc, hslot⟩ := List.mem_filterMap.1 hslot
    exact hall c hc slot hslot
  rw [Value.args, Value.args, h.tables_eq, h'.tables_eq, ok_bind, ok_bind] at heq
  have hgroup : NamedTables.groupArgs group (.ofCells v.cells) =
      NamedTables.groupArgs group (.ofCells v'.cells) := by
    simpa [NamedTables.args] using heq
  have hwritten := OptionTable.writtenSlots_eq_of_groupArgs_eq
    (OptionTable.wellFormed_ofCells _) (OptionTable.wellFormed_ofCells _) (hslots hkeys hlegible)
    (hslots hkeys' hlegible') hgroup
  rw [OptionTable.writtenSlots_ofCells (hfilter hkeys),
    OptionTable.writtenSlots_ofCells (hfilter hkeys')] at hwritten
  exact eq_of_filterMap_slot? hnodup hkeys hkeys' hwritten

/-! ### Fields that tell their values -/

/-- A scalar is plain, and its text is that of the scalar, whatever the directives are. -/
theorem Value.plainText?_of_scalarText? {v : Value} {s : String} (h : v.scalarText? = some s)
    (d : Directives) : v.isPlain d = true ∧ v.plainText? d = some s := by
  cases v with
  | absent | present | zero | record | list | map | unsupported => cases h
  | path | text | reference | string | boolean | integer | natural =>
    exact ⟨congrArg Option.isSome h, h⟩

/-- A scalar is legible if its text has no comma. -/
theorem Value.isLegible_of_scalarText? {v : Value} {s : String} (h : v.scalarText? = some s)
    (hcomma : ',' ∉ s.toList) : v.IsLegible := by
  intro d
  obtain ⟨hplain, htext⟩ := plainText?_of_scalarText? h d
  refine ⟨hplain, fun s' hs' ↦ ?_⟩
  rw [htext] at hs'
  exact Option.some.inj hs' ▸ hcomma

/-- Types whose members are legible. -/
class LegibleValue (α : Type) [ToValue α] : Prop where
  /-- Every member is legible. -/
  isLegible : ∀ a : α, (toValue a : Value).IsLegible

/-- An option is legible if its value is. -/
theorem isLegible_option {α : Type} [ToValue α] {a? : Option α}
    (h : ∀ a ∈ a?, (toValue a : Value).IsLegible) : (toValue a? : Value).IsLegible := by
  cases a? with
  | none => exact fun _ ↦ ⟨rfl, nofun⟩
  | some a => exact h a rfl

instance {α : Type} [ToValue α] [LegibleValue α] : LegibleValue (Option α) :=
  ⟨fun _ ↦ isLegible_option fun a _ ↦ LegibleValue.isLegible a⟩

/-- Types whose members are scalars with different texts. -/
class ScalarValue (α : Type) [ToValue α] : Prop where
  /-- Every member is a scalar. -/
  isSome_scalarText? : ∀ a : α, (toValue a : Value).scalarText?.isSome
  /-- Different members have different texts. -/
  scalarText?_injective : Function.Injective fun a : α ↦ (toValue a : Value).scalarText?
  /-- There is one zero at most. -/
  eq_of_isZero : ∀ a b : α, (toValue a : Value).isZero = true → (toValue b : Value).isZero = true →
    a = b

/-- Scalars are told by their texts if these are different and the zero has a text of its own. -/
theorem ScalarValue.of_text {α : Type} [ToValue α] (text : α → String) (zeroText : String)
    (htext : ∀ a, (toValue a : Value).scalarText? = some (text a))
    (hzero : ∀ a, (toValue a : Value).isZero = true → text a = zeroText)
    (hinjective : Function.Injective text) : ScalarValue α where
  isSome_scalarText? a := by
    rw [htext]
    rfl
  scalarText?_injective a b h := by
    refine hinjective (Option.some.inj ?_)
    rw [← htext, ← htext]
    exact h
  eq_of_isZero a b ha hb := hinjective ((hzero a ha).trans (hzero b hb).symm)

/-- Types whose members are written differently by every field that writes anything. -/
class DistinctValue (α : Type) [ToValue α] : Prop where
  /-- A cell is that of one member only. -/
  eq_of_cell_eq : ∀ {f : Field}, f.skipped = false → ∀ {a b : α},
    f.cell (toValue a) = f.cell (toValue b) → a = b

section Scalars

variable {α : Type} [ToValue α] [ScalarValue α]

theorem ScalarValue.exists_text (a : α) (d : Directives) : ∃ s,
    (toValue a : Value).scalarText? = some s ∧ (toValue a : Value).plainText? d = some s := by
  obtain ⟨s, hs⟩ := Option.isSome_iff_exists.1 (isSome_scalarText? a)
  exact ⟨s, hs, (Value.plainText?_of_scalarText? hs d).2⟩

/-- Texts tell scalars. -/
theorem ScalarValue.eq_of_plainText?_eq {d : Directives} {a b : α}
    (h : (toValue a : Value).plainText? d = (toValue b : Value).plainText? d) : a = b := by
  obtain ⟨s, hs, hplain⟩ := exists_text a d
  obtain ⟨s', hs', hplain'⟩ := exists_text b d
  rw [hplain, hplain'] at h
  exact scalarText?_injective (hs.trans (h.trans hs'.symm))

/-- What a field that is written makes of a scalar. -/
theorem Field.text?_cell {f : Field} (hskip : f.skipped = false) (v : Value) :
    (f.cell v).text? = if v.isZero then none else v.plainText? f.directives := by
  rw [Field.cell, hskip, Bool.false_or]

/-- Nothing is written for the zero and for no other member. -/
instance : DistinctValue α where
  eq_of_cell_eq {f} hskip {a b} h := by
    have htext : (f.cell (toValue a)).text? = (f.cell (toValue b)).text? := congrArg Cell.text? h
    obtain ⟨s, -, hs⟩ := ScalarValue.exists_text a f.directives
    obtain ⟨s', -, hs'⟩ := ScalarValue.exists_text b f.directives
    rw [Field.text?_cell hskip, Field.text?_cell hskip] at htext
    cases hzero : (toValue a : Value).isZero with
    | true =>
      cases hzero' : (toValue b : Value).isZero with
      | true => exact ScalarValue.eq_of_isZero a b hzero hzero'
      | false => simp [hzero, hzero', hs'] at htext
    | false =>
      cases hzero' : (toValue b : Value).isZero with
      | true => simp [hzero, hzero', hs] at htext
      | false => exact ScalarValue.eq_of_plainText?_eq (by simpa [hzero, hzero'] using htext)

/-- Nothing is written for the absent option and for no other. -/
instance : DistinctValue (Option α) where
  eq_of_cell_eq {f} hskip {a? b?} h := by
    have htext : (f.cell (toValue a?)).text? = (f.cell (toValue b?)).text? := congrArg Cell.text? h
    rw [Field.text?_cell hskip, Field.text?_cell hskip] at htext
    cases a? with
    | none =>
      cases b? with
      | none => rfl
      | some b =>
        obtain ⟨s, -, hs⟩ := ScalarValue.exists_text b f.directives
        exact absurd (htext.trans hs) nofun
    | some a =>
      cases b? with
      | none =>
        obtain ⟨s, -, hs⟩ := ScalarValue.exists_text a f.directives
        exact absurd (htext.symm.trans hs) nofun
      | some b => exact congrArg some (ScalarValue.eq_of_plainText?_eq htext)

end Scalars

/-! ### Scalars of devices -/

theorem isLegible_string {s : String} (h : ',' ∉ s.toList) : (toValue s : Value).IsLegible :=
  Value.isLegible_of_scalarText? rfl h

/-- Numbers are written with digits only. -/
theorem comma_notMem_toString (n : Nat) : ',' ∉ (toString n).toList := by
  intro h
  rw [Nat.toString_eq_repr, Nat.toList_repr] at h
  exact absurd (Nat.isDigit_of_mem_toDigits (by decide) (by decide) h) (by decide)

instance : LegibleValue Bool :=
  ⟨fun b ↦ Value.isLegible_of_scalarText? rfl (by cases b <;> decide)⟩

instance : LegibleValue Nat :=
  ⟨fun n ↦ Value.isLegible_of_scalarText? rfl (comma_notMem_toString n)⟩

instance : ScalarValue String :=
  .of_text id "" (fun _ ↦ rfl) (fun _ h ↦ String.isEmpty_iff.1 h) Function.injective_id

instance : ScalarValue Bool := by
  refine .of_text onOff "off" (fun _ ↦ rfl) (fun b h ↦ ?_) fun b b' h ↦ ?_
  · have hfalse : (!b) = true := h
    rw [Bool.not_eq_true'] at hfalse
    rw [hfalse]
    rfl
  · cases b <;> cases b' <;> revert h <;> decide

theorem toString_nat_injective : Function.Injective fun n : Nat ↦ toString n := by
  intro n n' h
  have hdigits : Nat.toDigits 10 n = Nat.toDigits 10 n' := by
    have htexts : (toString n).toList = (toString n').toList := congrArg String.toList h
    rwa [Nat.toString_eq_repr, Nat.toString_eq_repr, Nat.toList_repr, Nat.toList_repr] at htexts
  rw [← Nat.ofDigitChars_ten_toDigits (n := n), hdigits, Nat.ofDigitChars_ten_toDigits]

instance : ScalarValue Nat :=
  .of_text toString "0" (fun _ ↦ rfl) (fun _ h ↦ congrArg toString (beq_iff_eq.1 h))
    toString_nat_injective

end MachineArgs
