import Mathlib.Algebra.Ring.Int.Defs
import MachineArgs.Encoding
import MachineArgs.Property

/-!
# Properties without a rendering

Which free-form properties can be encoded is a matter of the property alone: of its numbers and of
its lists, at any depth of its objects (`Property.Unrenderable`). Such a property is refused for its
shape, and every other one is encoded, whatever its path and whatever key it stands under
(`Property.refusesIff_lower`).

Entries of an object that a later entry of the same key replaces play no part, so the definition
speaks of the entries in order, and the encoder is shown to see the same ones
(`orderEntries_map`).
-/

namespace MachineArgs

/-! ### Entries in order -/

section Entries

variable {α β : Type}

theorem insertEntry_map (f : α → β) (key : String) (a : α) (entries : List (String × α)) :
    insertEntry key (f a) (entries.map fun e ↦ (e.1, f e.2)) =
      (insertEntry key a entries).map fun e ↦ (e.1, f e.2) := by
  induction entries with
  | nil => rfl
  | cons e entries ih =>
    rw [List.map_cons, insertEntry, insertEntry, ih]
    split
    · rfl
    · split <;> rfl

/-- The order of entries is a matter of their keys. -/
theorem orderEntries_map (f : α → β) (entries : List (String × α)) :
    orderEntries (entries.map fun e ↦ (e.1, f e.2)) =
      (orderEntries entries).map fun e ↦ (e.1, f e.2) := by
  have hfoldl : ∀ acc : List (String × α),
      (entries.map fun e ↦ (e.1, f e.2)).foldl (fun acc e ↦ insertEntry e.1 e.2 acc)
        (acc.map fun e ↦ (e.1, f e.2)) =
      (entries.foldl (fun acc e ↦ insertEntry e.1 e.2 acc) acc).map fun e ↦ (e.1, f e.2) := by
    induction entries with
    | nil => exact fun _ ↦ rfl
    | cons e entries ih =>
      intro acc
      rw [List.map_cons, List.foldl_cons, List.foldl_cons, ← ih, ← insertEntry_map]
  exact hfoldl []

theorem mem_of_mem_insertEntry {key : String} {a : α} {entries : List (String × α)}
    {e : String × α} (h : e ∈ insertEntry key a entries) : e = (key, a) ∨ e ∈ entries := by
  induction entries with
  | nil => exact .inl (List.mem_singleton.1 h)
  | cons e' entries ih =>
    rw [insertEntry] at h
    split at h
    · exact List.mem_cons.1 h
    · split at h
      · exact (List.mem_cons.1 h).imp_right (List.mem_cons_of_mem _)
      · rcases List.mem_cons.1 h with rfl | h
        · exact .inr List.mem_cons_self
        · exact (ih h).imp_right (List.mem_cons_of_mem _)

theorem mem_of_mem_orderEntries {entries : List (String × α)} {e : String × α}
    (h : e ∈ orderEntries entries) : e ∈ entries := by
  have hfoldl : ∀ acc : List (String × α),
      e ∈ entries.foldl (fun acc e ↦ insertEntry e.1 e.2 acc) acc → e ∈ acc ∨ e ∈ entries := by
    clear h
    induction entries with
    | nil => exact fun _ h ↦ .inl h
    | cons e' entries ih =>
      intro acc h
      rcases ih _ h with h | h
      · rcases mem_of_mem_insertEntry h with rfl | h
        · exact .inr List.mem_cons_self
        · exact .inl h
      · exact .inr (List.mem_cons_of_mem _ h)
  exact (hfoldl [] h).resolve_left (by simp)

end Entries

/-! ### Steps that refuse a shape -/

section Steps

variable {α β : Type} {faulty faulty' : Prop}

/-- A step refuses a shape if something is faulty, and succeeds otherwise. -/
inductive RefusesIff (faulty : Prop) : Except Error α → Prop where
  /-- It is faulty. -/
  | refuses (h : faulty) (path : List String) (misfit : Misfit) :
      RefusesIff faulty (.error (.unsupportedShape path misfit))
  /-- It is not. -/
  | accepts (h : ¬faulty) (a : α) : RefusesIff faulty (.ok a)

namespace RefusesIff

theorem congr {x : Except Error α} (h : RefusesIff faulty x) (hiff : faulty ↔ faulty') :
    RefusesIff faulty' x := by
  rwa [propext hiff] at h

/-- Of two steps the first refusal counts. -/
theorem bind {x : Except Error α} {f : α → Except Error β} (h : RefusesIff faulty x)
    (hf : ∀ a, RefusesIff faulty' (f a)) : RefusesIff (faulty ∨ faulty') (x >>= f) := by
  cases h with
  | refuses h path misfit => exact .refuses (.inl h) path misfit
  | accepts h a =>
    rw [ok_bind]
    exact (hf a).congr (or_iff_right h).symm

/-- What is done with a result afterwards is never refused. -/
theorem map {x : Except Error α} (h : RefusesIff faulty x) (f : α → β) :
    RefusesIff faulty (x >>= fun a ↦ .ok (f a)) :=
  (h.bind fun a ↦ .accepts id (f a)).congr (by rw [or_false])

theorem exists_ok {x : Except Error α} (h : RefusesIff faulty x) (hnot : ¬faulty) :
    ∃ a, x = .ok a := by
  cases h with
  | refuses h => exact absurd h hnot
  | accepts _ a => exact ⟨a, rfl⟩

theorem not_of_ok {a : α} (h : RefusesIff faulty (.ok a : Except Error α)) : ¬faulty := by
  cases h with
  | accepts h => exact h

/-- A step with a known result has this result exactly if nothing is faulty. -/
theorem eq_ok_iff {x : Except Error α} {a : α} (h : RefusesIff faulty x)
    (ha : ¬faulty → x = .ok a) (b : α) : x = .ok b ↔ ¬faulty ∧ b = a := by
  constructor
  · rintro rfl
    exact ⟨h.not_of_ok, Except.ok.inj (ha h.not_of_ok)⟩
  · rintro ⟨hnot, rfl⟩
    exact ha hnot

end RefusesIff

end Steps

namespace Property

/-- A property of properties holds of all if it passes from the parts of one to the whole. -/
@[elab_as_elim]
theorem induction {P : Property → Prop} (p : Property) (null : P .null)
    (boolean : ∀ b, P (.boolean b)) (whole : ∀ n, P (.whole n)) (fraction : ∀ x, P (.fraction x))
    (text : ∀ s, P (.text s)) (list : ∀ items, (∀ p ∈ items, P p) → P (.list items))
    (object : ∀ entries, (∀ e ∈ entries, P e.2) → P (.object entries)) : P p := by
  refine @Property.rec P (fun items ↦ ∀ p ∈ items, P p) (fun entries ↦ ∀ e ∈ entries, P e.2)
    (fun e ↦ P e.2) null boolean whole fraction text list object ?_ ?_ ?_ ?_ ?_ p
  · simp
  · exact fun p ps hp hps ↦ List.forall_mem_cons.2 ⟨hp, hps⟩
  · simp
  · exact fun e es he hes ↦ List.forall_mem_cons.2 ⟨he, hes⟩
  · exact fun _ _ h ↦ h

/-- A property that has no rendering, or has one inside that has none: a whole number out of range,
a number that was not written as a whole number, a list with anything but nulls, or an object with
such a property under one of its keys. -/
inductive Unrenderable : Property → Prop where
  /-- A whole number outside of `-2^63 ≤ n < 2^64`. -/
  | whole {n : Int} (h : n < -2 ^ 63 ∨ 2 ^ 64 ≤ n) : Unrenderable (.whole n)
  /-- A fraction. -/
  | fraction (x : Binary) : Unrenderable (.fraction x)
  /-- A list with an element other than null. -/
  | list {items : List Property} {p : Property} (hmem : p ∈ items) (h : p ≠ .null) :
      Unrenderable (.list items)
  /-- An object, by an entry. -/
  | object {entries : List (String × Property)} {key : String} {p : Property}
      (hmem : (key, p) ∈ orderEntries entries) (h : Unrenderable p) :
      Unrenderable (.object entries)

theorem unrenderable_whole_iff {n : Int} : (whole n).Unrenderable ↔ isRenderable n = false := by
  have hrange : isRenderable n = false ↔ n < -2 ^ 63 ∨ 2 ^ 64 ≤ n := by
    rw [isRenderable, Bool.and_eq_false_iff, decide_eq_false_iff_not, decide_eq_false_iff_not]
    show ¬(-((2 ^ 63 : Nat) : Int) ≤ n) ∨ ¬(n < ((2 ^ 64 : Nat) : Int)) ↔ _
    omega
  rw [hrange]
  exact ⟨fun h ↦ by cases h; assumption, .whole⟩

theorem unrenderable_list_iff {items : List Property} :
    (list items).Unrenderable ↔ ∃ p ∈ items, p ≠ .null := by
  constructor
  · intro h
    cases h with
    | list hmem h => exact ⟨_, hmem, h⟩
  · rintro ⟨p, hmem, h⟩
    exact .list hmem h

theorem unrenderable_object_iff {entries : List (String × Property)} :
    (object entries).Unrenderable ↔ ∃ e ∈ orderEntries entries, e.2.Unrenderable := by
  constructor
  · intro h
    cases h with
    | object hmem h => exact ⟨_, hmem, h⟩
  · rintro ⟨⟨key, p⟩, hmem, h⟩
    exact .object hmem h

/-! ### Lists -/

/-- An element of a list is left out if it is null. Any other has a text or is refused. -/
theorem elementText_lower (path : List String) (p : Property) :
    (p = .null ∧ p.lower.elementText path = .ok none) ∨
    (p ≠ .null ∧ ((∃ s, p.lower.elementText path = .ok (some s)) ∨
      ∃ misfit, p.lower.elementText path = .error (.unsupportedShape path misfit))) := by
  cases p with
  | null => exact .inl ⟨rfl, rfl⟩
  | boolean | list | object => exact .inr ⟨by simp, .inr ⟨_, rfl⟩⟩
  | text s => exact .inr ⟨by simp, .inl ⟨s, rfl⟩⟩
  | whole n =>
    refine .inr ⟨by simp, ?_⟩
    rw [lower, wholeValue]
    split
    · split
      · exact .inl ⟨_, rfl⟩
      · exact .inl ⟨_, rfl⟩
    · exact .inr ⟨_, rfl⟩
  | fraction x =>
    refine .inr ⟨by simp, .inr ?_⟩
    rw [lower, Value.ofFraction, Value.zeroIf]
    split <;> exact ⟨_, rfl⟩

/-- The texts of a list: none if there are only nulls, and otherwise some or a refusal. -/
theorem elementTexts_lower (path : List String) (items : List Property) :
    ((∀ p ∈ items, p = .null) ∧ elementTexts path (items.map lower) = .ok []) ∨
    ((∃ p ∈ items, p ≠ .null) ∧ ((∃ s texts, elementTexts path (items.map lower) =
        .ok (s :: texts)) ∨
      ∃ misfit, elementTexts path (items.map lower) = .error (.unsupportedShape path misfit))) := by
  induction items with
  | nil => exact .inl ⟨by simp, rfl⟩
  | cons p items ih =>
    rw [List.map_cons, elementTexts]
    rcases elementText_lower path p with ⟨rfl, htext⟩ | ⟨hp, ⟨s, htext⟩ | ⟨misfit, htext⟩⟩
    · rw [htext, ok_bind]
      rcases ih with ⟨hall, htexts⟩ | ⟨hex, ⟨s, texts, htexts⟩ | ⟨misfit, htexts⟩⟩
      · exact .inl ⟨by simpa using hall, by rw [htexts]; rfl⟩
      · exact .inr ⟨by simpa using hex, .inl ⟨s, texts, by rw [htexts]; rfl⟩⟩
      · exact .inr ⟨by simpa using hex, .inr ⟨misfit, by rw [htexts]; rfl⟩⟩
    · rw [htext, ok_bind]
      refine .inr ⟨⟨p, List.mem_cons_self, hp⟩, ?_⟩
      rcases ih with ⟨-, htexts⟩ | ⟨-, ⟨s', texts, htexts⟩ | ⟨misfit, htexts⟩⟩
      · exact .inl ⟨s, [], by rw [htexts]; rfl⟩
      · exact .inl ⟨s, s' :: texts, by rw [htexts]; rfl⟩
      · exact .inr ⟨misfit, by rw [htexts]; rfl⟩
    · exact .inr ⟨⟨p, List.mem_cons_self, hp⟩, .inr ⟨misfit, by rw [htext]; rfl⟩⟩

/-- A list of properties is refused unless all are null: no directive says how to lay it out. -/
theorem refusesIff_list {d : Directives} (hsep : d.separator = none)
    (hrepeated : d.repeated = false) (items : List Property) (path : List String) :
    RefusesIff (list items).Unrenderable ((list items).lower.encoder path d) := by
  rw [lower, lowerAll_eq_map, unrenderable_list_iff]
  show RefusesIff _ (encodeList (items.map lower) path d)
  rw [encodeList]
  rcases elementTexts_lower path items with ⟨hall, htexts⟩ |
    ⟨hex, ⟨s, texts, htexts⟩ | ⟨misfit, htexts⟩⟩
  · rw [htexts]
    exact .accepts (fun ⟨p, hmem, hp⟩ ↦ hp (hall p hmem)) []
  · rw [htexts, ok_bind, hsep, hrepeated]
    exact .refuses hex path .plainList
  · rw [htexts]
    exact .refuses hex path misfit

/-! ### Properties -/

/-- Entries are refused if one of them is. -/
theorem refusesIff_encodeMap {entries : List (String × Property)}
    (h : ∀ e ∈ entries, ∀ path, ∀ d : Directives, d.separator = none → d.repeated = false →
      RefusesIff e.2.Unrenderable (e.2.lower.encoder path d)) (path : List String)
    (d : Directives) :
    RefusesIff (∃ e ∈ entries, e.2.Unrenderable)
      (encodeMap (entries.map fun e ↦ (e.1, e.2.lower.encoder)) path d) := by
  induction entries with
  | nil => exact .accepts (by simp) []
  | cons e entries ih =>
    rw [List.forall_mem_cons] at h
    have hrest := ih h.2
    rw [List.map_cons, encodeMap]
    refine ((h.1 _ _ rfl rfl).bind fun here ↦ hrest.map fun rest ↦ here ++ rest).congr ?_
    simp

/-- A property without a rendering is refused for its shape, and every other is encoded. -/
theorem refusesIff_lower (p : Property) (path : List String) {d : Directives}
    (hsep : d.separator = none) (hrepeated : d.repeated = false) :
    RefusesIff p.Unrenderable (p.lower.encoder path d) := by
  induction p using Property.induction generalizing path d with
  | null | boolean | text => exact .accepts nofun _
  | whole n =>
    rw [unrenderable_whole_iff, lower, wholeValue]
    split
    · have hnot : ¬isRenderable n = false := by simp_all
      split <;> exact .accepts hnot _
    · exact .refuses (by simp_all) _ _
  | fraction x =>
    rw [lower, Value.ofFraction, Value.zeroIf]
    split <;> exact .refuses (.fraction x) _ _
  | list items => exact refusesIff_list hsep hrepeated items path
  | object entries ih =>
    have hentries : (object entries).lower =
        .map ((orderEntries entries).map fun e ↦ (e.1, e.2.lower)) := by
      rw [lower, lowerEntries_eq_map, Value.ofEntries]
      exact congrArg Value.map (orderEntries_map lower entries)
    rw [unrenderable_object_iff, hentries, Value.encoder, Value.entryEncoders_eq_map, List.map_map]
    exact refusesIff_encodeMap
      (fun e he path d hsep hrepeated ↦ ih e (mem_of_mem_orderEntries he) path hsep hrepeated)
      path d

end Property

end MachineArgs
