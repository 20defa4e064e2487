import Mathlib.Data.List.ReduceOption
import MachineArgs.Proofs.Encoding.Nodes
import MachineArgs.Proofs.Encoding.Writing
import MachineArgs.Proofs.NamedTables.Target

/-!
# Lists in tables

A list is written as its directives say, or not at all. The elements that it can hold
(`Value.isListable`) each have the text that they would be written as on their own
(`Value.IsElementText`), and the texts of those that are present are laid out in the table that
takes writes: joined in one slot, or each in a new slot, or refused if there is no directive for
that (`LaidOut`). If there is an element that no list holds, nothing of the others is written
either.

The elements of a list are rendered by other rules than values on their own. Where the rules for
elements give a text, it is the one that the other rules give (`Value.encoder_of_elementText`); for
truth values, and for whatever is not a single text, they give none.
-/

namespace MachineArgs

/-! ### Elements -/

namespace Value

/-- Whether lists hold a value: an option or a zero of such a value, or a value with a text that is
no truth value. -/
def isListable : Value → Bool
  | present inner => inner.isListable
  | zero inner => inner.isListable
  | path _ location => location.isSome
  | v => !v.isUnlistable

/-- The text of an element is the one that it writes as the only entry of a map, whatever the key.
It has none exactly if it is absent. -/
structure IsElementText (v : Value) (text? : Option String) : Prop where
  /-- Only absent elements have no text. -/
  eq_none_iff : text? = none ↔ v.isAbsent = true
  /-- A map with this entry alone sets its key to the text, or does nothing. -/
  encoder_eq : ∀ key path d,
    (map [(key, v)]).encoder path d = .ok (text?.toList.map (Emission.set key))

variable {v : Value} {path : List String} {text? : Option String} {items : List Value}

theorem isListable_iff : v.isListable = true ↔ ∀ e, ¬v.ElementFails path e := by
  induction v using Value.induction with
  | present inner ih =>
    rw [isListable, ih]
    refine forall_congr' fun e ↦ not_congr ⟨.present, fun h ↦ ?_⟩
    cases h with
    | present h => exact h
    | unlistable h => cases h
  | zero inner ih =>
    rw [isListable, ih]
    refine forall_congr' fun e ↦ not_congr ⟨.zero, fun h ↦ ?_⟩
    cases h with
    | zero h => exact h
    | unlistable h => cases h
  | path name location =>
    cases location with
    | none => exact ⟨nofun, fun h ↦ absurd .unassigned (h _)⟩
    | some location =>
      refine ⟨fun _ e h ↦ ?_, fun _ ↦ rfl⟩
      cases h with
      | unlistable h => cases h
  | absent | text | reference | string | integer | natural =>
    refine ⟨fun _ e h ↦ ?_, fun _ ↦ rfl⟩
    cases h with
    | unlistable h => cases h
  | record | list | map | boolean | unsupported =>
    exact ⟨nofun, fun h ↦ absurd (.unlistable rfl) (h _)⟩

/-- An element is written on its own as its text, if it has one. -/
theorem encoder_of_elementText (h : v.elementText path = .ok text?) (path' : List String)
    (d : Directives) : v.encoder path' d = .ok (text?.toList.map (Emission.write d.key)) := by
  induction v using Value.induction with
  | present inner ih | zero inner ih => exact ih h
  | path name location =>
    cases location with
    | none => cases h
    | some location =>
      obtain rfl := Except.ok.inj h
      rfl
  | absent | text | reference | string | integer | natural =>
    obtain rfl := Except.ok.inj h
    rfl
  | record | list | map | boolean | unsupported => cases h

theorem isElementText (h : v.elementText path = .ok text?) : v.IsElementText text? where
  eq_none_iff := by
    have habsent : v.elementText path = .ok none ↔ v.isAbsent = true := elementText_eq_none_iff
    rw [← habsent, h, Except.ok.injEq]
  encoder_eq key path' d := by
    show (do
      let here ← v.encoder _ { key := some key }
      return here ++ []) = _
    rw [encoder_of_elementText h, ok_bind, List.append_nil]
    rfl

/-- The texts of a list are those of its elements that have one. -/
theorem exists_isElementText {texts : List String} (h : elementTexts path items = .ok texts) :
    ∃ texts?, List.Forall₂ IsElementText items texts? ∧ texts?.reduceOption = texts := by
  induction items generalizing texts with
  | nil =>
    obtain rfl := Except.ok.inj h
    exact ⟨[], .nil, rfl⟩
  | cons v items ih =>
    obtain ⟨text?, htext, h⟩ := bind_eq_ok.1 h
    obtain ⟨rest, hrest, h⟩ := bind_eq_ok.1 h
    obtain rfl := Except.ok.inj h
    obtain ⟨texts?, htexts, rfl⟩ := ih hrest
    refine ⟨text? :: texts?, .cons (isElementText htext) htexts, ?_⟩
    cases text? <;> simp

end Value

/-! ### Layouts -/

/-- How the texts of a list are laid out in tables, and how that ends. The path is never moved. -/
inductive LaidOut (d : Directives) (s : Progress) :
    List String → EStateM.Result Error Progress Unit → Prop where
  /-- Without texts nothing is written. -/
  | nothing : LaidOut d s [] (.ok () s)
  /-- Joined texts are written to one slot. -/
  | joined {texts : List String} {separator : String} {t' : NamedTables} (hne : texts ≠ [])
      (hseparator : d.separator = some separator)
      (h : NamedTables.TargetChanges
        (OptionTable.WritesSlot d.key (separator.intercalate texts)) s.tables t') :
      LaidOut d s texts (.ok () { s with tables := t' })
  /-- Texts that are not to be joined each take a new slot, behind all that are there. -/
  | repeated {texts : List String} {t' : NamedTables} (hne : texts ≠ [])
      (hseparator : d.separator = none) (hrepeated : d.repeated = true)
      (h : NamedTables.TargetChanges
        (fun table table' ↦ table'.slots = table.slots ++ texts.map (Slot.ofKey d.key))
        s.tables t') :
      LaidOut d s texts (.ok () { s with tables := t' })
  /-- Without a directive texts are refused, and nothing is written. -/
  | refused {texts : List String} (hne : texts ≠ []) (hseparator : d.separator = none)
      (hrepeated : d.repeated = false) :
      LaidOut d s texts (.error (.unsupportedShape s.path .plainList) s)

section Layouts

variable {items : List Value} {s : Progress} {texts : List String}

/-- A list whose elements cannot all be rendered writes nothing. -/
theorem writeList_eq_error {e : Error} (htexts : elementTexts s.path items = .error e)
    (d : Directives) : writeList items d s = .error e s := by
  refine (Writing.bind_ok rfl).trans (Writing.bind_error ?_)
  rw [htexts]
  rfl

/-- A list without texts writes nothing. -/
theorem writeList_eq_ok (htexts : elementTexts s.path items = .ok []) (d : Directives) :
    writeList items d s = .ok () s := by
  refine (Writing.bind_ok rfl).trans ?_
  rw [htexts]
  rfl

/-- A list with texts does what its directives ask for. -/
theorem writeList_eq (htexts : elementTexts s.path items = .ok texts) (hne : texts ≠ [])
    (d : Directives) :
    writeList items d s = (match d.separator with
      | some separator => Writing.emit (.write d.key (separator.intercalate texts))
      | none =>
        if d.repeated then Writing.emitAll (texts.map (Emission.writeNext d.key))
        else Writing.refuse .plainList) s := by
  refine (Writing.bind_ok rfl).trans ?_
  rw [htexts]
  cases texts with
  | nil => exact absurd rfl hne
  | cons text texts => rfl

/-- In the tables of an encoding the texts of a list are laid out as the directives say. -/
theorem laidOut_writeList {path : List String} (htexts : elementTexts path items = .ok texts)
    (d : Directives) (group : Option String) (es : List Emission) :
    let s : Progress := { tables := (NamedTables.initial group).run es, path := path }
    LaidOut d s texts (writeList items d s) := by
  have hcoherent := NamedTables.isCoherent_run_initial group es
  have htarget := NamedTables.wellFormed_target_run_initial group es
  generalize (NamedTables.initial group).run es = t at hcoherent htarget
  intro s
  by_cases hne : texts = []
  · subst hne
    rw [writeList_eq_ok htexts]
    exact .nothing
  rw [writeList_eq htexts hne]
  cases hseparator : d.separator with
  | some separator =>
    show LaidOut d s texts
      (.ok () { s with tables := t.perform (.write d.key (separator.intercalate texts)) })
    rw [NamedTables.perform_write]
    exact .joined hne hseparator (hcoherent.targetChanges (htarget.writesSlot _ _))
  | none =>
    cases hrepeated : d.repeated with
    | true =>
      show LaidOut d s texts (Writing.emitAll (texts.map (Emission.writeNext d.key)) s)
      rw [Writing.emitAll_eq, Progress.run, NamedTables.run_writeNext _ _ hne]
      exact .repeated hne hseparator hrepeated
        (hcoherent.targetChanges (OptionTable.slots_edits_writeNext _ _ _))
    | false => exact .refused hne hseparator hrepeated

end Layouts

/-- What a list does to the tables of an encoding, under any directives. If lists hold all of its
elements, the texts of those that are present are laid out as the directives say, where each text is
the one that the element writes as the only entry of a map. Otherwise it fails, for an element that
no list holds, and writes nothing. -/
theorem Value.writer_list (items : List Value) (path : List String) (d : Directives)
    (group : Option String) (es : List Emission) :
    let s : Progress := { tables := (NamedTables.initial group).run es, path := path }
    (list items).writer.Follows (list items).encoder ∧
      ((∀ v ∈ items, v.isListable = true) ∧
          (∃ texts?, List.Forall₂ IsElementText items texts? ∧
            LaidOut d s texts?.reduceOption ((list items).writer d s)) ∨
        (∃ v ∈ items, v.isListable = false) ∧
          ∃ e, (∃ v ∈ items, v.ElementFails path e) ∧
            (list items).writer d s = .error e s) := by
  intro s
  refine ⟨writer_follows _, ?_⟩
  cases htexts : elementTexts path items with
  | ok texts =>
    refine .inl ⟨fun v hv ↦ isListable_iff.2 (exists_elementTexts_iff.1 ⟨texts, htexts⟩ v hv), ?_⟩
    obtain ⟨texts?, hforall, hreduce⟩ := exists_isElementText htexts
    exact ⟨texts?, hforall, hreduce ▸ laidOut_writeList htexts d group es⟩
  | error e =>
    obtain ⟨before, v, after, rfl, hv, -⟩ := elementTexts_eq_error_iff.1 htexts
    have hmem : v ∈ before ++ v :: after := List.mem_append_right _ List.mem_cons_self
    have hlistable : v.isListable = false := by
      rw [← Bool.not_eq_true, isListable_iff]
      exact fun h ↦ h e hv
    exact .inr ⟨⟨v, hmem, hlistable⟩, e, ⟨v, hmem, hv⟩, writeList_eq_error htexts d⟩

-- the entry before the list was written, the text before the truth value was not, and the path is
-- still at the list
example :
    (Value.map [("a", .natural 1), ("b", .list [.text "x", .boolean true])]).writer {}
        { tables := .initial (some "g"), path := ["m"] } =
      .error (.unsupportedShape ["m", "b"] (.listElement "bool"))
        { tables := (NamedTables.initial (some "g")).run [.set "a" "1"], path := ["m", "b"] } := by
  rfl

end MachineArgs
