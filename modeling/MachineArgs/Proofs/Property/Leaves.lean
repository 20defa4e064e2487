import MachineArgs.Proofs.Property.Rendering
import MachineArgs.Proofs.Text.Bytes

/-!
# The leaves of a property

A free-form property is written as its leaves: its truth values, numbers and texts, objects by
ascending key and depth first (`Property.leaves`). Each leaf is set under the key next to it; the
keys further out leave no trace. Nulls and lists of nulls have no leaves.

`Property.encoder_lower_eq` says so of the encoder, for every property with a rendering. That keys
ascend by their bytes is `pairwise_orderEntries`.
-/

namespace MachineArgs

/-! ### Order of entries -/

section Entries

variable {α : Type}

/-- An entry that is put among entries with ascending keys leaves them so. -/
theorem pairwise_insertEntry {entries : List (String × α)}
    (h : entries.Pairwise fun e e' ↦ e.1 < e'.1) (key : String) (a : α) :
    (insertEntry key a entries).Pairwise fun e e' ↦ e.1 < e'.1 := by
  induction entries with
  | nil => exact List.pairwise_singleton _ _
  | cons e entries ih =>
    obtain ⟨hfirst, hrest⟩ := List.pairwise_cons.1 h
    rw [insertEntry]
    split
    · next hlt =>
      refine List.pairwise_cons.2 ⟨List.forall_mem_cons.2 ⟨hlt, fun e' he' ↦ ?_⟩, h⟩
      exact String.lt_trans hlt (hfirst e' he')
    · next hnot =>
      split
      · next heq => exact List.pairwise_cons.2 ⟨fun e' he' ↦ heq ▸ hfirst e' he', hrest⟩
      · next hne =>
        refine List.pairwise_cons.2 ⟨fun e' he' ↦ ?_, ih hrest⟩
        rcases mem_of_mem_insertEntry he' with rfl | he'
        · by_contra hnot'
          exact hne (String.le_antisymm (String.not_lt.1 hnot') (String.not_lt.1 hnot))
        · exact hfirst e' he'

/-- Entries in order have ascending keys, byte by byte. -/
theorem pairwise_orderEntries (entries : List (String × α)) :
    (orderEntries entries).Pairwise fun e e' ↦ Text.bytes e.1 < Text.bytes e'.1 := by
  have hfoldl : ∀ acc : List (String × α), (acc.Pairwise fun e e' ↦ e.1 < e'.1) →
      (entries.foldl (fun acc e ↦ insertEntry e.1 e.2 acc) acc).Pairwise fun e e' ↦ e.1 < e'.1 := by
    induction entries with
    | nil => exact fun _ h ↦ h
    | cons e entries ih => exact fun acc h ↦ ih _ (pairwise_insertEntry h e.1 e.2)
  exact (hfoldl [] List.Pairwise.nil).imp Text.bytes_lt_bytes

end Entries

namespace Property

mutual

/-- The leaves of a property that stands under a key: what is set, and to which text. -/
def leaves : Property → String → List (String × String)
  | null, _ => []
  | boolean b, key => [(key, onOff b)]
  | whole n, key => [(key, toString n)]
  | fraction _, _ => []
  | text s, key => [(key, s)]
  | list _, _ => []
  | object entries, _ => (orderEntries (entryLeaves entries)).flatMap fun e ↦ e.2 e.1

/-- The leaves of entries, given a key to stand under. -/
def entryLeaves : List (String × Property) → List (String × (String → List (String × String)))
  | [] => []
  | (key, p) :: entries => (key, p.leaves) :: entryLeaves entries

end

@[simp]
theorem entryLeaves_eq_map (entries : List (String × Property)) :
    entryLeaves entries = entries.map fun e ↦ (e.1, e.2.leaves) := by
  induction entries with
  | nil => rfl
  | cons e entries ih => rw [entryLeaves, ih, List.map_cons]

/-- The leaves of an object are those of its entries, each under its own key. -/
theorem leaves_object (entries : List (String × Property)) (key : String) :
    (object entries).leaves key = (orderEntries entries).flatMap fun e ↦ e.2.leaves e.1 := by
  rw [leaves, entryLeaves_eq_map, orderEntries_map leaves, List.flatMap_map]

/-! ### Encoding -/

/-- The emission of a leaf. -/
def leafEmission (leaf : String × String) : Emission :=
  .set leaf.1 leaf.2

theorem lower_object (entries : List (String × Property)) : (object entries).lower =
    .map ((orderEntries entries).map fun e ↦ (e.1, e.2.lower)) := by
  rw [lower, lowerEntries_eq_map, Value.ofEntries]
  exact congrArg Value.map (orderEntries_map lower entries)

theorem encoder_wholeValue {n : Int} (h : isRenderable n = true) (path : List String)
    {d : Directives} {key : String} (hkey : d.key = some key) :
    (wholeValue n).encoder path d = .ok [.set key (toString n)] := by
  rw [wholeValue, if_pos h]
  cases n with
  | ofNat n =>
    rw [if_pos (show 0 ≤ Int.ofNat n from Int.natCast_nonneg n)]
    show Except.ok [Emission.write d.key (toString n)] = _
    rw [hkey]
    rfl
  | negSucc n =>
    rw [if_neg (by omega)]
    show Except.ok [Emission.write d.key _] = _
    rw [hkey]
    rfl

/-- Entries that are encoded as their leaves make a map that is. -/
theorem encodeMap_eq {entries : List (String × Property)}
    (h : ∀ e ∈ entries, ∀ path, e.2.lower.encoder path { key := some e.1 } =
      .ok ((e.2.leaves e.1).map leafEmission)) (path : List String) (d : Directives) :
    encodeMap (entries.map fun e ↦ (e.1, e.2.lower.encoder)) path d =
      .ok ((entries.flatMap fun e ↦ e.2.leaves e.1).map leafEmission) := by
  induction entries with
  | nil => rfl
  | cons e entries ih =>
    rw [List.forall_mem_cons] at h
    rw [List.map_cons, encodeMap, h.1, ok_bind, ih h.2, ok_bind, pure_eq_ok, List.flatMap_cons,
      List.map_append]

/-- A property with a rendering is written as its leaves. -/
theorem encoder_lower_eq (p : Property) (h : ¬p.Unrenderable) (path : List String) {d : Directives}
    {key : String} (hkey : d.key = some key) (hsep : d.separator = none)
    (hrepeated : d.repeated = false) :
    p.lower.encoder path d = .ok ((p.leaves key).map leafEmission) := by
  induction p using Property.induction generalizing path d key with
  | null => rfl
  | boolean b =>
    show Except.ok [Emission.write d.key (onOff b)] = _
    rw [hkey]
    rfl
  | whole n =>
    rw [unrenderable_whole_iff, Bool.not_eq_false] at h
    exact encoder_wholeValue h path hkey
  | fraction x => exact absurd (.fraction x) h
  | text s =>
    show Except.ok [Emission.write d.key s] = _
    rw [hkey]
    rfl
  | list items =>
    -- only nulls are left, and they have no texts
    rcases elementTexts_lower path items with ⟨-, htexts⟩ | ⟨hex, -⟩
    · rw [lower, lowerAll_eq_map, Value.encoder, encodeList, htexts]
      rfl
    · exact absurd (unrenderable_list_iff.2 hex) h
  | object entries ih =>
    have hentries : ∀ e ∈ orderEntries entries, ¬e.2.Unrenderable := fun e he hbad ↦
      h (unrenderable_object_iff.2 ⟨e, he, hbad⟩)
    rw [lower_object, Value.encoder, Value.entryEncoders_eq_map, List.map_map, leaves_object]
    exact encodeMap_eq (fun e he path ↦
      ih e (mem_of_mem_orderEntries he) (hentries e he) path rfl rfl rfl) path d

/-- A field for an object with a rendering is written as the leaves of the object. -/
theorem encodeField_object {f : Field} (hskip : f.skipped = false) (hsep : f.separator = none)
    (hrepeated : f.repeated = false) {own : String} (hown : f.key? = some own)
    {entries : List (String × Property)} (h : ¬(object entries).Unrenderable) (path : List String) :
    encodeField path f (object entries).lower.isZero (object entries).lower.encoder =
      .ok (((object entries).leaves own).map leafEmission) := by
  rw [encodeField, hskip, Bool.false_or]
  split
  · -- an object is zero if it has no entries, and then it has no leaves either
    rename_i hzero
    have hnil : orderEntries entries = [] := by
      rw [lower_object, Value.isZero, List.isEmpty_map] at hzero
      exact List.isEmpty_iff.1 hzero
    rw [leaves_object, hnil]
    rfl
  · exact encoder_lower_eq _ h _ hown hsep hrepeated

end Property

end MachineArgs
