import Mathlib.Data.List.Forall2
import MachineArgs.Address.Hardware

/-!
# Reading hardware addresses

A text is read as an address exactly if it is six groups between colons or hyphens, each of two
hexadecimal digits or of a plus sign and one (`HardwareAddress.read?_iff_isSixGroups`). The plus
sign is no part of how addresses are written, but it passes for a leading zero
(`plusSign_isRead`). Without one, a text is read exactly if every group is two digits.

What was read is written back in one form: with colons for hyphens, small letters for capitals and
zeros for plus signs (`canonical`).

An address that was written is read back as it was (`read?_text`), so different addresses have
different texts. Those that belong to different numbers are different (`forIndex_injective`).

All of this goes through the groups. Splitting a text at colons and joining groups with colons are
inverse to each other as long as no group has a colon, and no group that is read has one.
-/

namespace MachineArgs

/-! ### Hexadecimal digits -/

namespace Text

/-- Whether a character is a hexadecimal digit of either case. -/
def isHexDigit (c : Char) : Bool :=
  c.isDigit || ('a' ≤ c && c ≤ 'f') || ('A' ≤ c && c ≤ 'F')

theorem isSome_hexValue? (c : Char) : (hexValue? c).isSome = isHexDigit c := by
  rw [hexValue?, isHexDigit]
  split
  · simp [*]
  · split
    · simp [*]
    · split <;> simp_all

theorem isHexDigit_digitChar {n : Nat} (h : n < 16) : isHexDigit (Nat.digitChar n) = true := by
  rw [← isSome_hexValue?, hexValue?_digitChar h, Option.isSome_some]

/-- The value of a digit is below sixteen, and it is written as the digit in lower case. -/
theorem digitChar_of_hexValue? {c : Char} {n : Nat} (h : hexValue? c = some n) :
    n < 16 ∧ Nat.digitChar n = c.toLower := by
  have hsmall : c.toNat < 128 := by
    have hdigit : isHexDigit c = true := by rw [← isSome_hexValue?, h, Option.isSome_some]
    simp only [isHexDigit, Char.isDigit, Bool.or_eq_true, Bool.and_eq_true, decide_eq_true_eq,
      Char.le_def, UInt32.le_iff_toNat_le] at hdigit
    show c.val.toNat < 128
    rcases hdigit with (⟨-, hle⟩ | ⟨-, hle⟩) | ⟨-, hle⟩ <;> exact Nat.lt_of_le_of_lt hle (by decide)
  have hall : ∀ m : Fin 128, (hexValue? (Char.ofNat m)).all
      fun n ↦ n < 16 && Nat.digitChar n == (Char.ofNat m).toLower := by decide
  have hchar := hall ⟨c.toNat, hsmall⟩
  rw [Char.ofNat_toNat, h] at hchar
  simpa using hchar

theorem readHex_singleton (c : Char) : readHex [c] = hexValue? c := by
  show (hexFrom 0 [c]) = _
  rw [hexFrom, List.foldlM_cons]
  cases hexValue? c <;> simp

theorem readHex_pair (high low : Char) : readHex [high, low] =
    (hexValue? high).bind fun m ↦ (hexValue? low).map (16 * m + ·) := by
  show (hexFrom 0 [high, low]) = _
  rw [hexFrom, List.foldlM_cons]
  cases hexValue? high with
  | none => rfl
  | some m => cases hlow : hexValue? low <;> simp [hlow]

/-- An octet is written as the digits that it was put together from. -/
theorem hexPair_ofNat {m n : Nat} (hm : m < 16) (hn : n < 16) :
    hexPair (UInt8.ofNat (16 * m + n)) = [Nat.digitChar m, Nat.digitChar n] := by
  have hvalue : (UInt8.ofNat (16 * m + n)).toNat = 16 * m + n := by
    rw [UInt8.toNat_ofNat']
    omega
  have hhigh : (16 * m + n) / 16 = m := by omega
  have hlow : (16 * m + n) % 16 = n := by omega
  rw [hexPair, hvalue, hhigh, hlow]

end Text

namespace HardwareAddress

open Text (isHexDigit hexValue? hexPair)

/-! ### Groups -/

/-- A group of two hexadecimal digits. -/
def IsHexPair (g : List Char) : Prop :=
  ∃ high low, g = [high, low] ∧ isHexDigit high = true ∧ isHexDigit low = true

/-- A group that is read as an octet: two hexadecimal digits, or a plus sign and one. -/
def IsOctet (g : List Char) : Prop :=
  IsHexPair g ∨ ∃ low, g = ['+', low] ∧ isHexDigit low = true

/-- A hyphen counts as a colon. -/
def colonFor (c : Char) : Char :=
  if c = '-' then ':' else c

/-- A text of six groups of some kind with a colon or a hyphen between neighbours. -/
def IsSixGroups (isGroup : List Char → Prop) (s : String) : Prop :=
  ∃ groups : List (List Char), groups.length = 6 ∧ (∀ g ∈ groups, isGroup g) ∧
    s.toList.map colonFor = [':'].intercalate groups

/-- How a character of an address is written back. -/
def canonical (c : Char) : Char :=
  if c = '-' then ':' else if c = '+' then '0' else c.toLower

theorem canonical_colonFor (c : Char) : canonical (colonFor c) = canonical c := by
  rw [colonFor]
  split
  · next hc => rw [hc]; rfl
  · rfl

theorem canonical_of_isHexDigit {c : Char} (h : isHexDigit c = true) : canonical c = c.toLower := by
  have hhyphen : c ≠ '-' := by rintro rfl; revert h; decide
  have hplus : c ≠ '+' := by rintro rfl; revert h; decide
  rw [canonical, if_neg hhyphen, if_neg hplus]

/-- No octet has a colon. -/
theorem colon_notMem_of_isOctet {g : List Char} (h : IsOctet g) : ':' ∉ g := by
  have hdigit : ∀ c, isHexDigit c = true → ':' ≠ c := by
    rintro c h rfl
    revert h
    decide
  obtain ⟨high, low, rfl, hhigh, hlow⟩ | ⟨low, rfl, hlow⟩ := h
  · simpa using ⟨hdigit high hhigh, hdigit low hlow⟩
  · simpa using hdigit low hlow

/-- An octet is read, and written back character by character. -/
theorem exists_readOctet {g : List Char} (h : IsOctet g) :
    ∃ o, readOctet g = some o ∧ hexPair o = g.map canonical := by
  have hvalue : ∀ c, isHexDigit c = true →
      ∃ n, hexValue? c = some n ∧ n < 16 ∧ Nat.digitChar n = canonical c := by
    intro c hc
    rw [canonical_of_isHexDigit hc]
    rw [← Text.isSome_hexValue?] at hc
    obtain ⟨n, hn⟩ := Option.isSome_iff_exists.1 hc
    exact ⟨n, hn, Text.digitChar_of_hexValue? hn⟩
  obtain ⟨high, low, rfl, hhigh, hlow⟩ | ⟨low, rfl, hlow⟩ := h
  · obtain ⟨m, hm, hm16, hmchar⟩ := hvalue high hhigh
    obtain ⟨n, hn, hn16, hnchar⟩ := hvalue low hlow
    have hplus : high ≠ '+' := by rintro rfl; cases hm
    have hread : readOctet [high, low] = (Text.readHex [high, low]).map UInt8.ofNat := by
      rw [readOctet]
      rintro rfl
      exact hplus rfl
    refine ⟨UInt8.ofNat (16 * m + n), ?_, ?_⟩
    · rw [hread, Text.readHex_pair, hm, hn]
      rfl
    · rw [Text.hexPair_ofNat hm16 hn16, hmchar, hnchar]
      rfl
  · obtain ⟨n, hn, hn16, hnchar⟩ := hvalue low hlow
    refine ⟨UInt8.ofNat (16 * 0 + n), ?_, ?_⟩
    · show (Text.readHex [low]).map UInt8.ofNat = _
      rw [Text.readHex_singleton, hn, Nat.zero_add]
      rfl
    · rw [Text.hexPair_ofNat (by omega) hn16, hnchar]
      rfl

/-- Only octets are read. -/
theorem isOctet_of_readOctet {g : List Char} {o : UInt8} (h : readOctet g = some o) :
    IsOctet g := by
  rw [readOctet.eq_def] at h
  split at h
  · next low =>
    obtain ⟨n, hn, -⟩ := Option.map_eq_some_iff.1 h
    rw [Text.readHex_singleton] at hn
    exact .inr ⟨low, rfl, by rw [← Text.isSome_hexValue?, hn, Option.isSome_some]⟩
  · next high low _ =>
    obtain ⟨n, hn, -⟩ := Option.map_eq_some_iff.1 h
    rw [Text.readHex_pair] at hn
    obtain ⟨m, hm, hn⟩ := Option.bind_eq_some_iff.1 hn
    obtain ⟨n, hn, -⟩ := Option.map_eq_some_iff.1 hn
    refine .inl ⟨high, low, rfl, ?_, ?_⟩
    · rw [← Text.isSome_hexValue?, hm, Option.isSome_some]
    · rw [← Text.isSome_hexValue?, hn, Option.isSome_some]
  · cases h

/-! ### Groups in a row -/

/-- The groups of a text between colons and hyphens. -/
def groupsOf (cs : List Char) : List (List Char) :=
  (cs.map colonFor).splitOn ':'

theorem intercalate_groupsOf (cs : List Char) :
    [':'].intercalate (groupsOf cs) = cs.map colonFor :=
  List.intercalate_splitOn ':'

/-- A text is read as octets if its groups are, one by one. -/
theorem readOctets_eq_some_iff {cs : List Char} {os : List UInt8} :
    readOctets cs = some os ↔ List.Forall₂ (fun g o ↦ readOctet g = some o) (groupsOf cs) os := by
  rw [readOctets, show (fun c ↦ if c = '-' then ':' else c) = colonFor from rfl, ← groupsOf]
  generalize groupsOf cs = groups
  induction groups generalizing os with
  | nil => simp [eq_comm]
  | cons g groups ih =>
    rw [List.mapM_cons, List.forall₂_cons_left_iff]
    simp only [Option.bind_eq_bind, Option.bind_eq_some_iff, ih, Option.pure_def,
      Option.some.injEq, eq_comm (b := os), exists_and_left]

/-- The groups of a text of six groups are those between its separators. -/
theorem isSixGroups_iff {isGroup : List Char → Prop} (hcolon : ∀ g, isGroup g → ':' ∉ g)
    {s : String} : IsSixGroups isGroup s ↔
      (groupsOf s.toList).length = 6 ∧ ∀ g ∈ groupsOf s.toList, isGroup g := by
  constructor
  · rintro ⟨groups, hlength, hgroups, htext⟩
    have hne : groups ≠ [] := List.ne_nil_of_length_pos (by omega)
    have hsplit : groupsOf s.toList = groups := by
      rw [groupsOf, htext, List.splitOn_intercalate ':' (fun g hg ↦ hcolon g (hgroups g hg)) hne]
    rw [hsplit]
    exact ⟨hlength, hgroups⟩
  · rintro ⟨hlength, hgroups⟩
    exact ⟨groupsOf s.toList, hlength, hgroups, (intercalate_groupsOf _).symm⟩

/-- Groups are read as octets if all of them are octets. -/
theorem exists_octets_iff (groups : List (List Char)) :
    (∃ os, List.Forall₂ (fun g o ↦ readOctet g = some o) groups os) ↔ ∀ g ∈ groups, IsOctet g := by
  induction groups with
  | nil => exact ⟨fun _ ↦ nofun, fun _ ↦ ⟨[], .nil⟩⟩
  | cons g groups ih =>
    rw [List.forall_mem_cons, ← ih]
    constructor
    · rintro ⟨os, h⟩
      cases h with
      | cons hread hrest => exact ⟨isOctet_of_readOctet hread, _, hrest⟩
    · rintro ⟨hg, os, hrest⟩
      obtain ⟨o, hread, -⟩ := exists_readOctet hg
      exact ⟨o :: os, .cons hread hrest⟩

/-- What stands in a group stands in the text. -/
theorem mem_of_mem_groupsOf {c : Char} {g cs : List Char} (hg : g ∈ groupsOf cs) (hc : c ∈ g) :
    c ∈ cs.map colonFor := by
  rw [← intercalate_groupsOf]
  generalize groupsOf cs = groups at hg
  induction groups with
  | nil => cases hg
  | cons g' groups ih =>
    cases groups with
    | nil =>
      obtain rfl := List.mem_singleton.1 hg
      simpa using hc
    | cons g'' groups =>
      rw [List.intercalate_cons_cons, List.mem_append, List.mem_append]
      rcases List.mem_cons.1 hg with rfl | hg
      · exact .inl (.inl hc)
      · exact .inr (ih hg)

theorem map_intercalate_colon {f : Char → Char} (hf : f ':' = ':') (groups : List (List Char)) :
    ([':'].intercalate groups).map f = [':'].intercalate (groups.map (List.map f)) := by
  induction groups with
  | nil => rfl
  | cons g groups ih =>
    cases groups with
    | nil => simp
    | cons g' groups =>
      rw [List.intercalate_cons_cons, List.map_append, List.map_append, ih, List.map_singleton, hf]
      exact List.intercalate_cons_cons.symm

/-- Octets that were read are written back character by character. -/
theorem intercalate_hexPair {cs : List Char} {os : List UInt8}
    (h : List.Forall₂ (fun g o ↦ readOctet g = some o) (groupsOf cs) os) :
    [':'].intercalate (os.map hexPair) = cs.map canonical := by
  have hpairs : os.map hexPair = (groupsOf cs).map (List.map canonical) := by
    generalize groupsOf cs = groups at h
    induction h with
    | nil => rfl
    | cons hread _ ih =>
      obtain ⟨o, ho, hpair⟩ := exists_readOctet (isOctet_of_readOctet hread)
      obtain rfl := Option.some.inj (hread.symm.trans ho)
      rw [List.map_cons, List.map_cons, hpair, ih]
  calc [':'].intercalate (os.map hexPair)
      = ([':'].intercalate (groupsOf cs)).map canonical := by
        rw [hpairs, map_intercalate_colon rfl]
    _ = cs.map canonical := by
        rw [intercalate_groupsOf, List.map_map]
        exact List.map_congr_left fun c _ ↦ canonical_colonFor c

/-! ### Addresses -/

theorem read?_eq_some_iff {s : String} {a : HardwareAddress} :
    read? s = some a ↔
      List.Forall₂ (fun g o ↦ readOctet g = some o) (groupsOf s.toList) a.octets := by
  rw [← readOctets_eq_some_iff, read?]
  obtain ⟨octets, hlength⟩ := a
  cases readOctets s.toList with
  | none => simp
  | some os =>
    simp only [Option.some.injEq]
    split
    · refine ⟨fun heq ↦ congrArg HardwareAddress.octets (Option.some.inj heq), ?_⟩
      rintro rfl
      rfl
    · next hne =>
      refine iff_of_false nofun ?_
      rintro rfl
      exact hne hlength

/-- Which texts are read as addresses: six groups between colons or hyphens, each of two hexadecimal
digits or of a plus sign and one. So a text without a plus sign is read exactly if every group is
two digits. What is read is written back with colons for hyphens, zeros for plus signs and all
letters in lower case. -/
theorem read?_iff_isSixGroups (s : String) :
    ((∃ a, read? s = some a) ↔ IsSixGroups IsOctet s) ∧
      ('+' ∉ s.toList → (IsSixGroups IsOctet s ↔ IsSixGroups IsHexPair s)) ∧
      ∀ a, read? s = some a → a.text = String.ofList (s.toList.map canonical) := by
  have hoctets := isSixGroups_iff (fun _ ↦ colon_notMem_of_isOctet) (s := s)
  refine ⟨⟨?_, fun h ↦ ?_⟩, fun hplus ↦ ?_, fun a ha ↦ ?_⟩
  · rintro ⟨a, ha⟩
    have hread := read?_eq_some_iff.1 ha
    exact hoctets.2 ⟨hread.length_eq.trans a.length_octets, (exists_octets_iff _).1 ⟨_, hread⟩⟩
  · obtain ⟨hlength, hgroups⟩ := hoctets.1 h
    obtain ⟨os, hread⟩ := (exists_octets_iff _).2 hgroups
    exact ⟨⟨os, hread.length_eq.symm.trans hlength⟩, read?_eq_some_iff.2 hread⟩
  · rw [hoctets, isSixGroups_iff fun _ h ↦ colon_notMem_of_isOctet (.inl h)]
    refine and_congr_right fun _ ↦ forall₂_congr fun g hg ↦ ⟨?_, .inl⟩
    rintro (hpair | ⟨low, rfl, -⟩)
    · exact hpair
    · obtain ⟨c, hc, heq⟩ := List.mem_map.1 (mem_of_mem_groupsOf hg List.mem_cons_self)
      have hceq : c = '+' := by
        rw [colonFor] at heq
        split at heq
        · cases heq
        · exact heq
      exact absurd (hceq ▸ hc) hplus
  · rw [text, intercalate_hexPair (read?_eq_some_iff.1 ha)]

/-- An address with both separators and letters of both cases. -/
theorem mixed_read? :
    '+' ∉ "3D-df:83-C0-F3:9f".toList ∧ IsSixGroups IsHexPair "3D-df:83-C0-F3:9f" ∧
      ∃ a, read? "3D-df:83-C0-F3:9f" = some a ∧ a.text = "3d:df:83:c0:f3:9f" := by
  have hplus : '+' ∉ "3D-df:83-C0-F3:9f".toList := by decide
  have hread : read? "3D-df:83-C0-F3:9f" = some ⟨[0x3d, 0xdf, 0x83, 0xc0, 0xf3, 0x9f], rfl⟩ := by
    decide
  have h := read?_iff_isSixGroups "3D-df:83-C0-F3:9f"
  exact ⟨hplus, (h.2.1 hplus).1 (h.1.1 ⟨_, hread⟩), _, hread, h.2.2 _ hread⟩

/-- A plus sign passes for the first digit of a group. -/
theorem plusSign_isRead : read? "+f:00:00:00:00:00" = some ⟨[15, 0, 0, 0, 0, 0], rfl⟩ ∧
    ¬IsSixGroups IsHexPair "+f:00:00:00:00:00" := by
  refine ⟨by decide, fun h ↦ ?_⟩
  rw [isSixGroups_iff fun _ h ↦ colon_notMem_of_isOctet (.inl h)] at h
  obtain ⟨high, low, heq, hhigh, -⟩ := h.2 ['+', 'f'] (by decide)
  obtain ⟨rfl, -⟩ := List.cons.inj heq
  cases hhigh

/-! ### Written addresses -/

theorem isHexPair_hexPair (o : UInt8) : IsHexPair (hexPair o) := by
  have ho : o.toNat < 256 := o.toNat_lt
  exact ⟨_, _, rfl, Text.isHexDigit_digitChar (by omega), Text.isHexDigit_digitChar (by omega)⟩

/-- An octet that is written as two digits is read back. -/
theorem readOctet_hexPair (o : UInt8) : readOctet (hexPair o) = some o := by
  obtain ⟨high, low, heq, hhigh, -⟩ := isHexPair_hexPair o
  have hread := Text.readHex_hexPair o
  rw [heq] at hread ⊢
  rw [readOctet, hread, Option.map_some, UInt8.ofNat_toNat]
  rintro rfl
  revert hhigh
  decide

/-- Hexadecimal digits are no hyphens. -/
theorem map_colonFor_hexPair (o : UInt8) : (hexPair o).map colonFor = hexPair o := by
  have hdigit : ∀ c, isHexDigit c = true → colonFor c = c := by
    intro c hc
    rw [colonFor, if_neg]
    rintro rfl
    revert hc
    decide
  obtain ⟨high, low, heq, hhigh, hlow⟩ := isHexPair_hexPair o
  rw [heq, List.map_cons, List.map_singleton, hdigit high hhigh, hdigit low hlow]

/-- The groups of a written address are its octets. -/
theorem groupsOf_text (a : HardwareAddress) : groupsOf a.text.toList = a.octets.map hexPair := by
  have hne : a.octets.map hexPair ≠ [] := by
    refine List.ne_nil_of_length_pos ?_
    rw [List.length_map, a.length_octets]
    decide
  have hcolon : List.map colonFor ∘ hexPair = hexPair := funext map_colonFor_hexPair
  rw [groupsOf, text, String.toList_ofList, map_intercalate_colon rfl, List.map_map, hcolon,
    List.splitOn_intercalate ':' _ hne]
  intro g hg
  obtain ⟨o, -, rfl⟩ := List.mem_map.1 hg
  exact colon_notMem_of_isOctet (.inl (isHexPair_hexPair o))

/-- An address that is written is read back. -/
theorem read?_text (a : HardwareAddress) : read? a.text = some a := by
  rw [read?_eq_some_iff, groupsOf_text, List.forall₂_map_left_iff, List.forall₂_same]
  exact fun o _ ↦ readOctet_hexPair o

theorem text_injective {a b : HardwareAddress} (h : a.text = b.text) : a = b :=
  Option.some.inj ((read?_text a).symm.trans (h ▸ read?_text b))

/-- A word of 32 bits is known by its four octets. -/
theorem eq_of_octets_eq {n m : UInt32} (h₃ : (n >>> 24).toUInt8 = (m >>> 24).toUInt8)
    (h₂ : (n >>> 16).toUInt8 = (m >>> 16).toUInt8) (h₁ : (n >>> 8).toUInt8 = (m >>> 8).toUInt8)
    (h₀ : n.toUInt8 = m.toUInt8) : n = m := by
  have hn : n.toNat < 4294967296 := n.toNat_lt
  have hm : m.toNat < 4294967296 := m.toNat_lt
  simp only [← UInt8.toNat_inj, UInt32.toNat_toUInt8, UInt32.toNat_shiftRight,
    Nat.shiftRight_eq_div_pow, UInt32.reduceToNat, Nat.reduceMod, Nat.reducePow] at h₃ h₂ h₁ h₀
  exact UInt32.toNat_inj.1 (by omega)

/-- Interfaces with different numbers have different addresses, for the sum of a number and one
wraps around. -/
theorem forIndex_injective {i j : UInt32} (h : forIndex i = forIndex j) : i = j := by
  have hoctets := congrArg octets h
  simp only [forIndex, List.cons.injEq, true_and, and_true] at hoctets
  obtain ⟨h₃, h₂, h₁, h₀⟩ := hoctets
  exact (UInt32.add_left_inj 1).1 (eq_of_octets_eq h₃ h₂ h₁ h₀)

end HardwareAddress

end MachineArgs
