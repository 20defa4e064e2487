import Mathlib.Data.List.Basic
import MachineArgs.Address.Internet
import MachineArgs.Proofs.Text.Numeral

/-!
# Reading internet addresses

What is written as an internet address is read back as this address
(`InternetAddress.ofChars?_chars`).

Numbers are read from the front of a text. A written number is followed by something that is no
digit, so it is found as a whole; the results on single numbers (`takeOctet_append`,
`takeGroup_append`) carry over to rows of numbers by induction (`takeMore_append`,
`takeGroups_furtherChars`).

The groups of a long address end where reading cannot go on, at the end of the text or in front of
`::` (`Stops`). A group is never taken for the first number of a dotted address, since no dot
follows its digits (`take?_hexChars_append`).

A long address has three kinds of forms (`LongAddress.IsWritten`): eight groups, groups around `::`,
or a short address at the end. Every form is read as the address, so it does not matter which run of
zeros is left out. The form that is chosen for writing is one of them because the longest run is a
part of the groups with nothing but zeros (`longestRun_spec`).
-/

namespace MachineArgs

open Text (hexValue?)

namespace ShortAddress

variable {rest : List Char}

/-- A written octet is found in front of something that is no digit. -/
theorem takeOctet_append (octet : UInt8) (hrest : ∀ c ∈ rest.head?, c.isDigit = false) :
    takeOctet (Nat.toDigits 10 octet.toNat ++ rest) = some (octet, rest) := by
  have hlt : octet.toNat < 256 := octet.toNat_lt
  have hnumeral := Text.isNumeral_toDigits octet.toNat
  have hlength : (Nat.toDigits 10 octet.toNat).length ≤ 3 :=
    (Nat.length_toDigits_le_iff (by decide) (by decide)).2 (by omega)
  have hzero : (Nat.toDigits 10 octet.toNat).head? = some '0' →
      (Nat.toDigits 10 octet.toNat).length = 1 := fun h ↦ by rw [hnumeral.eq_zero h]; rfl
  rw [takeOctet, Text.takeWhile_append_of_head? hnumeral.isDigit hrest,
    Text.dropWhile_append_of_head? hnumeral.isDigit hrest,
    Nat.ofDigitChars_toDigits (by decide) (by decide), UInt8.ofNat_toNat, if_neg]
  simp only [Bool.or_eq_true, Bool.and_eq_true, decide_eq_true_eq, beq_iff_eq,
    List.isEmpty_iff, not_or, not_and]
  exact ⟨⟨⟨hnumeral.ne_nil, by omega⟩, fun h ↦ by rw [hzero h]; decide⟩, by omega⟩

/-- The octets behind the first one. -/
def furtherChars (octets : List UInt8) : List Char :=
  octets.flatMap fun octet ↦ '.' :: Nat.toDigits 10 octet.toNat

theorem isDigit_of_mem_head?_furtherChars (octets : List UInt8)
    (hrest : ∀ c ∈ rest.head?, c.isDigit = false) :
    ∀ c ∈ (furtherChars octets ++ rest).head?, c.isDigit = false := by
  cases octets with
  | nil => exact hrest
  | cons octet octets =>
    intro c hc
    obtain rfl : '.' = c := Option.some.inj hc
    rfl

theorem takeMore_append (octets : List UInt8) (hrest : ∀ c ∈ rest.head?, c.isDigit = false) :
    takeMore octets.length (furtherChars octets ++ rest) = some (octets, rest) := by
  induction octets with
  | nil => rfl
  | cons octet octets ih =>
    have hnext := isDigit_of_mem_head?_furtherChars octets hrest
    rw [furtherChars, List.flatMap_cons, List.cons_append, List.cons_append, List.append_assoc,
      List.length_cons, takeMore, ← furtherChars, takeOctet_append octet hnext]
    show (takeMore octets.length (furtherChars octets ++ rest)).bind _ = _
    rw [ih]
    rfl

theorem chars_eq {first : UInt8} {more : List UInt8} (h : (first :: more).length = 4) :
    chars ⟨first :: more, h⟩ = Nat.toDigits 10 first.toNat ++ furtherChars more := by
  rw [chars, List.map_cons, Text.intercalate_singleton_cons, List.flatMap_map, furtherChars]

/-- A short address is found in front of something that is no digit. -/
theorem take?_append (a : ShortAddress) (hrest : ∀ c ∈ rest.head?, c.isDigit = false) :
    take? (a.chars ++ rest) = some (a, rest) := by
  obtain ⟨_ | ⟨first, more⟩, hlength⟩ := a
  · cases hlength
  have hmore : more.length = 3 := Nat.succ.inj hlength
  have htake := takeMore_append more hrest
  rw [hmore] at htake
  rw [chars_eq, List.append_assoc, take?,
    takeOctet_append first (isDigit_of_mem_head?_furtherChars more hrest)]
  show (takeMore 3 (furtherChars more ++ rest)).bind _ = _
  rw [htake]
  exact dif_pos hlength

theorem take?_chars (a : ShortAddress) : take? a.chars = some (a, []) := by
  have htake : take? (a.chars ++ []) = some (a, []) := a.take?_append nofun
  rwa [List.append_nil] at htake

/-- Without a dot behind the first digits there is no short address. -/
theorem take?_eq_none {cs : List Char} (h : (cs.dropWhile Char.isDigit).head? ≠ some '.') :
    take? cs = none := by
  have hmore : takeMore 3 (cs.dropWhile Char.isDigit) = none := by
    rw [takeMore]
    rintro rest hcs
    exact h (by rw [hcs, List.head?_cons])
  rw [take?, takeOctet]
  split
  · rfl
  · show (takeMore 3 (cs.dropWhile Char.isDigit)).bind _ = none
    rw [hmore, Option.bind_none]

end ShortAddress

namespace LongAddress

/-! ### Groups -/

/-- The written form of a group. -/
def hexChars (group : UInt16) : List Char :=
  Nat.toDigits 16 group.toNat

/-- Text that may follow a group: it does not go on with a digit or a dot. -/
def FollowsGroup (rest : List Char) : Prop :=
  ∀ c ∈ rest.head?, (hexValue? c).isSome = false ∧ c ≠ '.'

variable {rest : List Char}

theorem isSome_hexValue?_of_mem_hexChars {group : UInt16} {c : Char} (hc : c ∈ hexChars group) :
    (hexValue? c).isSome = true :=
  Text.isSome_hexValue?_of_mem_toDigits hc

theorem FollowsGroup.isDigit_eq_false (h : FollowsGroup rest) :
    ∀ c ∈ rest.head?, c.isDigit = false := by
  intro c hc
  by_contra hdigit
  have hvalue := (h c hc).1
  rw [hexValue?, if_pos (by simpa using hdigit)] at hvalue
  cases hvalue

theorem followsGroup_colon (rest : List Char) : FollowsGroup (':' :: rest) := by
  intro c hc
  obtain rfl : ':' = c := Option.some.inj hc
  decide

theorem followsGroup_nil : FollowsGroup [] :=
  nofun

/-- A written group is found in front of something that is no digit. -/
theorem takeGroup_append (group : UInt16) (hrest : FollowsGroup rest) :
    takeGroup (hexChars group ++ rest) = some (group, rest) := by
  have hlt : group.toNat < 65536 := group.toNat_lt
  have hlength : (hexChars group).length ≤ 4 :=
    (Nat.length_toDigits_le_iff (by decide) (by decide)).2 (by omega)
  rw [takeGroup, Text.takeWhile_append_of_head? (fun _ ↦ isSome_hexValue?_of_mem_hexChars)
    fun c hc ↦ (hrest c hc).1, if_neg (by omega), List.drop_left, hexChars, Text.readHex_toDigits,
    Option.map_some, UInt16.ofNat_toNat]

theorem FollowsGroup.dropWhile_eq (h : FollowsGroup rest) :
    rest.dropWhile Char.isDigit = rest :=
  Text.dropWhile_append_of_head? (List.forall_mem_nil _) h.isDigit_eq_false

theorem FollowsGroup.takeGroup_eq_none (h : FollowsGroup rest) : takeGroup rest = none := by
  have hdigits : rest.takeWhile (fun c ↦ (hexValue? c).isSome) = [] :=
    Text.takeWhile_append_of_head? (List.forall_mem_nil _) fun c hc ↦ (h c hc).1
  rw [takeGroup, hdigits]
  rfl

theorem FollowsGroup.take?_eq_none (h : FollowsGroup rest) : ShortAddress.take? rest = none := by
  refine ShortAddress.take?_eq_none fun hdot ↦ ?_
  rw [h.dropWhile_eq] at hdot
  exact (h '.' hdot).2 rfl

/-- A group is not taken for the first number of a short address. -/
theorem take?_hexChars_append (group : UInt16) (hrest : FollowsGroup rest) :
    ShortAddress.take? (hexChars group ++ rest) = none := by
  refine ShortAddress.take?_eq_none fun hdot ↦ ?_
  rw [List.dropWhile_append] at hdot
  split at hdot
  · rw [hrest.dropWhile_eq] at hdot
    exact (hrest '.' hdot).2 rfl
  · next hne =>
    rw [List.head?_append_of_ne_nil _ (by simpa using hne)] at hdot
    have hmem : '.' ∈ hexChars group :=
      (List.dropWhile_sublist Char.isDigit).subset (List.mem_of_mem_head? hdot)
    cases isSome_hexValue?_of_mem_hexChars hmem

/-! ### Rows of groups -/

/-- The groups behind the first one. -/
def furtherChars (groups : List UInt16) : List Char :=
  groups.flatMap fun group ↦ ':' :: hexChars group

theorem groupChars_cons (group : UInt16) (groups : List UInt16) :
    groupChars (group :: groups) = hexChars group ++ furtherChars groups := by
  rw [groupChars, List.map_cons, Text.intercalate_singleton_cons, List.flatMap_map, furtherChars]
  rfl

theorem takeColon_true (cs : List Char) : takeColon true cs = some cs := by
  rw [takeColon.eq_def]
  split <;> rfl

/-- Text from which no group is taken. -/
def Stops (rest : List Char) : Prop :=
  ∀ limit isFirst, takeGroups limit isFirst rest = ([], false, rest)

/-- No group is taken from something that is no digit. -/
theorem takeGroups_eq_nil {cs body : List Char} {isFirst : Bool}
    (hcolon : takeColon isFirst cs = some body) (hbody : FollowsGroup body) (limit : Nat) :
    takeGroups limit isFirst cs = ([], false, cs) := by
  cases limit with
  | zero => rw [takeGroups]
  | succ limit =>
    rw [takeGroups, hcolon]
    simp only [hbody.take?_eq_none, hbody.takeGroup_eq_none, ite_self]

theorem stops_nil : Stops [] := by
  intro limit isFirst
  cases isFirst with
  | true => exact takeGroups_eq_nil rfl followsGroup_nil limit
  | false => cases limit <;> rfl

theorem stops_colons (rest : List Char) : Stops (':' :: ':' :: rest) := by
  intro limit isFirst
  cases isFirst <;> exact takeGroups_eq_nil rfl (followsGroup_colon _) limit

/-- One group is taken, and then the further ones. -/
theorem takeGroups_hexChars {cs : List Char} {isFirst : Bool} {group : UInt16}
    (hcolon : takeColon isFirst cs = some (hexChars group ++ rest)) (hrest : FollowsGroup rest)
    (limit : Nat) : takeGroups (limit + 1) isFirst cs =
      (group :: (takeGroups limit false rest).1, (takeGroups limit false rest).2) := by
  rw [takeGroups, hcolon]
  simp only [take?_hexChars_append group hrest, takeGroup_append group hrest, ite_self]

/-- What follows a group is another group or the rest. -/
theorem followsGroup_furtherChars (groups : List UInt16) (hrest : FollowsGroup rest) :
    FollowsGroup (furtherChars groups ++ rest) := by
  cases groups with
  | nil => exact hrest
  | cons group groups => exact followsGroup_colon _

/-- Further groups are taken until the text stops. -/
theorem takeGroups_furtherChars (groups : List UInt16) (hrest : FollowsGroup rest)
    (hstops : Stops rest) {limit : Nat} (hlimit : groups.length ≤ limit) :
    takeGroups limit false (furtherChars groups ++ rest) = (groups, false, rest) := by
  induction groups generalizing limit with
  | nil => exact hstops limit false
  | cons group groups ih =>
    obtain ⟨limit, rfl⟩ := Nat.exists_eq_add_one_of_ne_zero (Nat.ne_zero_of_lt hlimit)
    have hfollows := followsGroup_furtherChars groups hrest
    rw [furtherChars, List.flatMap_cons, ← furtherChars, List.cons_append, List.cons_append,
      List.append_assoc, takeGroups_hexChars rfl hfollows, ih (Nat.le_of_succ_le_succ hlimit)]

/-- Written groups are taken until the text stops. -/
theorem takeGroups_groupChars (groups : List UInt16) (hrest : FollowsGroup rest)
    (hstops : Stops rest) {limit : Nat} (hlimit : groups.length ≤ limit) :
    takeGroups limit true (groupChars groups ++ rest) = (groups, false, rest) := by
  cases groups with
  | nil => exact hstops limit true
  | cons group groups =>
    obtain ⟨limit, rfl⟩ := Nat.exists_eq_add_one_of_ne_zero (Nat.ne_zero_of_lt hlimit)
    rw [groupChars_cons, List.append_assoc,
      takeGroups_hexChars (takeColon_true _) (followsGroup_furtherChars groups hrest),
      takeGroups_furtherChars groups hrest hstops (Nat.le_of_succ_le_succ hlimit)]

theorem takeGroups_groupChars_end {groups : List UInt16} {limit : Nat}
    (hlimit : groups.length ≤ limit) :
    takeGroups limit true (groupChars groups) = (groups, false, []) := by
  have htake := takeGroups_groupChars groups followsGroup_nil stops_nil hlimit
  rwa [List.append_nil] at htake

/-! ### The run of zeros -/

/-- Groups begin with their leading zeros. -/
theorem eq_replicate_append_drop (groups : List UInt16) :
    groups = List.replicate (leadingZeros groups) 0 ++ groups.drop (leadingZeros groups) := by
  induction groups with
  | nil => rfl
  | cons group groups ih =>
    by_cases hzero : group = 0
    · have hmore : leadingZeros (group :: groups) = leadingZeros groups + 1 := by
        simp [leadingZeros, hzero]
      rw [hmore, List.replicate_succ, List.drop_succ_cons, List.cons_append, ← ih, hzero]
    · have hnone : leadingZeros (group :: groups) = 0 := by
        simp [leadingZeros, hzero]
      rw [hnone]
      rfl

/-- The run of zeros, with the groups in front of it and behind it. -/
theorem longestRun_spec (offset : Nat) (groups : List UInt16) :
    ∃ before, (longestRun offset groups).1 = offset + before ∧
      groups = groups.take before ++ List.replicate (longestRun offset groups).2 0 ++
        groups.drop (before + (longestRun offset groups).2) := by
  induction groups generalizing offset with
  | nil => exact ⟨0, rfl, rfl⟩
  | cons group groups ih =>
    rw [longestRun]
    split
    · exact ⟨0, rfl, by simpa using eq_replicate_append_drop (group :: groups)⟩
    · obtain ⟨before, hstart, heq⟩ := ih (offset + 1)
      refine ⟨before + 1, by omega, ?_⟩
      rw [List.take_succ_cons, Nat.add_right_comm, List.drop_succ_cons, List.cons_append,
        List.cons_append, ← heq]

/-- Groups around a run of zeros are an address if there are eight in all. -/
theorem around_eq_some {a : LongAddress} {front back : List UInt16} {n : Nat}
    (h : a.groups = front ++ List.replicate n 0 ++ back) : around front back = some a := by
  have hlength := congrArg List.length h
  rw [a.length_groups, List.length_append, List.length_append, List.length_replicate] at hlength
  have hzeros : 8 - front.length - back.length = n := by omega
  obtain ⟨groups, hgroups⟩ := a
  obtain rfl : groups = _ := h
  rw [around, hzeros]
  exact dif_pos hgroups

/-! ### Embedded addresses -/

/-- A group is put together from its two octets. -/
theorem groupOf_octetsOf (group : UInt16) :
    groupOf (group >>> 8).toUInt8 group.toUInt8 = group := by
  have hlt : group.toNat < 65536 := group.toNat_lt
  have hhigh : (group.toNat / 256 % 256) <<< 8 % 65536 = (group.toNat / 256) <<< 8 := by
    rw [Nat.shiftLeft_eq, Nat.shiftLeft_eq]
    omega
  rw [groupOf, ← UInt16.toNat_inj]
  simp only [UInt16.toNat_or, UInt16.toNat_shiftLeft, UInt8.toNat_toUInt16, UInt16.toNat_toUInt8,
    UInt16.toNat_shiftRight, UInt16.reduceToNat, Nat.reduceMod, Nat.shiftRight_eq_div_pow,
    Nat.reducePow]
  rw [hhigh, ← Nat.shiftLeft_add_eq_or_of_lt (by omega), Nat.shiftLeft_eq]
  omega

theorem embedded?_eq_some {a : LongAddress} {short : ShortAddress} (h : a.embedded? = some short) :
    ∃ high low, a.groups = [0, 0, 0, 0, 0, 0xffff, high, low] ∧
      short.octets = octetsOf high ++ octetsOf low := by
  rw [embedded?] at h
  split at h
  · next high low heq =>
    obtain rfl := Option.some.inj h
    exact ⟨high, low, heq, rfl⟩
  · cases h

/-- The last two groups are taken from a short address. -/
theorem takeGroups_short {short : ShortAddress} {high low : UInt16}
    (h : short.octets = octetsOf high ++ octetsOf low) (limit : Nat) :
    takeGroups (limit + 2) false (':' :: short.chars) = ([high, low], true, []) := by
  have htake := short.take?_chars
  obtain ⟨octets, hlength⟩ := short
  obtain rfl : octets = _ := h
  rw [takeGroups, show takeColon false (':' :: _) = some _ from rfl]
  simp only [Nat.succ_ne_zero, if_false, htake]
  show ([groupOf _ _, groupOf _ _], true, []) = _
  rw [groupOf_octetsOf, groupOf_octetsOf]

/-! ### Whole addresses -/

/-- An address of groups in front of `::` and groups behind it. -/
theorem take?_around {a : LongAddress} {cs rest' : List Char} {front back : List UInt16}
    {isDotted : Bool}
    (hfront : takeGroups 8 true cs = (front, false, ':' :: ':' :: rest))
    (hback : takeGroups (7 - front.length) true rest = (back, isDotted, rest'))
    (hlength : front.length ≠ 8) (haround : around front back = some a) :
    take? cs = some (a, rest') := by
  rw [take?, hfront]
  simp only [if_neg hlength, hback, haround, Bool.false_eq_true, if_false, Option.map_some]

/-- An address of eight groups. -/
theorem take?_eight {a : LongAddress} {cs : List Char} {isDotted : Bool}
    (h : takeGroups 8 true cs = (a.groups, isDotted, rest)) : take? cs = some (a, rest) := by
  have haround : around a.groups [] = some a := around_eq_some (n := 0) (by simp)
  rw [take?, h]
  simp only [a.length_groups, if_true, haround, Option.map_some]

/-- The forms of a long address. -/
inductive IsWritten (a : LongAddress) : List Char → Prop
  /-- Eight groups. -/
  | full : IsWritten a (groupChars a.groups)
  /-- Groups around `::`, which stands for zeros. -/
  | gapped {front back : List UInt16} {n : Nat} (hn : 1 < n)
      (h : a.groups = front ++ List.replicate n 0 ++ back) :
      IsWritten a (groupChars front ++ ':' :: ':' :: groupChars back)
  /-- A short address behind `::ffff`. -/
  | dotted {short : ShortAddress} {high low : UInt16}
      (h : a.groups = [0, 0, 0, 0, 0, 0xffff, high, low])
      (hoctets : short.octets = octetsOf high ++ octetsOf low) :
      IsWritten a (':' :: ':' :: (hexChars 0xffff ++ ':' :: short.chars))

theorem isWritten_chars (a : LongAddress) : a.IsWritten a.chars := by
  rw [chars]
  cases hembedded : a.embedded? with
  | some short =>
    obtain ⟨high, low, heq, hoctets⟩ := embedded?_eq_some hembedded
    exact .dotted heq hoctets
  | none =>
    obtain ⟨before, hstart, heq⟩ := longestRun_spec 0 a.groups
    rw [Nat.zero_add] at hstart
    dsimp only
    rw [hstart]
    split
    · next hn =>
      rw [List.append_assoc]
      exact .gapped hn heq
    · exact .full

namespace IsWritten

variable {a : LongAddress} {cs : List Char}

/-- Every form of a long address is read as this address. -/
theorem take?_eq (h : a.IsWritten cs) : take? cs = some (a, []) := by
  cases h with
  | full => exact take?_eight (takeGroups_groupChars_end (Nat.le_of_eq a.length_groups))
  | @gapped front back n hn h =>
    have hlength := congrArg List.length h
    simp only [a.length_groups, List.length_append, List.length_replicate] at hlength
    have hfront : takeGroups 8 true (groupChars front ++ ':' :: ':' :: groupChars back) =
        (front, false, ':' :: ':' :: groupChars back) :=
      takeGroups_groupChars front (followsGroup_colon _) (stops_colons _) (by omega)
    have hback : takeGroups (7 - front.length) true (groupChars back) = (back, false, []) :=
      takeGroups_groupChars_end (by omega)
    exact take?_around hfront hback (by omega) (around_eq_some h)
  | @dotted short high low h hoctets =>
    have hback : takeGroups 7 true (hexChars 0xffff ++ ':' :: short.chars) =
        ([0xffff, high, low], true, []) := by
      rw [takeGroups_hexChars (takeColon_true _) (followsGroup_colon _), takeGroups_short hoctets]
    exact take?_around (stops_colons _ 8 true) hback (by decide) (around_eq_some (n := 5) h)

/-- No form of a long address starts with a short address. -/
theorem short_take?_eq_none (h : a.IsWritten cs) : ShortAddress.take? cs = none := by
  have hgroups : ∀ groups : List UInt16, ∀ rest, FollowsGroup rest →
      ShortAddress.take? (groupChars groups ++ rest) = none := by
    intro groups rest hrest
    cases groups with
    | nil => exact hrest.take?_eq_none
    | cons group groups =>
      rw [groupChars_cons, List.append_assoc]
      exact take?_hexChars_append group (followsGroup_furtherChars groups hrest)
  cases h with
  | full =>
    have htake := hgroups a.groups [] followsGroup_nil
    rwa [List.append_nil] at htake
  | gapped => exact hgroups _ _ (followsGroup_colon _)
  | dotted => exact (followsGroup_colon _).take?_eq_none

end IsWritten

end LongAddress

/-! ### Addresses of both kinds -/

theorem ShortAddress.slash_notMem_chars (a : ShortAddress) : '/' ∉ a.chars := by
  refine Text.notMem_intercalate_singleton (by decide) fun piece hpiece ↦ ?_
  obtain ⟨octet, -, rfl⟩ := List.mem_map.1 hpiece
  intro hslash
  cases Text.isDigit_of_mem_toDigits hslash

theorem LongAddress.slash_notMem_groupChars (groups : List UInt16) : '/' ∉ groupChars groups := by
  refine Text.notMem_intercalate_singleton (by decide) fun piece hpiece ↦ ?_
  obtain ⟨group, -, rfl⟩ := List.mem_map.1 hpiece
  intro hslash
  cases isSome_hexValue?_of_mem_hexChars hslash

theorem LongAddress.IsWritten.slash_notMem {a : LongAddress} {cs : List Char}
    (h : a.IsWritten cs) : '/' ∉ cs := by
  have hdigits : '/' ∉ hexChars 0xffff := by decide
  cases h with
  | full => exact slash_notMem_groupChars _
  | gapped => simp [slash_notMem_groupChars]
  | dotted => simp [hdigits, ShortAddress.slash_notMem_chars]

namespace InternetAddress

/-- What is written as an address is read back as this address. -/
theorem ofChars?_chars (a : InternetAddress) : ofChars? a.chars = some a := by
  cases a with
  | short a => rw [ofChars?, take?, chars, a.take?_chars]
  | long a =>
    have hwritten := a.isWritten_chars
    rw [ofChars?, take?, chars, hwritten.short_take?_eq_none, hwritten.take?_eq, Option.map_some]

theorem slash_notMem_chars (a : InternetAddress) : '/' ∉ a.chars := by
  cases a with
  | short a => exact a.slash_notMem_chars
  | long a => exact a.isWritten_chars.slash_notMem

end InternetAddress

end MachineArgs
