import Mathlib.Data.List.Lex

/-!
# Texts in the order of their bytes

Texts are compared character by character. `Text.bytes_lt_bytes` says that comparing their UTF-8
bytes comes to the same. The leading byte of a character grows with the number of its bytes, and
among characters with as many bytes the digits to the base 64 are compared from the highest on; so
the first byte in which two characters differ decides (`Text.utf8EncodeChar_lt`), and what follows
does not matter.
-/

namespace MachineArgs.Text

/-- The UTF-8 bytes of a text. -/
def bytes (s : String) : List UInt8 :=
  s.toUTF8.data.toList

theorem bytes_eq_flatMap (s : String) : bytes s = s.toList.flatMap String.utf8EncodeChar := by
  conv => lhs; rw [← String.ofList_toList (s := s)]
  rw [bytes, String.toUTF8_eq_toByteArray, String.toByteArray_ofList, List.utf8Encode]
  simp

/-- The first byte that differs decides. -/
theorem cons_lt_cons {m n : Nat} (hm : m < 256) (hn : n < 256) {bs bs' : List UInt8}
    (h : m < n ∨ m = n ∧ bs < bs') : UInt8.ofNat m :: bs < UInt8.ofNat n :: bs' := by
  rcases h with hlt | ⟨rfl, hlt⟩
  · refine List.Lex.rel (UInt8.lt_iff_toNat_lt.2 ?_)
    rw [UInt8.toNat_ofNat', UInt8.toNat_ofNat']
    omega
  · exact List.Lex.cons hlt

/-- The first byte of the character with a given number. -/
def leadingByte (v : Nat) : Nat :=
  if v ≤ 127 then v
  else if v ≤ 2047 then v / 64 % 32 + 192
  else if v ≤ 65535 then v / 4096 % 16 + 224
  else v / 262144 % 8 + 240

/-- Six binary digits of a number, as a byte that does not start a character. -/
def furtherByte (v : Nat) : UInt8 :=
  UInt8.ofNat (v % 64 + 128)

/-- The bytes of the character with a given number behind the first one. -/
def furtherBytes (v : Nat) : List UInt8 :=
  if v ≤ 127 then []
  else if v ≤ 2047 then [furtherByte v]
  else if v ≤ 65535 then [furtherByte (v / 64), furtherByte v]
  else [furtherByte (v / 4096), furtherByte (v / 64), furtherByte v]

theorem utf8EncodeChar_eq (c : Char) : String.utf8EncodeChar c =
    UInt8.ofNat (leadingByte c.val.toNat) :: furtherBytes c.val.toNat := by
  rw [String.utf8EncodeChar, leadingByte, furtherBytes]
  dsimp only [furtherByte]
  split_ifs <;> rfl

theorem leadingByte_lt (v : Nat) : leadingByte v < 256 := by
  rw [leadingByte]
  split_ifs <;> omega

theorem leadingByte_le {v w : Nat} (hlt : v < w) (hw : w < 0x110000) :
    leadingByte v ≤ leadingByte w := by
  rw [leadingByte, leadingByte]
  split_ifs <;> omega

theorem furtherByte_lt_cons {v w : Nat} {bs bs' : List UInt8}
    (h : v % 64 < w % 64 ∨ v % 64 = w % 64 ∧ bs < bs') :
    furtherByte v :: bs < furtherByte w :: bs' :=
  cons_lt_cons (by omega) (by omega)
    (h.imp (Nat.add_lt_add_right · 128) (.imp_left (congrArg (· + 128))))

/-- Characters with one leading byte have as many bytes, and the further ones are their last digits
to the base 64. -/
theorem furtherBytes_lt {v w : Nat} (hlt : v < w) (hw : w < 0x110000)
    (hlead : leadingByte v = leadingByte w) (bs bs' : List UInt8) :
    furtherBytes v ++ bs < furtherBytes w ++ bs' := by
  rw [leadingByte, leadingByte] at hlead
  rw [furtherBytes, furtherBytes]
  by_cases hv1 : v ≤ 127
  · exfalso
    split_ifs at hlead <;> omega
  by_cases hv2 : v ≤ 2047
  · have hw2 : w ≤ 2047 := by
      split_ifs at hlead <;> omega
    rw [if_neg hv1, if_pos hv2, if_neg (by omega), if_pos hw2] at hlead ⊢
    exact furtherByte_lt_cons (.inl (by omega))
  by_cases hv3 : v ≤ 65535
  · have hw3 : w ≤ 65535 := by
      split_ifs at hlead <;> omega
    rw [if_neg hv1, if_neg hv2, if_pos hv3, if_neg (by omega), if_neg (by omega),
      if_pos hw3] at hlead ⊢
    refine furtherByte_lt_cons ?_
    rcases Nat.lt_or_ge (v / 64) (w / 64) with h | h
    · exact .inl (by omega)
    · exact .inr ⟨by omega, furtherByte_lt_cons (.inl (by omega))⟩
  · rw [if_neg hv1, if_neg hv2, if_neg hv3, if_neg (by omega), if_neg (by omega),
      if_neg (by omega)] at hlead ⊢
    refine furtherByte_lt_cons ?_
    rcases Nat.lt_or_ge (v / 4096) (w / 4096) with h | h
    · exact .inl (by omega)
    refine .inr ⟨by omega, furtherByte_lt_cons ?_⟩
    rcases Nat.lt_or_ge (v / 64) (w / 64) with h' | h'
    · exact .inl (by omega)
    · exact .inr ⟨by omega, furtherByte_lt_cons (.inl (by omega))⟩

/-- Of two characters the smaller one has the smaller bytes, whatever follows. -/
theorem utf8EncodeChar_lt {c d : Char} (h : c < d) (bs bs' : List UInt8) :
    String.utf8EncodeChar c ++ bs < String.utf8EncodeChar d ++ bs' := by
  have hlt : c.val.toNat < d.val.toNat := h
  have hvalid : d.val.toNat < 0x110000 := by
    rcases d.valid with hd | ⟨-, hd⟩ <;> omega
  rw [utf8EncodeChar_eq, utf8EncodeChar_eq]
  refine cons_lt_cons (leadingByte_lt _) (leadingByte_lt _) ?_
  rcases Nat.lt_or_eq_of_le (leadingByte_le hlt hvalid) with hlead | hlead
  · exact .inl hlead
  · exact .inr ⟨hlead, furtherBytes_lt hlt hvalid hlead bs bs'⟩

/-- The order of texts is the order of their bytes. -/
theorem bytes_lt_bytes {s t : String} (h : s < t) : bytes s < bytes t := by
  rw [bytes_eq_flatMap, bytes_eq_flatMap]
  have hchars : s.toList < t.toList := h
  generalize s.toList = cs at hchars
  generalize t.toList = ds at hchars
  induction hchars with
  | @nil c ds =>
    rw [List.flatMap_cons, utf8EncodeChar_eq]
    exact List.Lex.nil
  | @cons c cs ds _ ih =>
    rw [List.flatMap_cons, List.flatMap_cons]
    exact List.Lex.append_left _ ih _
  | rel hlt =>
    rw [List.flatMap_cons, List.flatMap_cons]
    exact utf8EncodeChar_lt hlt _ _

end MachineArgs.Text
