import MachineArgs.Address.Network
import MachineArgs.Proofs.Address.Internet

/-!
# Reading networks

A network whose length fits its address is read back from its written form, and a network that was
read is one of these. So reading and writing again gives a normal form
(`Network.parse_text_and_normal`): `10.0.0.0/+08` and `10.0.0.0/8` are the same network, and it is
written in the second way.

An address is written without a slash, so the first slash of the text is the one in front of the
length.
-/

namespace MachineArgs.Network

theorem ne_slash_of_mem_chars (n : Network) : ∀ c ∈ n.address.chars, (c != '/') = true := by
  intro c hc
  have hslash : c ≠ '/' := fun heq ↦ n.address.slash_notMem_chars (heq ▸ hc)
  simpa using hslash

theorem eq_slash_of_mem_head? (cs : List Char) :
    ∀ c ∈ ('/' :: cs).head?, (c != '/') = false := by
  intro c hc
  obtain rfl : '/' = c := Option.some.inj hc
  rfl

theorem takeWhile_chars (n : Network) : n.chars.takeWhile (· != '/') = n.address.chars :=
  Text.takeWhile_append_of_head? n.ne_slash_of_mem_chars (eq_slash_of_mem_head? _)

theorem dropWhile_chars (n : Network) :
    n.chars.dropWhile (· != '/') = '/' :: Nat.toDigits 10 n.bits :=
  Text.dropWhile_append_of_head? n.ne_slash_of_mem_chars (eq_slash_of_mem_head? _)

/-- A network whose length fits its address is read back. -/
theorem ofChars?_chars {n : Network} (h : n.bits ≤ n.address.width) :
    ofChars? n.chars = some n := by
  have hbits : Text.readBounded n.address.width (Nat.toDigits 10 n.bits) = some n.bits :=
    Text.readBounded_eq_some_iff.2 ⟨Text.readNatural_toDigits n.bits, h⟩
  rw [ofChars?, dropWhile_chars]
  dsimp only
  rw [takeWhile_chars, InternetAddress.ofChars?_chars]
  show (Text.readBounded n.address.width _).bind _ = _
  rw [hbits]
  rfl

/-- A network that was read has a length that fits its address. -/
theorem bits_le_of_ofChars? {cs : List Char} {n : Network} (h : ofChars? cs = some n) :
    n.bits ≤ n.address.width := by
  rw [ofChars?] at h
  split at h
  · obtain ⟨address, -, h⟩ := Option.bind_eq_some_iff.1 h
    obtain ⟨bits, hbits, h⟩ := Option.bind_eq_some_iff.1 h
    obtain rfl := Option.some.inj h
    exact (Text.readBounded_eq_some_iff.1 hbits).2
  · cases h

theorem parse_eq_ok_iff {s : String} {n : Network} :
    parse s = .ok n ↔ ofChars? s.toList = some n := by
  rw [parse, read?]
  cases ofChars? s.toList with
  | none => simp
  | some m => simp

/-- A network is read back from its written form exactly if its length fits its address, and every
network that is read from a text is of this kind. So writing what was read is a normal form. -/
theorem parse_text_and_normal :
    (∀ n : Network, parse n.text = .ok n ↔ n.bits ≤ n.address.width) ∧
      ∀ (s : String) (n : Network), parse s = .ok n →
        n.bits ≤ n.address.width ∧ parse n.text = .ok n := by
  have hread : ∀ (s : String) (n : Network), parse s = .ok n → n.bits ≤ n.address.width :=
    fun _ _ h ↦ bits_le_of_ofChars? (parse_eq_ok_iff.1 h)
  have hback : ∀ n : Network, n.bits ≤ n.address.width → parse n.text = .ok n := by
    intro n h
    rw [parse_eq_ok_iff, text, String.toList_ofList]
    exact ofChars?_chars h
  exact ⟨fun n ↦ ⟨hread n.text n, hback n⟩, fun s n h ↦ ⟨hread s n h, hback n (hread s n h)⟩⟩

/-- A network of 64 leading bits with two runs of zeros in its address. -/
def twoRuns : Network where
  address := .long { groups := [0x2001, 0xdb8, 0, 0, 1, 0, 0, 0] }
  bits := 64

theorem twoRuns_parse_text :
    parse "2001:DB8:0:0:1::/+064" = .ok twoRuns ∧
      twoRuns.text = "2001:db8:0:0:1::/64" ∧ twoRuns.bits ≤ 128 ∧
      parse "2001:db8:0:0:1::/64" = .ok twoRuns := by
  have hread : parse "2001:DB8:0:0:1::/+064" = .ok twoRuns := by rfl
  have htext : twoRuns.text = "2001:db8:0:0:1::/64" := by rfl
  have h := parse_text_and_normal.2 _ _ hread
  rw [htext] at h
  exact ⟨hread, htext, h⟩

end MachineArgs.Network
