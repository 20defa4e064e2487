import MachineArgs.Proofs.Address.Hardware
import MachineArgs.Proofs.Device.Slots

/-!
# Hardware addresses of network cards

A network card tells the emulator one hardware address, its own or the one that belongs to its
number (`NetworkCard.hardwareAddresses_eq`). As addresses are read back from their texts, and
different numbers have different addresses, cards without an address of their own share one only if
they share their number (`hardwareAddresses_told_apart`).
-/

namespace MachineArgs

/-- The hardware address that a slot tells. -/
def Slot.hardwareAddress? : Slot → Option String
  | keyed key value => if key = "mac" then some value else none
  | _ => none

/-- The hardware addresses that a device tells the emulator. -/
def Device.hardwareAddresses (d : Device) : List String :=
  d.slots.filterMap fun s ↦ s.2.hardwareAddress?

namespace HardwareAddress

theorem parse_text (a : HardwareAddress) : parse a.text = .ok a := by
  rw [parse, read?_text]

theorem text_ne_empty (a : HardwareAddress) : a.text ≠ "" := by
  intro h
  have hread := a.read?_text
  rw [h] at hread
  cases hread

end HardwareAddress

namespace NetworkCard

/-- The cells of a card: its model, its place in the boot order if it has one, its address, and its
backend. -/
theorem cells_eq (c : NetworkCard) : c.cells =
    (Field.unnamed "model").cell (toValue c.model) ::
      (c.boot.index.toList.map (fun n ↦ ⟨some "bootindex", some (toString n)⟩) ++
        [⟨some "mac", some c.effectiveAddress.text⟩,
          (Field.named "peer" "netdev").cell (toValue c.peer)]) := by
  have hboot : (toValue c.boot : Value).cellsIn (.embedded "bootable") =
      c.boot.index.toList.map fun n ↦ ⟨some "bootindex", some (toString n)⟩ := by
    obtain ⟨_ | n⟩ := c.boot <;> rfl
  have haddress : (Field.plain "mac").cell (toValue c.effectiveAddress) =
      ⟨some "mac", some c.effectiveAddress.text⟩ :=
    Field.cell_string rfl c.effectiveAddress.text_ne_empty
  rw [cells]
  simp only [schema, Schema.fields, List.filterMap, Entry.field?]
  rw [cellsOf_cons (PlainValue.isPlain _ _), cellsOf, hboot]
  simp only [cellsOf_cons, PlainValue.isPlain, haddress]
  rfl

theorem nodup_keys (c : NetworkCard) : (c.cells.filterMap Cell.key?).Nodup := by
  rw [cells_eq]
  cases c.boot.index with
  | none =>
    show List.Nodup ["mac", "netdev"]
    decide
  | some n =>
    show List.Nodup ["bootindex", "mac", "netdev"]
    decide

/-- A card tells the address that it has in the guest, and no other. -/
theorem hardwareAddresses_eq (c : NetworkCard) :
    (Device.networkCard c).hardwareAddresses = [c.effectiveAddress.text] := by
  rw [Device.hardwareAddresses, Device.slots_of_value? rfl (tables_eq c),
    Device.slots_ofCells c.nodup_keys, cells_eq]
  show (List.map _ (List.filterMap Cell.slot? (⟨none, ((Field.unnamed "model").cell _).text?⟩ ::
    (_ ++ [_, ⟨some "netdev", ((Field.named "peer" "netdev").cell _).text?⟩])))).filterMap _ = _
  generalize ((Field.unnamed "model").cell _).text? = model?
  generalize ((Field.named "peer" "netdev").cell _).text? = peer?
  cases model? <;> cases peer? <;> cases c.boot.index <;> rfl

/-- An address is read back from its text, and different numbers have addresses with different
texts. So cards without an address of their own tell the emulator the same one only if they have the
same number. -/
theorem hardwareAddresses_told_apart :
    (∀ a : HardwareAddress, HardwareAddress.parse a.text = .ok a) ∧
      (∀ i j : UInt32, i ≠ j →
        (HardwareAddress.forIndex i).text ≠ (HardwareAddress.forIndex j).text) ∧
      (∀ c : NetworkCard,
        (Device.networkCard c).hardwareAddresses = [c.effectiveAddress.text]) ∧
      ∀ c d : NetworkCard, c.address = none → d.address = none → c.index ≠ d.index →
        (Device.networkCard c).hardwareAddresses ≠ (Device.networkCard d).hardwareAddresses := by
  have hnumbers : ∀ i j : UInt32, i ≠ j →
      (HardwareAddress.forIndex i).text ≠ (HardwareAddress.forIndex j).text :=
    fun i j hne htext ↦
      hne (HardwareAddress.forIndex_injective (HardwareAddress.text_injective htext))
  refine ⟨HardwareAddress.parse_text, hnumbers, hardwareAddresses_eq, fun c d hc hd hne htold ↦ ?_⟩
  rw [hardwareAddresses_eq, hardwareAddresses_eq, List.singleton_inj, effectiveAddress,
    effectiveAddress, hc, hd] at htold
  exact hnumbers c.index d.index hne htold

/-- The card with the greatest number, whose sum with one wraps around to zero. -/
def lastCard : NetworkCard :=
  { model := "e1000", index := 0xffffffff }

/-- The card with the least number. -/
def firstCard : NetworkCard :=
  { model := "e1000" }

theorem lastCard_told_apart :
    lastCard.address = none ∧ firstCard.address = none ∧ lastCard.index ≠ firstCard.index ∧
      (Device.networkCard lastCard).hardwareAddresses = ["0e:00:00:00:00:00"] ∧
      (Device.networkCard firstCard).hardwareAddresses = ["0e:00:00:00:00:01"] ∧
      (Device.networkCard lastCard).hardwareAddresses ≠
        (Device.networkCard firstCard).hardwareAddresses := by
  have hindex : lastCard.index ≠ firstCard.index := by decide
  obtain ⟨-, -, htold, hapart⟩ := hardwareAddresses_told_apart
  exact ⟨rfl, rfl, hindex, htold lastCard, htold firstCard, hapart _ _ rfl rfl hindex⟩

end NetworkCard

end MachineArgs
