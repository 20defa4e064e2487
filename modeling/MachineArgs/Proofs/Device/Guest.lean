import MachineArgs.Proofs.Device.Identity
import MachineArgs.Proofs.DeviceTree.Leaves

/-!
# Numbers of guest ends

A socket pair and a TPM hand the guest end of a pair of sockets to the emulator, as a character
device that is told the number of the inherited descriptor. Such a device has arguments as soon as
the guest end has a number, and its character device is told this number and no other, unless the
number is zero (`Device.tellsNumber_of_index`): a zero is not written, and then the character device
has no number at all (`DeviceTree.pairAtZero_untold`).

It is no matter where the number comes from. `DeviceTree.guests_tellNumber` says so for both ways to
number the devices of a tree, at any place and with any offset. Numbers are machine words, so with
an offset near the greatest of them they start again at zero.
-/

namespace MachineArgs

/-- The text of a number in a field, which is left out if the number is zero. -/
def numberTexts (n : Nat) : List String :=
  if n = 0 then [] else [toString n]

/-- A backend over an inherited socket has its number under `fd`, unless that is zero. -/
theorem FdSocket.textsAt_fd (c : FdSocket) :
    textsAt "fd" (toValue c : Value).cells = numberTexts c.fd := by
  have hbase : textsAt "fd" (cellsOf ChardevBase.schema.fields
      [toValue "socket", toValue c.name, toValue c.mux]) = [] :=
    textsAt_cellsOf_eq_nil (by simp [PlainValue.isPlain]) (by decide)
  have hsocket : textsAt "fd" ((toValue c.socket : Value).cellsIn (.embedded "socket")) = [] :=
    textsAt_cellsIn _ (textsAt_cellsOf_eq_nil (by simp [PlainValue.isPlain]) (by decide))
  have hfd : textsAt "fd" [(Field.plain "fd").cell (toValue c.fd)] = numberTexts c.fd := by
    cases c.fd <;> rfl
  have hcells : (toValue c : Value).cells = cellsOf ChardevBase.schema.fields
      [toValue "socket", toValue c.name, toValue c.mux] ++
        cellsOf [.embedded "socket", .plain "fd"] [toValue c.socket, toValue c.fd] :=
    cells_embedded rfl
  rw [hcells, textsAt_append, hbase, textsAt_cellsOf_cons hsocket,
    cellsOf_cons (PlainValue.isPlain _ _), List.nil_append]
  exact hfd

/-- A numbered pair sets the number of its guest end, unless that is zero. -/
theorem SocketPair.exists_sets {p : SocketPair} {n : Nat} (h : p.guest.index = some n) :
    ∃ v t, p.value = .ok v ∧ v.tables none = .ok t ∧ t.values "chardev" "fd" = numberTexts n := by
  have hvalue : p.value = .ok (toValue ({ name := p.name, fd := n } : FdSocket)) := by
    rw [value, Handle.requireIndex, h]
    rfl
  have hleads := FdSocket.leads { name := p.name, fd := n }
  refine ⟨_, _, hvalue, hleads.tables_eq, ?_⟩
  rw [(Value.Sets.of_leads hleads (FdSocket.textsAt_fd _)).values_eq hleads.tables_eq, numberTexts]
  split <;> rfl

namespace Device

/-- The guest end of the socket pair that a device hands to the emulator, if it does so. -/
def guest? : Device → Option Handle
  | socketPair p => some p.guest
  | tpm t => some t.conduit.guest
  | _ => none

/-- A device has arguments, written from its tables, and the character device among them is told
the number `n` and no other; it is told none if `n` is zero. -/
def TellsNumber (d : Device) (n : Nat) : Prop :=
  ∃ ts, d.tables = .ok ts ∧ d.args = .ok (ts.flatMap NamedTables.args) ∧
    ts.flatMap (fun t ↦ t.values "chardev" "fd") = numberTexts n

variable {d : Device} {guest : Handle} {n : Nat}

/-- A device whose guest end has a number tells it to its character device. -/
theorem tellsNumber_of_index (hguest : d.guest? = some guest) (hn : guest.index = some n) :
    d.TellsNumber n := by
  have hfixed : d.isFixed = false := by cases d <;> first | rfl | cases hguest
  have hargs : ∀ ts, d.tables = .ok ts → d.args = .ok (ts.flatMap NamedTables.args) := by
    intro ts hts
    rw [args_eq_tables_map hfixed, hts]
    rfl
  cases d with
  | socketPair p =>
    obtain rfl := Option.some.inj hguest
    obtain ⟨v, t, hv, ht, hvalues⟩ := SocketPair.exists_sets hn
    have htables : (socketPair p).tables = .ok [t] := by
      show (p.value >>= fun v ↦ (v.tables none).map fun t ↦ [t]) = _
      rw [hv, ok_bind, ht]
      rfl
    exact ⟨[t], htables, hargs _ htables, by rw [List.flatMap_singleton, hvalues]⟩
  | tpm t =>
    obtain rfl := Option.some.inj hguest
    obtain ⟨v, conduit, hv, hconduit, hvalues⟩ := SocketPair.exists_sets hn
    -- the table of the backend belongs to another group
    obtain ⟨backend, hbackend, hnone⟩ : ∃ backend, (toValue t.backend : Value).tables none =
        .ok backend ∧ backend.values "chardev" "fd" = [] := ⟨_, t.backend.leads.tables_eq, rfl⟩
    have htables : (tpm t).tables = .ok [conduit, backend] := by
      show (t.conduit.value >>= _) = _
      rw [hv, ok_bind, hconduit, ok_bind, hbackend]
      rfl
    refine ⟨_, htables, hargs _ htables, ?_⟩
    rw [List.flatMap_cons, List.flatMap_singleton, hvalues, hnone, List.append_nil]
  | _ => cases hguest

/-- A change of all handles changes the guest end, the first handle of its device. -/
theorem guest?_mapHandles (f : Nat → Handle → Handle) (hguest : d.guest? = some guest) :
    (d.mapHandles f).guest? = some (f 0 guest) := by
  cases d with
  | socketPair p => exact congrArg (Option.map (f 0)) hguest
  | tpm t => exact congrArg (Option.map (f 0)) hguest
  | _ => cases hguest

end Device

namespace DeviceTree

/-- The guest end of a device in a tree tells the number that it was given, by numbering the handles
of the tree from any offset on or by giving any number to it alone, whatever stands around the
device and whatever numbers there were before. -/
theorem guests_tellNumber (t : DeviceTree) {before after : List Device} {d : Device}
    {guest : Handle} (hleaves : t.leaves = before ++ d :: after)
    (hguest : d.guest? = some guest) :
    let position := (before.flatMap Device.handles).length
    (∀ offset, ∃ d', (t.allocate offset).leaves[before.length]? = some d' ∧
      d'.TellsNumber (Handle.word (offset + position))) ∧
    ∀ n, ∃ d', (t.setIndex position n).leaves[before.length]? = some d' ∧
      d'.TellsNumber (Handle.word n) := by
  intro position
  refine ⟨fun offset ↦ ⟨_, leaf_of_leaves_mapHandles _ hleaves, ?_⟩,
    fun n ↦ ⟨_, leaf_of_leaves_mapHandles _ hleaves, ?_⟩⟩
  · exact Device.tellsNumber_of_index (Device.guest?_mapHandles _ hguest) rfl
  · refine Device.tellsNumber_of_index (Device.guest?_mapHandles _ hguest) ?_
    show (if position + 0 = position then _ else guest).index = _
    rw [Nat.add_zero, if_pos rfl]
    rfl

/-- A pair in a nested group, an absent entry, and a TPM whose channel is the second to be
numbered. -/
def pairAndTpm : DeviceTree :=
  .group [some (.group [some (.leaf (.socketPair (.create "serial0")))]), none,
    some (.leaf (.tpm (.create "tpm0")))]

theorem pairAndTpm_tellNumber :
    pairAndTpm.leaves = [.socketPair (.create "serial0")] ++ .tpm (.create "tpm0") :: [] ∧
      (Device.tpm (.create "tpm0")).guest? = some (.guestEnd "tpm0-ctrl") ∧
      (∃ d, (pairAndTpm.allocate 9).leaves[1]? = some d ∧ d.TellsNumber 10) ∧
      ∃ d, (pairAndTpm.setIndex 1 5).leaves[1]? = some d ∧ d.TellsNumber 5 := by
  have hleaves : pairAndTpm.leaves =
      [.socketPair (.create "serial0")] ++ .tpm (.create "tpm0") :: [] := rfl
  have hguest : (Device.tpm (.create "tpm0")).guest? = some (.guestEnd "tpm0-ctrl") := rfl
  have h := pairAndTpm.guests_tellNumber hleaves hguest
  exact ⟨hleaves, hguest, h.1 9, h.2 5⟩

/-- The number zero is lost: a pair that is numbered from zero on has no number in its arguments. -/
theorem pairAtZero_untold :
    let t := (leaf (Device.socketPair (.create "serial0"))).allocate 0
    t.handles.map Handle.index = [some 0] ∧ t.args = .ok ["-chardev", "socket,id=serial0"] ∧
      ∀ d ∈ t.leaves, ∀ ws, ¬d.Shows ws "chardev" (.keyed "fd" "0") := by
  intro t
  refine ⟨rfl, by rfl, fun d hd ws ↦ ?_⟩
  obtain rfl := List.mem_singleton.1 hd
  let shown : OptionTable :=
    { slots := [.bare "socket", .keyed "id" "serial0"], owners := [("id", 1)], start := some 0 }
  have htables : Device.tables (.socketPair ⟨"serial0", (Handle.guestEnd "serial0").withIndex 0⟩) =
      .ok [⟨[("chardev", shown)], some "chardev"⟩] := by rfl
  rintro ⟨ts, hts, -, tables, hmem, table, htable, hslot⟩
  obtain rfl := Except.ok.inj (htables.symm.trans hts)
  obtain rfl := List.mem_singleton.1 hmem
  obtain rfl : shown = table := Option.some.inj htable
  revert hslot
  decide

end DeviceTree

end MachineArgs
