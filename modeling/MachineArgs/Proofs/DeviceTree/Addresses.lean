import Mathlib.Data.List.Lex
import MachineArgs.Proofs.Device.Causes
import MachineArgs.DeviceTree

/-!
# Addresses in device trees

A device in a tree is found by the positions of the entries that lead to it, outermost first and
with absent entries counted. Such an address is a list of numbers, and devices are declared in the
order of their addresses, compared position by position (`<` on lists).

The error of a tree is told by addresses (`args_ok_or_failsFirstAt`): it is that of the device with
the least address among those that fail, with this address around it and nothing else. One level of
a group is dealt with on its own (`entriesArgs_outcome`), for any position of its first entry; the
tree follows by induction, since an error gets one more position exactly where an address does.

All of this holds for leaves of any type (`args_eq_placedAt`). Where the positions in an error end
and the error of the leaf begins can be seen from outside if leaves fail with causes only
(`failsFirstAt_of_hasCauses`), as devices do.
-/

namespace MachineArgs

namespace Error

/-- An error with the positions of an address around it. -/
def placedAt (cause : Error) : List Nat → Error
  | [] => cause
  | position :: address => child position (cause.placedAt address)

/-- The wording of one position. -/
def positionText (position : Nat) : String :=
  "device #" ++ toString position ++ ": "

theorem rootCause_placedAt (cause : Error) (address : List Nat) :
    (cause.placedAt address).rootCause = cause.rootCause := by
  induction address with
  | nil => rfl
  | cons position address ih => exact ih

theorem devicePath_placedAt (cause : Error) (address : List Nat) :
    (cause.placedAt address).devicePath = address ++ cause.devicePath := by
  induction address with
  | nil => rfl
  | cons position address ih =>
    show position :: (cause.placedAt address).devicePath = _
    rw [ih, List.cons_append]

/-- The wording of each position comes before the wording of what it stands around. -/
theorem message_placedAt (cause : Error) (address : List Nat) :
    (cause.placedAt address).message =
      String.join (address.map positionText) ++ cause.message := by
  induction address with
  | nil => rw [placedAt, List.map_nil, String.join_nil, String.empty_append]
  | cons position address ih =>
    show positionText position ++ (cause.placedAt address).message = _
    rw [ih, List.map_cons, String.join_cons, String.append_assoc]

end Error

/-- A property of trees holds of all if it holds of devices and passes from the present entries of a
group to the group. -/
@[elab_as_elim]
theorem DeviceTree.induction {δ : Type} {P : DeviceTree δ → Prop} (t : DeviceTree δ)
    (leaf : ∀ d, P (.leaf d))
    (group : ∀ entries, (∀ t, some t ∈ entries → P t) → P (.group entries)) : P t := by
  refine @DeviceTree.rec δ P (fun entries ↦ ∀ t, some t ∈ entries → P t)
    (fun entry ↦ ∀ t, entry = some t → P t) leaf group ?_ ?_ ?_ ?_ t
  · simp
  · intro entry entries hentry hentries t ht
    rcases List.mem_cons.1 ht with ht | ht
    · exact hentry t ht.symm
    · exact hentries t ht
  · exact nofun
  · intro t ht t' ht'
    exact Option.some.inj ht' ▸ ht

namespace DeviceTree

variable {δ : Type}

/-! ### Addresses -/

/-- The entry of a group at a position, unless it is absent. -/
def child? : DeviceTree δ → Nat → Option (DeviceTree δ)
  | leaf _, _ => none
  | group entries, position => entries[position]?.join

/-- The part of a tree that an address leads to. -/
def descend (t : DeviceTree δ) : List Nat → Option (DeviceTree δ)
  | [] => some t
  | position :: address => (t.child? position).bind fun entry ↦ entry.descend address

theorem child?_group_eq_some {entries : List (Option (DeviceTree δ))} {position : Nat}
    {t : DeviceTree δ} :
    (group entries).child? position = some t ↔ entries[position]? = some (some t) :=
  Option.join_eq_some_iff

theorem descend_cons_eq_some {t t' : DeviceTree δ} {position : Nat} {address : List Nat} :
    t.descend (position :: address) = some t' ↔
      ∃ entry, t.child? position = some entry ∧ entry.descend address = some t' :=
  Option.bind_eq_some_iff

/-- In a group no device has the empty address. -/
theorem descend_group_eq_leaf {entries : List (Option (DeviceTree δ))} {address : List Nat}
    {d : δ} (h : (group entries).descend address = some (leaf d)) :
    ∃ position address' t, address = position :: address' ∧
      entries[position]? = some (some t) ∧ t.descend address' = some (leaf d) := by
  cases address with
  | nil => cases h
  | cons position address =>
    obtain ⟨t, ht, h⟩ := descend_cons_eq_some.1 h
    exact ⟨position, address, t, rfl, child?_group_eq_some.1 ht, h⟩

theorem mem_entriesLeaves {entries : List (Option (DeviceTree δ))} {d : δ} :
    d ∈ entriesLeaves entries ↔ ∃ t, some t ∈ entries ∧ d ∈ t.leaves := by
  induction entries with
  | nil => simp [entriesLeaves]
  | cons entry entries ih =>
    cases entry with
    | none => simp [entriesLeaves, ih]
    | some t => simp [entriesLeaves, ih]

/-- The devices of a tree are those that its addresses lead to. -/
theorem mem_leaves_iff {t : DeviceTree δ} {d : δ} :
    d ∈ t.leaves ↔ ∃ address, t.descend address = some (leaf d) := by
  induction t using DeviceTree.induction with
  | leaf d' =>
    rw [leaves, List.mem_singleton]
    constructor
    · rintro rfl
      exact ⟨[], rfl⟩
    · rintro ⟨address, h⟩
      cases address with
      | nil => cases h; rfl
      | cons position address => cases h
  | group entries ih =>
    rw [leaves, mem_entriesLeaves]
    constructor
    · rintro ⟨t, ht, hd⟩
      obtain ⟨position, hposition⟩ := List.mem_iff_getElem?.1 ht
      obtain ⟨address, h⟩ := (ih t ht).1 hd
      exact ⟨position :: address,
        descend_cons_eq_some.2 ⟨t, child?_group_eq_some.2 hposition, h⟩⟩
    · rintro ⟨address, h⟩
      obtain ⟨position, address, t, rfl, hposition, h⟩ := descend_group_eq_leaf h
      have ht := List.mem_of_getElem? hposition
      exact ⟨t, ht, (ih t ht).2 ⟨address, h⟩⟩

/-! ### The first failure -/

variable [Leaf δ]

/-- At an address of a tree there is a device that fails with `cause`, and every device with a
lesser address has arguments. -/
structure FailsFirstAt (t : DeviceTree δ) (address : List Nat) (cause : Error) : Prop where
  /-- The device at the address fails. -/
  fails : ∃ d, t.descend address = some (leaf d) ∧ Leaf.args d = .error cause
  /-- No device before it does. -/
  before : ∀ address' < address, ∀ d, t.descend address' = some (leaf d) →
    ∃ ws, Leaf.args d = .ok ws

/-- A failure in an entry is one of the group if the entries before it have arguments. -/
theorem FailsFirstAt.group {entries : List (Option (DeviceTree δ))} {position : Nat}
    {t : DeviceTree δ} {address : List Nat} {cause : Error} (h : t.FailsFirstAt address cause)
    (hposition : entries[position]? = some (some t))
    (hbefore : ∀ position' < position, ∀ t', entries[position']? = some (some t') →
      ∀ d ∈ t'.leaves, ∃ ws, Leaf.args d = .ok ws) :
    (group entries).FailsFirstAt (position :: address) cause := by
  obtain ⟨⟨d, hd, hcause⟩, hfirst⟩ := h
  refine ⟨⟨d, descend_cons_eq_some.2 ⟨t, child?_group_eq_some.2 hposition, hd⟩, hcause⟩, ?_⟩
  intro address' hlt d' hd'
  obtain ⟨position', address', t', rfl, hposition', hd'⟩ := descend_group_eq_leaf hd'
  rcases List.cons_lt_cons_iff.1 hlt with hposition_lt | ⟨rfl, haddress_lt⟩
  · exact hbefore position' hposition_lt t' hposition' d' (mem_leaves_iff.2 ⟨address', hd'⟩)
  · obtain rfl : t = t' := by simpa [hposition] using hposition'
    exact hfirst address' haddress_lt d' hd'

/-- Of some entries, all that are present have arguments, or the first that has none is reported
below its position. -/
theorem entriesArgs_outcome (position : Nat) (entries : List (Option (DeviceTree δ))) :
    (∃ ws, entriesArgs position entries = .ok ws ∧
      ∀ t, some t ∈ entries → ∃ ws, t.args = .ok ws) ∨
    ∃ i t e, entries[i]? = some (some t) ∧ t.args = .error e ∧
      (∀ j < i, ∀ t', entries[j]? = some (some t') → ∃ ws, t'.args = .ok ws) ∧
      entriesArgs position entries = .error (.child (position + i) e) := by
  induction entries generalizing position with
  | nil => exact .inl ⟨[], rfl, by simp⟩
  | cons entry entries ih =>
    cases entry with
    | none =>
      rw [entriesArgs]
      rcases ih (position + 1) with ⟨ws, hws, hall⟩ | ⟨i, t, e, hi, he, hbefore, herror⟩
      · exact .inl ⟨ws, hws, by simpa using hall⟩
      · refine .inr ⟨i + 1, t, e, hi, he, ?_, ?_⟩
        · rintro (_ | j) hj t' ht'
          · cases ht'
          · exact hbefore j (Nat.lt_of_succ_lt_succ hj) t' ht'
        · rw [herror, Nat.add_assoc, Nat.add_comm 1]
    | some t =>
      rw [entriesArgs]
      cases ht : t.args with
      | error e =>
        exact .inr ⟨0, t, e, rfl, ht, fun j hj ↦ absurd hj (Nat.not_lt_zero j), rfl⟩
      | ok here =>
        rcases ih (position + 1) with ⟨ws, hws, hall⟩ | ⟨i, t', e, hi, he, hbefore, herror⟩
        · refine .inl ⟨here ++ ws, by rw [hws]; rfl, ?_⟩
          intro t' ht'
          rcases List.mem_cons.1 ht' with ht' | ht'
          · exact ⟨here, Option.some.inj ht' ▸ ht⟩
          · exact hall t' ht'
        · refine .inr ⟨i + 1, t', e, hi, he, ?_, ?_⟩
          · rintro (_ | j) hj t'' ht''
            · obtain rfl : t = t'' := by simpa using ht''
              exact ⟨here, ht⟩
            · exact hbefore j (Nat.lt_of_succ_lt_succ hj) t'' ht''
          · rw [herror, Nat.add_assoc, Nat.add_comm 1]
            rfl

/-- A tree has arguments if all its devices do. Otherwise its error is that of the first device that
fails, with the address of this device around it. -/
theorem args_eq_placedAt (t : DeviceTree δ) :
    (∃ ws, t.args = .ok ws ∧ ∀ d ∈ t.leaves, ∃ ws, Leaf.args d = .ok ws) ∨
    ∃ address cause, t.FailsFirstAt address cause ∧ t.args = .error (cause.placedAt address) := by
  induction t using DeviceTree.induction with
  | leaf d =>
    rw [args, leaves]
    cases hd : Leaf.args d with
    | ok ws => exact .inl ⟨ws, rfl, by simpa using ⟨ws, hd⟩⟩
    | error cause =>
      exact .inr ⟨[], cause, ⟨⟨d, rfl, hd⟩, fun a ha ↦ absurd ha (List.not_lt_nil a)⟩, rfl⟩
  | group entries ih =>
    -- an entry with arguments is one whose devices have arguments
    have hfine : ∀ t, some t ∈ entries → (∃ ws, t.args = .ok ws) →
        ∀ d ∈ t.leaves, ∃ ws, Leaf.args d = .ok ws := by
      rintro t ht ⟨ws, hws⟩
      rcases ih t ht with ⟨-, -, hall⟩ | ⟨address, cause, -, herror⟩
      · exact hall
      · rw [hws] at herror
        cases herror
    rw [args, leaves]
    rcases entriesArgs_outcome 0 entries with
      ⟨ws, hws, hall⟩ | ⟨position, t, e, hposition, he, hbefore, herror⟩
    · refine .inl ⟨ws, hws, fun d hd ↦ ?_⟩
      obtain ⟨t, ht, hd⟩ := mem_entriesLeaves.1 hd
      exact hfine t ht (hall t ht) d hd
    · rcases ih t (List.mem_of_getElem? hposition) with
        ⟨ws, hws, -⟩ | ⟨address, cause, hfirst, heq⟩
      · rw [hws] at he
        cases he
      · refine .inr ⟨position :: address, cause, hfirst.group hposition ?_, ?_⟩
        · intro position' hlt t' ht'
          exact hfine t' (List.mem_of_getElem? ht') (hbefore position' hlt t' ht')
        · rw [herror, Nat.zero_add, ← Except.error.inj (heq.symm.trans he)]
          rfl

/-- The outcome of a tree whose leaves fail with causes. -/
theorem failsFirstAt_of_hasCauses (hcauses : Leaf.HasCauses δ) (t : DeviceTree δ) :
    (∃ ws, t.args = .ok ws ∧ ∀ d ∈ t.leaves, ∃ ws, Leaf.args d = .ok ws) ∨
    ∃ address cause e, t.FailsFirstAt address cause ∧ t.args = .error e ∧
      e.devicePath = address ∧ e.rootCause = cause ∧
      (∀ position source, cause ≠ .child position source) ∧
      e.message = String.join
        (address.map fun position ↦ "device #" ++ toString position ++ ": ") ++ cause.message := by
  rcases t.args_eq_placedAt with hok | ⟨address, cause, hfirst, herror⟩
  · exact .inl hok
  · obtain ⟨d, -, hd⟩ := hfirst.fails
    have hcause : cause.IsCause := hcauses d cause hd
    refine .inr ⟨address, cause, _, hfirst, herror, ?_, ?_, hcause,
      cause.message_placedAt address⟩
    · rw [Error.devicePath_placedAt, hcause.devicePath_eq, List.append_nil]
    · rw [Error.rootCause_placedAt, hcause.rootCause_eq]

/-- A tree has arguments if all its devices do, and then only. Otherwise it fails with the error of
the first device that fails, in the order of the addresses: the positions in the error are the
address of this device, its cause is what the device failed with and no failure of an entry, and its
wording is that of the cause behind one piece of text for each position. -/
theorem args_ok_or_failsFirstAt (t : DeviceTree) :
    (∃ ws, t.args = .ok ws ∧ ∀ d ∈ t.leaves, ∃ ws, d.args = .ok ws) ∨
    ∃ address cause e, t.FailsFirstAt address cause ∧ t.args = .error e ∧
      e.devicePath = address ∧ e.rootCause = cause ∧
      (∀ position source, cause ≠ .child position source) ∧
      e.message = String.join
        (address.map fun position ↦ "device #" ++ toString position ++ ": ") ++ cause.message :=
  failsFirstAt_of_hasCauses Device.hasCauses t

example :
    (group [none,
      some (group [none, none, some (leaf (Device.tapNetwork { name := "net0" }))]),
      some (leaf (.tapNetwork { name := "net1" }))]).args =
      .error (.child 1 (.child 2 (.noResources "tap(net0)"))) := rfl

end DeviceTree

end MachineArgs
