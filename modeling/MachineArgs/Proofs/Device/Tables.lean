import MachineArgs.Device
import MachineArgs.Proofs.Encoding.Plain

/-!
# Tables of devices

The arguments of a device are written from option tables, those of each value that the device
encodes (`Device.tables`), unless they are fixed (`args_eq_tables_map`). What a device shows the
emulator is told by the slots of these tables (`Device.Shows`), so nothing has to be read out of
joined texts again.
-/

namespace MachineArgs

namespace Device

/-- Whether the arguments of a device are fixed words and no option tables. -/
def isFixed : Device → Bool
  | raw _ | acceleration | processorModel _ => true
  | _ => false

/-- The option tables of a device, one group of tables for each value that it encodes. -/
def tables (d : Device) : Except Error (List NamedTables) :=
  match d with
  | tapNetwork n => do
    let v ← n.value
    (v.tables none).map fun t ↦ [t]
  | socketPair p => do
    let v ← p.value
    (v.tables none).map fun t ↦ [t]
  | tpm t => do
    let v ← t.conduit.value
    let conduit ← v.tables none
    let backend ← (toValue t.backend : Value).tables none
    return [conduit, backend]
  | d =>
    match d.value? with
    | some v => (v.tables d.group?).map fun t ↦ [t]
    | none => .ok []

/-- The arguments `ws` of a device are written from its option tables, and the table of `group` has
`slot`. -/
def Shows (d : Device) (ws : List String) (group : String) (slot : Slot) : Prop :=
  ∃ ts, d.tables = .ok ts ∧ ws = ts.flatMap NamedTables.args ∧
    ∃ t ∈ ts, ∃ table, t.get? group = some table ∧ slot ∈ table.visible

/-- A device with one value has the tables of this value. -/
theorem tables_of_value? {d : Device} {v : Value} (h : d.value? = some v) :
    d.tables = (v.tables d.group?).map fun t ↦ [t] := by
  cases d with
  | raw | acceleration | processorModel | tapNetwork | socketPair | tpm => cases h
  | _ => cases h; rfl

/-- The arguments of a device that are not fixed are those of its tables in order. -/
theorem args_eq_tables_map {d : Device} (hfixed : d.isFixed = false) :
    d.args = d.tables.map fun ts ↦ ts.flatMap NamedTables.args := by
  have hsingle : ∀ v : Value, ∀ g, v.args g =
      ((v.tables g).map fun t ↦ [t]).map fun ts ↦ ts.flatMap NamedTables.args := by
    intro v g
    rw [Value.args]
    cases v.tables g <;> simp [Except.map]
  cases hvalue : d.value? with
  | some v =>
    rw [tables_of_value? hvalue, args, hvalue]
    exact hsingle v _
  | none =>
    cases d with
    | tapNetwork n =>
      show n.args = Except.map _ (n.value >>= _)
      rw [TapNetwork.args]
      cases n.value with
      | error e => rfl
      | ok v => exact hsingle v none
    | socketPair p =>
      show p.args = Except.map _ (p.value >>= _)
      rw [SocketPair.args]
      cases p.value with
      | error e => rfl
      | ok v => exact hsingle v none
    | tpm t =>
      show t.args = Except.map _ (t.conduit.value >>= _)
      rw [Tpm.args, SocketPair.args]
      cases t.conduit.value with
      | error e => rfl
      | ok v =>
        simp only [ok_bind, Value.args]
        cases v.tables none with
        | error e => rfl
        | ok conduit =>
          cases (toValue t.backend : Value).tables none with
          | error e => rfl
          | ok backend => simp [Except.map]
    | raw | acceleration | processorModel => simp [isFixed] at hfixed
    | _ => simp [value?] at hvalue

/-- A device with arguments has option tables. -/
theorem exists_tables_of_args {d : Device} {ws : List String} (h : d.args = .ok ws) :
    ∃ ts, d.tables = .ok ts := by
  cases hfixed : d.isFixed with
  | false =>
    rw [args_eq_tables_map hfixed] at h
    obtain ⟨ts, hts, -⟩ := map_eq_ok.1 h
    exact ⟨ts, hts⟩
  | true =>
    cases d with
    | raw | acceleration | processorModel => exact ⟨[], rfl⟩
    | _ => cases hfixed

/-- What the tables of a device have, its arguments show. -/
theorem shows_of_tables {d : Device} {ws : List String} {ts : List NamedTables} {t : NamedTables}
    {group : String} {slot : Slot} (hfixed : d.isFixed = false) (h : d.args = .ok ws)
    (htables : d.tables = .ok ts) (ht : t ∈ ts)
    (hslot : ∃ table, t.get? group = some table ∧ slot ∈ table.visible) :
    d.Shows ws group slot := by
  rw [args_eq_tables_map hfixed, htables] at h
  exact ⟨ts, htables, (Except.ok.inj h).symm, t, ht, hslot⟩

end Device

end MachineArgs
