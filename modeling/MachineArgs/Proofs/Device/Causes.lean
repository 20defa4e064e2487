import MachineArgs.DeviceTree
import MachineArgs.Proofs.Encoding.Embedding

/-!
# Errors of devices are causes

An error is a cause, or it says which entry of a group failed (`child`). Only groups do the latter:
the error of a device that is asked for its arguments is a cause, whatever the device is and whether
or not its handles have numbers (`Device.isCause_of_args`).

Errors come about at the leaves of a value and are handed through records, maps and lists. That they
are handed through is what `Agree` is about, so an encoder is compared with itself, by the relation
that looks at one of the errors (`FirstIsCause`).
-/

namespace MachineArgs

namespace Error

/-- Whether an error is not the failure of an entry of a group. -/
def IsCause (e : Error) : Prop :=
  ∀ position source, e ≠ child position source

namespace IsCause

variable {e : Error}

theorem of_devicePath (h : e.devicePath = []) : e.IsCause := by
  rintro position source rfl
  cases h

theorem rootCause_eq (h : e.IsCause) : e.rootCause = e := by
  cases e with
  | child position source => exact absurd rfl (h position source)
  | _ => rfl

theorem devicePath_eq (h : e.IsCause) : e.devicePath = [] := by
  cases e with
  | child position source => exact absurd rfl (h position source)
  | _ => rfl

end IsCause

end Error

/-! ### Values -/

/-- The first of two errors is a cause. -/
def FirstIsCause (e _ : Error) : Prop :=
  e.IsCause

/-- An outcome that agrees with itself up to causes fails with a cause, if it fails. -/
theorem Agree.isCause {α : Type} {x : Except Error α} (h : Agree FirstIsCause x x) {e : Error}
    (he : x = .error e) : e.IsCause := by
  subst he
  cases h with
  | error h => exact h

/-- Errors about values are causes, whatever path they show. -/
theorem carries_firstIsCause : Carries (fun _ _ ↦ True) FirstIsCause where
  below _ _ := trivial
  shape _ _ := .of_devicePath rfl
  counts _ _ _ := .of_devicePath rfl
  handle _ := .of_devicePath rfl

namespace Value

theorem isCause_of_args {v : Value} {group : Option String} {e : Error}
    (h : v.args group = .error e) : e.IsCause := by
  rcases bind_eq_error.1 h with h | ⟨t, -, h⟩
  · rcases bind_eq_error.1 h with h | ⟨es, -, h⟩
    · exact (encoder_agree carries_firstIsCause v trivial _).isCause h
    · cases h
  · cases h

end Value

/-! ### Devices -/

namespace Handle

theorem isCause_of_requireIndex {h : Handle} {e : Error} (he : h.requireIndex = .error e) :
    e.IsCause := by
  rw [requireIndex] at he
  split at he
  · cases he
  · cases he
    exact .of_devicePath rfl

end Handle

theorem SocketPair.isCause_of_args {p : SocketPair} {e : Error} (h : p.args = .error e) :
    e.IsCause := by
  rcases bind_eq_error.1 h with h | ⟨v, -, h⟩
  · rcases bind_eq_error.1 h with h | ⟨fd, -, h⟩
    · exact Handle.isCause_of_requireIndex h
    · cases h
  · exact Value.isCause_of_args h

namespace TapNetwork

theorem isCause_of_indices {hs : List Handle} {e : Error} (h : indices hs = .error e) :
    e.IsCause := by
  induction hs with
  | nil => cases h
  | cons handle hs ih =>
    rcases bind_eq_error.1 h with h | ⟨index, -, h⟩
    · exact Handle.isCause_of_requireIndex h
    · rcases bind_eq_error.1 h with h | ⟨rest, -, h⟩
      · exact ih h
      · cases h

theorem isCause_of_args {n : TapNetwork} {e : Error} (h : n.args = .error e) : e.IsCause := by
  rcases bind_eq_error.1 h with h | ⟨v, -, h⟩
  · rw [value] at h
    split at h
    · cases h
      exact .of_devicePath rfl
    · rcases bind_eq_error.1 h with h | ⟨fds, -, h⟩
      · exact isCause_of_indices h
      · cases h
  · exact Value.isCause_of_args h

end TapNetwork

/-- A device fails with a cause. -/
theorem Device.isCause_of_args {d : Device} {e : Error} (h : d.args = .error e) : e.IsCause := by
  cases hvalue : d.value? with
  | some v =>
    rw [args, hvalue] at h
    exact Value.isCause_of_args h
  | none =>
    rw [args, hvalue] at h
    cases d with
    | tapNetwork n => exact TapNetwork.isCause_of_args h
    | socketPair p => exact SocketPair.isCause_of_args h
    | tpm t =>
      rcases bind_eq_error.1 h with h | ⟨conduit, -, h⟩
      · exact SocketPair.isCause_of_args h
      · rcases bind_eq_error.1 h with h | ⟨backend, -, h⟩
        · exact Value.isCause_of_args h
        · cases h
    | _ => cases h

/-- Leaves of a type fail with causes: no error of theirs is the failure of an entry. -/
def Leaf.HasCauses (δ : Type) [Leaf δ] : Prop :=
  ∀ (d : δ) (e : Error), Leaf.args d = .error e → e.IsCause

theorem Device.hasCauses : Leaf.HasCauses Device :=
  fun _ _ ↦ isCause_of_args

end MachineArgs
