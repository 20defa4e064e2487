import MachineArgs.Proofs.Device.Records

/-!
# How devices fail

Once the handles of a device have numbers, its arguments fail for one of two reasons, and each shows
in its error: a tap backend has no taps, or a free-form property has no rendering
(`Device.args_outcome`). No other field of any kind of device matters.
-/

namespace MachineArgs

/-- Arguments of a value are refused exactly if its encoding is. -/
theorem RefusesIff.args {faulty : Prop} {v : Value} (h : RefusesIff faulty v.emissions)
    (group : Option String) : RefusesIff faulty (v.args group) := by
  rw [Value.args, Value.tables]
  exact (h.map _).map _

theorem IsSectioned.refusesIff {groups : List String} {default : Option String} {v : Value}
    (h : IsSectioned groups default v) : RefusesIff False v.emissions := by
  obtain ⟨es, hes, -⟩ := h
  rw [hes]
  exact .accepts id es

namespace Handle

theorem isSome_path? {h : Handle} (hindex : h.index.isSome) : h.path?.isSome := by
  rw [path?, Option.isSome_map]
  exact hindex

end Handle

theorem SocketPair.exists_args {p : SocketPair} (h : p.guest.index.isSome) :
    ∃ ws, p.args = .ok ws := by
  obtain ⟨fd, hfd⟩ := Option.isSome_iff_exists.1 h
  have hvalue : p.value = .ok (toValue ({ name := p.name, fd := fd } : FdSocket)) := by
    rw [value, Handle.requireIndex, hfd]
    rfl
  rw [args, hvalue, ok_bind]
  exact ((IsSectioned.of_leads (FdSocket.leads _)).refusesIff.args none).exists_ok id

namespace TapNetwork

theorem exists_indices {hs : List Handle} (h : ∀ handle ∈ hs, handle.index.isSome) :
    ∃ fds, indices hs = .ok fds := by
  have hsome : hs.map Handle.index = (hs.map fun handle ↦ handle.index.getD 0).map some := by
    rw [List.map_map]
    refine List.map_congr_left fun handle hmem ↦ ?_
    obtain ⟨index, hindex⟩ := Option.isSome_iff_exists.1 (h handle hmem)
    simp [hindex]
  exact ⟨_, indices_eq_ok hsome⟩

theorem value_eq_ok {n : TapNetwork} (hne : n.queues ≠ [])
    (h : ∀ handle ∈ n.queues, handle.index.isSome) : ∃ fds, n.value = .ok (n.valueWith fds) := by
  obtain ⟨fds, hfds⟩ := exists_indices h
  refine ⟨fds, ?_⟩
  rw [value, if_neg (by simpa using hne), hfds]
  rfl

end TapNetwork

namespace Device

variable {d : Device}

/-- Whether all handles of a device have numbers. -/
def IsNumbered (d : Device) : Prop :=
  ∀ h ∈ d.handles, h.index.isSome

theorem isNumbered_numberedFrom (first : Nat) (d : Device) : (d.numberedFrom first).IsNumbered := by
  intro h hmem
  rw [numberedFrom, handles_mapHandles] at hmem
  obtain ⟨position, hlt, rfl⟩ := List.mem_mapIdx.1 hmem
  rfl

/-- What can be wrong with a device, by the error that it leads to. -/
inductive Fails : Device → Error → Prop where
  /-- A tap backend has no taps. -/
  | lacksTaps {n : TapNetwork} (h : n.queues = []) :
      Fails (tapNetwork n) (.noResources ("tap(" ++ n.name ++ ")"))
  /-- A free-form property has no rendering. -/
  | refused {d : Device} (h : d.HasUnrenderable) (path : List String) (misfit : Misfit) :
      Fails d (.unsupportedShape path misfit)

theorem not_fails_of_properties? {e : Error} (hproperties : d.properties? = none)
    (htaps : ∀ n, d = tapNetwork n → n.queues ≠ []) : ¬d.Fails e := by
  intro h
  cases h with
  | lacksTaps h => exact htaps _ rfl h
  | refused h => exact not_hasUnrenderable hproperties h

/-- A device with one value fails for its properties or not at all. -/
theorem args_outcome_of_value? {v : Value} (hvalue : d.value? = some v) (h : d.IsNumbered) :
    (∃ ws, d.args = .ok ws ∧ ∀ e, ¬d.Fails e) ∨ ∃ e, d.args = .error e ∧ d.Fails e := by
  have hpaths : ∀ h ∈ d.handles, h.path?.isSome := fun handle hmem ↦
    Handle.isSome_path? (h handle hmem)
  have houtcome : RefusesIff d.HasUnrenderable d.args := by
    rw [args, hvalue]
    exact (refusesIff_of_value? hvalue hpaths).args _
  generalize d.args = x at houtcome ⊢
  cases houtcome with
  | refuses hbad path misfit => exact .inr ⟨_, rfl, .refused hbad path misfit⟩
  | accepts hgood ws =>
    refine .inl ⟨ws, rfl, fun e hfails ↦ ?_⟩
    cases hfails with
    | lacksTaps => cases hvalue
    | refused hbad => exact hgood hbad

/-- The arguments of a device whose handles have numbers: they are there if nothing is wrong with
it, and what is wrong tells the error otherwise. -/
theorem args_outcome (h : d.IsNumbered) :
    (∃ ws, d.args = .ok ws ∧ ∀ e, ¬d.Fails e) ∨ ∃ e, d.args = .error e ∧ d.Fails e := by
  cases d with
  | raw | acceleration | processorModel =>
    exact .inl ⟨_, rfl, fun e ↦ not_fails_of_properties? rfl (by rintro n ⟨⟩)⟩
  | tapNetwork n =>
    by_cases hqueues : n.queues = []
    · refine .inr ⟨.noResources ("tap(" ++ n.name ++ ")"), ?_, .lacksTaps hqueues⟩
      show (n.value >>= fun v ↦ v.args none) = _
      rw [TapNetwork.value, hqueues]
      rfl
    · obtain ⟨fds, hvalue⟩ := TapNetwork.value_eq_ok hqueues h
      obtain ⟨ws, hws⟩ := ((n.isSectioned fds).refusesIff.args none).exists_ok id
      refine .inl ⟨ws, ?_, fun e ↦ not_fails_of_properties? rfl fun n' hn ↦ ?_⟩
      · show (n.value >>= fun v ↦ v.args none) = _
        rw [hvalue, ok_bind, hws]
      · cases hn
        exact hqueues
  | socketPair p =>
    obtain ⟨ws, hws⟩ := SocketPair.exists_args (h p.guest List.mem_cons_self)
    exact .inl ⟨ws, hws, fun e ↦ not_fails_of_properties? rfl (by rintro n ⟨⟩)⟩
  | tpm t =>
    obtain ⟨conduit, hconduit⟩ := SocketPair.exists_args (h t.conduit.guest List.mem_cons_self)
    obtain ⟨backend, hbackend⟩ :=
      ((IsSectioned.of_leads t.backend.leads).refusesIff.args none).exists_ok id
    refine .inl ⟨conduit ++ backend, ?_, fun e ↦ not_fails_of_properties? rfl (by rintro n ⟨⟩)⟩
    show (t.conduit.args >>= fun conduit ↦ (toValue t.backend : Value).args none >>= _) = _
    rw [hconduit, ok_bind, hbackend]
    rfl
  | _ => exact args_outcome_of_value? rfl h

end Device

end MachineArgs
