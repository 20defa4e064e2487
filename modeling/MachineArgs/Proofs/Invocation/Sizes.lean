import MachineArgs.Proofs.Invocation.Wiring

/-!
# Memory and processors of an invocation

How much memory and how many processors an invocation asks for, on the command line that comes of
it. The sizes pass through three places that treat a zero in three ways. Settings with a zero are
refused (`Settings.pos_of_validate`), so what they supply is never zero. What an invocation says is
not checked, and wins over the settings. And a zero is written for processors, which may be absent,
but not for memory, which has no other way to be absent (`Device.args_memory`,
`Device.args_processors`).

So the sizes are on the command line of every invocation (`describe_sizes`), except that memory of
zero is asked for in vain: nothing is written for it, and the emulator falls back to a default of
its own (`zeroMemory_untold`).
-/

namespace MachineArgs

/-! ### Settings -/

namespace Settings

/-- Checked settings have memory and processors. -/
theorem pos_of_validate {s : Settings} (h : s.validate = .ok s) :
    0 < s.machine.memory ∧ 0 < s.machine.cpus := by
  have hfault := (validate_eq_ok.1 h).2
  rw [fault?] at hfault
  split_ifs at hfault with _ hmemory hcpus
  exact ⟨Nat.pos_of_ne_zero hmemory, Nat.pos_of_ne_zero hcpus⟩

end Settings

theorem Host.validate_of_readSettings {host : Host} {path : String} {s : Settings}
    (h : host.readSettings path = .ok s) : s.validate = .ok s := by
  rw [readSettings] at h
  split at h
  · cases h
  · split at h
    · cases h
    · obtain ⟨rfl, -⟩ := Settings.validate_eq_ok.1 h
      exact h

namespace Invocation

variable {inv : Invocation} {host : Host} {s : Settings} {m : Machine}

/-- The settings of an invocation are checked, or those that need no check. -/
theorem validate_of_settings (h : inv.settings host = .ok s) : s.validate = .ok s := by
  replace h := mapError_eq_ok.1 h
  cases hconfig : inv.config with
  | some path =>
    rw [hconfig] at h
    exact Host.validate_of_readSettings h
  | none =>
    rw [hconfig] at h
    change host.usualSettings = .ok s at h
    rw [Host.usualSettings] at h
    split at h
    · exact Host.validate_of_readSettings h
    · obtain rfl := Except.ok.inj h
      rfl

end Invocation

/-! ### Arguments -/

namespace Device

/-- Memory of zero is not written. -/
theorem args_memory (size : Nat) : (memory { size }).args =
    .ok (if size = 0 then [] else ["-m", "size=" ++ toString size]) := by
  cases size <;> rfl

/-- Processors are written whatever their number. -/
theorem args_processors (cpus : Nat) : (processors { cpus := some cpus }).args =
    .ok ["-smp", "cpus=" ++ toString cpus] :=
  rfl

end Device

namespace Machine

/-- The arguments of a description end with those of the devices. -/
theorem exists_suffix_of_describe {m : Machine} {d : Description} (h : m.describe = .ok d) :
    ∃ ws, m.allocated.tree.args = .ok ws ∧ ws <:+ d.args := by
  obtain ⟨-, ws, hws, hwords⟩ := assemble_eq_ok h
  refine ⟨ws, hws, ?_⟩
  cases hbinary : m.allocated.binary with
  | nil =>
    obtain ⟨c, hc, -⟩ := bind_eq_ok.1 h
    obtain ⟨c₀, hc₀, -⟩ := bind_eq_ok.1 hc
    rw [hbinary] at hc₀
    cases hc₀
  | cons program args =>
    rw [Description.args, hwords, hbinary, List.append_assoc, List.cons_append, List.tail_cons]
    exact ⟨_, List.append_assoc ..⟩

end Machine

namespace Invocation

variable {inv : Invocation} {host : Host} {s : Settings} {m : Machine}

/-- Memory and processors stand side by side, with numbered handles or without. -/
theorem exists_leaves_allocated (hm : inv.machine host s = .ok m) :
    ∃ before after, m.allocated.tree.leaves = before ++
      ([.memory { size := inv.memory.getD s.machine.memory },
        .processors { cpus := some (inv.processors.getD s.machine.cpus) }] ++ after) := by
  obtain ⟨kernel, drives, bridge, tpm, -, -, -, -, hleaves⟩ := exists_leaves_machine hm
  obtain ⟨rest, hrest⟩ : ∃ rest, m.allocated.tree.leaves =
      inv.identityDevices host ++ inv.coreDevices s.machine ++ rest := by
    rw [Machine.leaves_allocated, hleaves]
    simp only [List.append_assoc (inv.identityDevices host ++ inv.coreDevices s.machine)]
    rw [DeviceTree.mapLeavesFrom_append,
      DeviceTree.mapLeavesFrom_of_handles_eq_nil _ _ handles_of_mem_front]
    exact ⟨_, rfl⟩
  obtain ⟨behind, hcore⟩ : ∃ behind, inv.coreDevices s.machine =
      [.memory { size := inv.memory.getD s.machine.memory },
        .processors { cpus := some (inv.processors.getD s.machine.cpus) }] ++ behind :=
    ⟨_, List.append_assoc ..⟩
  refine ⟨inv.identityDevices host, behind ++ rest, ?_⟩
  rw [hrest, hcore]
  simp only [List.append_assoc]

/-- The arguments of memory and processors stand side by side. -/
theorem sizes_infix_of_describe (hm : inv.machine host s = .ok m) {d : Description}
    (hd : m.describe = .ok d) :
    (if inv.memory.getD s.machine.memory = 0 then []
      else ["-m", "size=" ++ toString (inv.memory.getD s.machine.memory)]) ++
      ["-smp", "cpus=" ++ toString (inv.processors.getD s.machine.cpus)] <:+: d.args := by
  obtain ⟨ws, hws, hsuffix⟩ := Machine.exists_suffix_of_describe hd
  obtain ⟨before, after, hleaves⟩ := exists_leaves_allocated hm
  obtain ⟨chunks, hchunks, hwithin⟩ := DeviceTree.exists_infix_of_args hws hleaves
  obtain ⟨memory, _, hmemory, hrest, rfl⟩ := List.forall₂_cons_left_iff.1 hchunks
  obtain ⟨processors, _, hprocessors, hnil, rfl⟩ := List.forall₂_cons_left_iff.1 hrest
  obtain rfl := List.forall₂_nil_left_iff.1 hnil
  obtain rfl := Except.ok.inj ((Device.args_memory _).symm.trans hmemory)
  obtain rfl := Except.ok.inj ((Device.args_processors _).symm.trans hprocessors)
  rw [List.flatten_cons, List.flatten_singleton] at hwithin
  exact hwithin.trans hsuffix.isInfix

/-- The sizes that a description asks for. What the invocation says wins over the settings, which
are checked and have memory and processors, and both sizes are written next to each other among the
arguments, whatever else is asked for and on whatever host. The one exception is memory of zero, for
which nothing is written. -/
theorem describe_sizes {inv : Invocation} {host : Host} {d : Description}
    (hd : inv.describe host = .ok d) :
    ∃ s, inv.settings host = .ok s ∧ s.validate = .ok s ∧
      0 < s.machine.memory ∧ 0 < s.machine.cpus ∧
      (if inv.memory = some 0 then []
        else ["-m", "size=" ++ toString (inv.memory.getD s.machine.memory)]) ++
        ["-smp", "cpus=" ++ toString (inv.processors.getD s.machine.cpus)] <:+: d.args := by
  obtain ⟨s, hs, hd⟩ := bind_eq_ok.1 hd
  obtain ⟨m, hm, hd⟩ := bind_eq_ok.1 hd
  have hvalid := validate_of_settings hs
  obtain ⟨hmemory, hcpus⟩ := Settings.pos_of_validate hvalid
  refine ⟨s, hs, hvalid, hmemory, hcpus, ?_⟩
  have hzero : inv.memory.getD s.machine.memory = 0 ↔ inv.memory = some 0 := by
    cases inv.memory with
    | none => simp [Nat.ne_of_gt hmemory]
    | some n => simp
  have hwithin := sizes_infix_of_describe hm (mapError_eq_ok.1 hd)
  simpa only [hzero] using hwithin

/-- An invocation that says how many processors there are: none. -/
def noProcessors : Invocation where
  memory := some 2048
  processors := some 0

/-- Processors of zero are written. -/
theorem noProcessors_sizes : ∃ d, noProcessors.describe openHost = .ok d ∧
    ["-m", "size=2048", "-smp", "cpus=0"] <:+: d.args := by
  obtain ⟨d, hd⟩ : ∃ d, noProcessors.describe openHost = .ok d := ⟨_, by rfl⟩
  obtain ⟨s, -, -, -, -, hsizes⟩ := describe_sizes hd
  have hargs : ["-m", "size=2048", "-smp", "cpus=0"] =
      ["-m", "size=" ++ toString 2048] ++ ["-smp", "cpus=" ++ toString 0] := by decide
  rw [if_neg (by decide)] at hsizes
  exact ⟨d, hd, hargs ▸ hsizes⟩

/-- An invocation that asks for memory of zero and for nothing else. -/
def zeroMemory : Invocation where
  memory := some 0

/-- Memory of zero is accepted, and then it is neither written nor replaced by that of the
settings. -/
theorem zeroMemory_untold : ∃ d, zeroMemory.describe openHost = .ok d ∧
    d.args = ["-nodefaults", "-no-user-config", "-smp", "cpus=1"] ∧
    ¬["-m", "size=0"] <:+: d.args :=
  ⟨_, by rfl, by rfl, by decide⟩

end Invocation

end MachineArgs
