import MachineArgs.DeviceTree

/-!
# What devices read of their handles

A device reads nothing of a numbered handle but its number. So two changes of the handles of a tree
after which every handle has a number, and the same one (`SameNumbers`), lead to the same arguments:
neither the name of a handle nor what it refers to matters (`DeviceTree.args_mapHandlesFrom_congr`).

Changes of handles compose position by position (`DeviceTree.mapHandlesFrom_mapHandlesFrom`), since
a change leaves the number of handles of each device alone.
-/

namespace MachineArgs

/-- Two changes of handles give every handle a number, and the same one. -/
def SameNumbers (f g : Nat → Handle → Handle) : Prop :=
  ∀ position h, ∃ index, (f position h).index = some index ∧ (g position h).index = some index

/-- Values with the same encoders make records with the same arguments. -/
theorem Value.args_record_congr {schema : Schema} {values values' : List Value}
    (h : encoders values = encoders values') (group : Option String) :
    (record schema values).args group = (record schema values').args group := by
  rw [args, args, tables, tables, emissions, emissions, encoder, encoder, h]
  rfl

/-! ### Arguments after a change -/

namespace SameNumbers

variable {f g : Nat → Handle → Handle} (hfg : SameNumbers f g)
include hfg

theorem shift (start : Nat) :
    SameNumbers (fun position ↦ f (start + position)) fun position ↦ g (start + position) :=
  fun position ↦ hfg (start + position)

theorem requireIndex_eq (position : Nat) (h : Handle) :
    (f position h).requireIndex = (g position h).requireIndex := by
  obtain ⟨index, hf, hg⟩ := hfg position h
  rw [Handle.requireIndex, Handle.requireIndex, hf, hg]

/-- A numbered handle is written as its path. -/
theorem encoder_eq (position : Nat) (h : Handle) :
    (toValue (f position h) : Value).encoder = (toValue (g position h) : Value).encoder := by
  obtain ⟨index, hf, hg⟩ := hfg position h
  show Encoder.location _ (f position h).path? = Encoder.location _ (g position h).path?
  rw [Handle.path?, Handle.path?, hf, hg]
  rfl

theorem encoders_option_eq (position : Nat) (handle? : Option Handle) :
    Value.encoders [toValue (handle?.map (f position))] =
      Value.encoders [toValue (handle?.map (g position))] := by
  cases handle? with
  | none => rfl
  | some h =>
    show [(false, (toValue (f position h) : Value).encoder)] =
      [(false, (toValue (g position h) : Value).encoder)]
    rw [hfg.encoder_eq]

theorem kernel_args_eq (k : LinuxKernel) : (toValue (k.mapHandles f) : Value).args none =
    (toValue (k.mapHandles g) : Value).args none := by
  refine Value.args_record_congr ?_ none
  show Value.encoders ([toValue (k.kernel.map (f 0))] ++
      ([toValue (k.initrd.map (f k.kernel.toList.length))] ++ [toValue k.cmdline])) =
    Value.encoders ([toValue (k.kernel.map (g 0))] ++
      ([toValue (k.initrd.map (g k.kernel.toList.length))] ++ [toValue k.cmdline]))
  rw [Value.encoders_append, Value.encoders_append, Value.encoders_append, Value.encoders_append,
    hfg.encoders_option_eq, hfg.encoders_option_eq]

theorem fileNode_args_eq (n : FileNode) :
    (toValue { n with file := f 0 n.file } : Value).args none =
      (toValue { n with file := g 0 n.file } : Value).args none := by
  refine Value.args_record_congr ?_ none
  rw [Value.encoders, Value.encoders, Value.encoders, Value.encoders, hfg.encoder_eq]
  rfl

theorem socketPair_args_eq (p : SocketPair) :
    ({ p with guest := f 0 p.guest } : SocketPair).args =
      ({ p with guest := g 0 p.guest } : SocketPair).args := by
  rw [SocketPair.args, SocketPair.args, SocketPair.value, SocketPair.value, hfg.requireIndex_eq]

theorem indices_eq (hs : List Handle) :
    TapNetwork.indices (hs.mapIdx f) = TapNetwork.indices (hs.mapIdx g) := by
  induction hs generalizing f g with
  | nil => rfl
  | cons h hs ih =>
    have hrest : SameNumbers (fun position ↦ f (position + 1)) fun position ↦ g (position + 1) :=
      fun position ↦ hfg (position + 1)
    rw [List.mapIdx_cons, List.mapIdx_cons, TapNetwork.indices, TapNetwork.indices,
      hfg.requireIndex_eq, ih hrest]

theorem tapNetwork_args_eq (n : TapNetwork) :
    ({ n with queues := n.queues.mapIdx f } : TapNetwork).args =
      ({ n with queues := n.queues.mapIdx g } : TapNetwork).args := by
  have hempty : (n.queues.mapIdx f).isEmpty = (n.queues.mapIdx g).isEmpty := by
    rw [Bool.eq_iff_iff, List.isEmpty_iff, List.isEmpty_iff, List.mapIdx_eq_nil_iff,
      List.mapIdx_eq_nil_iff]
  rw [TapNetwork.args, TapNetwork.args, TapNetwork.value, TapNetwork.value, hempty, hfg.indices_eq]
  rfl

theorem device_args_eq (d : Device) : (d.mapHandles f).args = (d.mapHandles g).args := by
  cases d with
  | kernel k => exact hfg.kernel_args_eq k
  | tapNetwork n => exact hfg.tapNetwork_args_eq n
  | fileNode n => exact hfg.fileNode_args_eq n
  | socketPair p => exact hfg.socketPair_args_eq p
  | tpm t =>
    show Tpm.args _ = Tpm.args _
    rw [Tpm.args, Tpm.args, hfg.socketPair_args_eq]
  | _ => rfl

end SameNumbers

namespace DeviceTree

mutual

/-- Only the numbers of handles matter for the arguments of a tree. -/
theorem args_mapHandlesFrom_congr {f g : Nat → Handle → Handle} (hfg : SameNumbers f g)
    (start : Nat) : ∀ t : DeviceTree, (t.mapHandlesFrom f start).args =
      (t.mapHandlesFrom g start).args
  | leaf d => by
    rw [mapHandlesFrom, mapHandlesFrom, args, args]
    exact (hfg.shift start).device_args_eq d
  | group entries => by
    rw [mapHandlesFrom, mapHandlesFrom, args, args]
    exact entriesArgs_mapEntriesFrom_congr hfg start 0 entries

theorem entriesArgs_mapEntriesFrom_congr {f g : Nat → Handle → Handle} (hfg : SameNumbers f g)
    (start position : Nat) : ∀ entries : List (Option DeviceTree),
      entriesArgs position (mapEntriesFrom f start entries) =
        entriesArgs position (mapEntriesFrom g start entries)
  | [] => by rw [mapEntriesFrom, mapEntriesFrom]
  | none :: entries => by
    rw [mapEntriesFrom, mapEntriesFrom, entriesArgs, entriesArgs]
    exact entriesArgs_mapEntriesFrom_congr hfg start (position + 1) entries
  | some t :: entries => by
    rw [mapEntriesFrom, mapEntriesFrom, entriesArgs, entriesArgs,
      args_mapHandlesFrom_congr hfg start t,
      entriesArgs_mapEntriesFrom_congr hfg (start + t.handles.length) (position + 1) entries]

end

end DeviceTree

/-! ### Changes one after the other -/

/-- Two changes of the handles of a device are one. -/
theorem Device.mapHandles_mapHandles (f g : Nat → Handle → Handle) (d : Device) :
    (d.mapHandles f).mapHandles g = d.mapHandles fun position h ↦ g position (f position h) := by
  cases d with
  | kernel k =>
    simp [mapHandles, LinuxKernel.mapHandles, Function.comp_def, Option.map_map,
      Option.length_toList]
  | tapNetwork n => simp [mapHandles, List.mapIdx_mapIdx, Function.comp_def]
  | _ => rfl

namespace DeviceTree

mutual

/-- Two changes of the handles of a tree are one. -/
theorem mapHandlesFrom_mapHandlesFrom (f g : Nat → Handle → Handle) (start : Nat) :
    ∀ t : DeviceTree, (t.mapHandlesFrom f start).mapHandlesFrom g start =
      t.mapHandlesFrom (fun position h ↦ g position (f position h)) start
  | leaf d => by
    rw [mapHandlesFrom, mapHandlesFrom, mapHandlesFrom]
    exact congrArg leaf (d.mapHandles_mapHandles _ _)
  | group entries => by
    rw [mapHandlesFrom, mapHandlesFrom, mapHandlesFrom, mapEntriesFrom_mapEntriesFrom]

theorem mapEntriesFrom_mapEntriesFrom (f g : Nat → Handle → Handle) (start : Nat) :
    ∀ entries : List (Option DeviceTree), mapEntriesFrom g start (mapEntriesFrom f start entries) =
      mapEntriesFrom (fun position h ↦ g position (f position h)) start entries
  | [] => by rw [mapEntriesFrom, mapEntriesFrom, mapEntriesFrom]
  | none :: entries => by
    rw [mapEntriesFrom, mapEntriesFrom, mapEntriesFrom, mapEntriesFrom_mapEntriesFrom]
  | some t :: entries => by
    -- the handles behind an entry keep their positions
    have hlength : (t.mapHandlesFrom f start).handles.length = t.handles.length := by
      rw [handles_mapHandlesFrom, List.length_mapIdx]
    rw [mapEntriesFrom, mapEntriesFrom, mapEntriesFrom, hlength,
      mapHandlesFrom_mapHandlesFrom f g start t, mapEntriesFrom_mapEntriesFrom f g _ entries]

end

end DeviceTree

end MachineArgs
