import MachineArgs.Invocation.Description
import MachineArgs.Proofs.Machine.Numbering

/-!
# Devices of an invocation

Which devices an invocation puts together when it succeeds, and the numbers that their handles get,
for invocations without helper programs that boot from files of the host. Whatever is opened becomes
a handle that is named after its path (`openHandle_eq`), so the devices are told by the invocation
and the settings alone: nothing else of the host is in them but the fresh identifier
(`leaves_allocated`).

The numbers go with the devices from left to right: the files to boot from come first, and the file
of each disk follows that of the disk before it.
-/

namespace MachineArgs

/-! ### Devices in a row -/

namespace DeviceTree

theorem entriesLeaves_append {δ : Type} (entries entries' : List (Option (DeviceTree δ))) :
    entriesLeaves (entries ++ entries') = entriesLeaves entries ++ entriesLeaves entries' := by
  induction entries with
  | nil => rfl
  | cons entry entries ih =>
    cases entry with
    | none => rw [List.cons_append, entriesLeaves, entriesLeaves, ih]
    | some t => rw [List.cons_append, entriesLeaves, entriesLeaves, ih, List.append_assoc]

/-- Devices without handles stay as they are. -/
theorem mapLeavesFrom_of_handles_eq_nil (f : Nat → Handle → Handle) (start : Nat)
    {ds : List Device} (h : ∀ d ∈ ds, d.handles = []) : mapLeavesFrom f start ds = ds := by
  induction ds generalizing start with
  | nil => rfl
  | cons d ds ih =>
    rw [List.forall_mem_cons] at h
    have hd : d.mapHandles (fun position ↦ f (start + position)) = d :=
      Device.mapHandles_eq_self fun position handle hp ↦ by simp [h.1] at hp
    rw [mapLeavesFrom, ih _ h.2]
    exact congrArg (· :: ds) hd

end DeviceTree

namespace Machine

theorem leaves_addAll {δ : Type} (m : Machine δ) (ds : List δ) :
    (m.addAll ds).tree.leaves = m.tree.leaves ++ ds := by
  induction ds generalizing m with
  | nil => rw [List.append_nil]; rfl
  | cons d ds ih =>
    have hadd : (m.add d).tree.leaves = m.tree.leaves ++ [d] := by
      show DeviceTree.entriesLeaves (m.devices ++ [some (.leaf d)]) = _
      rw [DeviceTree.entriesLeaves_append]
      rfl
    show ((m.add d).addAll ds).tree.leaves = _
    rw [ih, hadd, List.append_assoc]
    rfl

end Machine

namespace Invocation

variable {inv : Invocation} {host : Host}

/-! ### Handles of files -/

/-- The handle of a file that was opened under its path. -/
def fileHandle (path : String) : Handle :=
  .ofFile path path

theorem openHandle_eq {access : FileAccess} {path : String} {h : Handle}
    (ho : host.openHandle access path = .ok h) : h = fileHandle path := by
  rw [Host.openHandle] at ho
  cases hopen : host.openFile access path with
  | error cause => simp [hopen] at ho
  | ok u =>
    rw [hopen] at ho
    exact (Except.ok.inj ho).symm

theorem openBootFile_eq {path : String} (hlocal : isRemote path = false) {h : Handle}
    (ho : openBootFile host path = .ok h) : h = fileHandle path := by
  rw [openBootFile, hlocal] at ho
  exact openHandle_eq (mapError_eq_ok.1 ho)

/-- The files to boot from. -/
def bootFiles (inv : Invocation) : List String :=
  inv.kernel.toList ++ inv.initrd.toList

/-- The files to boot from are files of the host. -/
def BootsLocally (inv : Invocation) : Prop :=
  ∀ path ∈ inv.bootFiles, isRemote path = false

/-- The kernel at a path, with the ramdisk and the command line of an invocation. -/
def openedKernel (inv : Invocation) (path : String) : LinuxKernel where
  kernel := some (fileHandle path)
  initrd := inv.initrd.map fileHandle
  cmdline := inv.append.elim [] Text.wordsOf

theorem kernelDevices_eq (hlocal : inv.BootsLocally) {ds : List Device}
    (h : inv.kernelDevices host = .ok ds) :
    ds = inv.kernel.toList.map fun path ↦ .kernel (inv.openedKernel path) := by
  rw [kernelDevices] at h
  cases hkernel : inv.kernel with
  | none =>
    rw [hkernel] at h
    exact (Except.ok.inj h).symm
  | some path =>
    rw [hkernel] at h
    obtain ⟨kernel, hopen, h⟩ := bind_eq_ok.1 h
    obtain ⟨initrd, hmap, h⟩ := bind_eq_ok.1 h
    obtain rfl := openBootFile_eq (hlocal path (by simp [bootFiles, hkernel])) hopen
    have hinitrd : initrd = inv.initrd.map fileHandle := by
      cases hpath : inv.initrd with
      | none =>
        rw [hpath] at hmap
        exact (Except.ok.inj hmap).symm
      | some initrdPath =>
        rw [hpath] at hmap
        obtain ⟨handle, hhandle, hmap⟩ := bind_eq_ok.1 hmap
        rw [← Except.ok.inj hmap,
          openBootFile_eq (hlocal initrdPath (by simp [bootFiles, hpath])) hhandle]
        rfl
    rw [← Except.ok.inj h, hinitrd]
    rfl

/-- The devices of a disk and its number, with a handle for its file. -/
def disk (handle : Handle) (index : Nat) : List Device :=
  diskDevices index (isQcow2 handle.name) handle

theorem disksFrom_eq {index : Nat} {paths : List String} {ds : List Device}
    (h : disksFrom host index paths = .ok ds) :
    ds = (paths.zipIdx index).flatMap fun p ↦ disk (fileHandle p.1) p.2 := by
  induction paths generalizing index ds with
  | nil => exact (Except.ok.inj h).symm
  | cons path paths ih =>
    obtain ⟨file, hopen, h⟩ := bind_eq_ok.1 h
    obtain ⟨rest, hrest, h⟩ := bind_eq_ok.1 h
    rw [← Except.ok.inj h, openHandle_eq (mapError_eq_ok.1 hopen), ih hrest, List.zipIdx_cons,
      List.flatMap_cons]
    rfl

/-- The adapter and the disks, if there are any. -/
def drivesWith (inv : Invocation) (handle : String → Nat → Handle) : List Device :=
  if inv.drives.isEmpty then []
  else .scsiAdapter adapter :: inv.drives.zipIdx.flatMap fun p ↦ disk (handle p.1 p.2) p.2

theorem driveDevices_eq {ds : List Device} (h : inv.driveDevices host = .ok ds) :
    ds = inv.drivesWith fun path _ ↦ fileHandle path := by
  rw [driveDevices] at h
  rw [drivesWith]
  by_cases hempty : inv.drives.isEmpty = true
  · rw [if_pos hempty] at h ⊢
    exact (Except.ok.inj h).symm
  · rw [if_neg hempty] at h ⊢
    obtain ⟨disks, hdisks, h⟩ := bind_eq_ok.1 h
    rw [← Except.ok.inj h, disksFrom_eq hdisks]

/-! ### Numbers -/

/-- The handle at a position, with its number. -/
def numbered (position : Nat) (h : Handle) : Handle :=
  h.withIndex (Handle.firstIndex + position)

theorem handles_disk (handle : Handle) (index : Nat) :
    (disk handle index).flatMap Leaf.handles = [handle] := by
  cases hformat : isQcow2 handle.name <;>
    simp [disk, diskDevices, hformat, Leaf.handles, Device.handles]

theorem mapLeavesFrom_disk (start : Nat) (handle : Handle) (index : Nat) :
    DeviceTree.mapLeavesFrom numbered start (disk handle index) =
      disk (numbered start handle) index := by
  have hname : (numbered start handle).name = handle.name := rfl
  rw [disk, disk, hname]
  cases isQcow2 handle.name <;> rfl

/-- The files of disks are numbered in order. -/
theorem mapLeavesFrom_disks (start index : Nat) (paths : List String) :
    DeviceTree.mapLeavesFrom numbered (start + index)
        ((paths.zipIdx index).flatMap fun p ↦ disk (fileHandle p.1) p.2) =
      (paths.zipIdx index).flatMap fun p ↦ disk (numbered (start + p.2) (fileHandle p.1)) p.2 := by
  induction paths generalizing index with
  | nil => rfl
  | cons path paths ih =>
    rw [List.zipIdx_cons, List.flatMap_cons, List.flatMap_cons, DeviceTree.mapLeavesFrom_append,
      mapLeavesFrom_disk, handles_disk]
    exact congrArg _ (ih (index + 1))

theorem handles_disks (index : Nat) (paths : List String) (handle : String → Nat → Handle) :
    ((paths.zipIdx index).flatMap fun p ↦ disk (handle p.1 p.2) p.2).flatMap Leaf.handles =
      (paths.zipIdx index).map fun p ↦ handle p.1 p.2 := by
  rw [List.flatMap_assoc]
  simp only [handles_disk]
  exact List.map_eq_flatMap.symm

/-! ### The machine -/

/-- The devices of an invocation without helper programs, with handles for the files of its
disks. -/
def devicesWith (inv : Invocation) (host : Host) (s : MachineSettings) (kernels : List Device)
    (handle : String → Nat → Handle) : List Device :=
  inv.identityDevices host ++ inv.coreDevices s ++ kernels ++ inv.drivesWith handle ++
    inv.userNetworkDevices

variable {s : Settings} {m : Machine}

/-- The devices of any invocation, in order. -/
theorem exists_leaves_machine (hm : inv.machine host s = .ok m) :
    ∃ kernel drives bridge tpm, inv.kernelDevices host = .ok kernel ∧
      inv.driveDevices host = .ok drives ∧ inv.bridgeDevices host = .ok bridge ∧
      inv.tpmDevices host = .ok tpm ∧
      m.tree.leaves = inv.identityDevices host ++ inv.coreDevices s.machine ++ kernel ++ drives ++
        inv.userNetworkDevices ++ bridge ++ tpm := by
  obtain ⟨empty, hempty, hm⟩ := bind_eq_ok.1 hm
  obtain ⟨kernel, hkernel, hm⟩ := bind_eq_ok.1 hm
  obtain ⟨drives, hdrives, hm⟩ := bind_eq_ok.1 hm
  obtain ⟨bridge, hbridge, hm⟩ := bind_eq_ok.1 hm
  obtain ⟨tpm, htpm, hm⟩ := bind_eq_ok.1 hm
  obtain ⟨binary, -, hempty⟩ := bind_eq_ok.1 (mapError_eq_ok.1 hempty)
  obtain rfl := Except.ok.inj hempty
  refine ⟨kernel, drives, bridge, tpm, hkernel, hdrives, hbridge, htpm, ?_⟩
  rw [← Except.ok.inj hm, Machine.leaves_addAll]
  rfl

theorem leaves_machine (hlocal : inv.BootsLocally) (hbridge : inv.bridge = none)
    (htpm : inv.tpm = none) (hm : inv.machine host s = .ok m) :
    m.tree.leaves = inv.devicesWith host s.machine
      (inv.kernel.toList.map fun path ↦ .kernel (inv.openedKernel path))
      fun path _ ↦ fileHandle path := by
  obtain ⟨kernel, drives, bridge, tpm, hkernel, hdrives, hb, ht, hleaves⟩ :=
    exists_leaves_machine hm
  obtain rfl : bridge = [] := by
    rw [bridgeDevices, hbridge] at hb
    exact (Except.ok.inj hb).symm
  obtain rfl : tpm = [] := by
    rw [tpmDevices, htpm] at ht
    exact (Except.ok.inj ht).symm
  rw [hleaves, kernelDevices_eq hlocal hkernel, driveDevices_eq hdrives, List.append_nil,
    List.append_nil, devicesWith]

/-- What comes before the kernel: the identity of the guest, memory, processors, their model and
acceleration. -/
theorem cases_of_mem_front {inv : Invocation} {host : Host} {s : MachineSettings} {d : Device}
    (hd : d ∈ inv.identityDevices host ++ inv.coreDevices s) :
    (∃ i, d = .identity i) ∨ (∃ size, d = .memory { size }) ∨
      (∃ cpus, d = .processors { cpus := some cpus }) ∨ (∃ model, d = .processorModel model) ∨
      d = .acceleration := by
  rcases List.mem_append.1 hd with hd | hd
  · obtain ⟨name, -, rfl⟩ := List.mem_map.1 hd
    exact .inl ⟨_, rfl⟩
  · rw [coreDevices, List.mem_append, List.mem_append] at hd
    rcases hd with (hd | hd) | hd
    · rcases List.mem_pair.1 hd with rfl | rfl
      · exact .inr (.inl ⟨_, rfl⟩)
      · exact .inr (.inr (.inl ⟨_, rfl⟩))
    · obtain ⟨model, -, rfl⟩ := List.mem_map.1 hd
      exact .inr (.inr (.inr (.inl ⟨model, rfl⟩)))
    · split at hd
      · exact .inr (.inr (.inr (.inr (List.mem_singleton.1 hd))))
      · cases hd

theorem handles_of_mem_front {inv : Invocation} {host : Host} {s : MachineSettings} :
    ∀ d ∈ inv.identityDevices host ++ inv.coreDevices s, d.handles = [] := by
  intro d hd
  rcases cases_of_mem_front hd with ⟨_, rfl⟩ | ⟨_, rfl⟩ | ⟨_, rfl⟩ | ⟨_, rfl⟩ | rfl <;> rfl

theorem handles_front (inv : Invocation) (host : Host) (s : MachineSettings) :
    (inv.identityDevices host ++ inv.coreDevices s).flatMap Leaf.handles = [] :=
  List.flatMap_eq_nil_iff.2 handles_of_mem_front

theorem handles_of_mem_userNetwork : ∀ d ∈ inv.userNetworkDevices, d.handles = [] := by
  intro d hd
  rw [userNetworkDevices] at hd
  split at hd
  · rcases List.mem_pair.1 hd with rfl | rfl <;> rfl
  · cases hd

theorem handles_userNetwork (inv : Invocation) :
    inv.userNetworkDevices.flatMap Leaf.handles = [] :=
  List.flatMap_eq_nil_iff.2 handles_of_mem_userNetwork

theorem handles_drivesWith (inv : Invocation) (handle : String → Nat → Handle) :
    (inv.drivesWith handle).flatMap Leaf.handles =
      inv.drives.zipIdx.map fun p ↦ handle p.1 p.2 := by
  rw [drivesWith]
  split
  · rename_i hempty
    rw [List.isEmpty_iff.1 hempty]
    rfl
  · rw [List.flatMap_cons, handles_disks]
    rfl

theorem mapLeavesFrom_drivesWith (inv : Invocation) (start : Nat) :
    DeviceTree.mapLeavesFrom numbered start (inv.drivesWith fun path _ ↦ fileHandle path) =
      inv.drivesWith fun path i ↦ numbered (start + i) (fileHandle path) := by
  rw [drivesWith, drivesWith]
  split
  · rfl
  · exact congrArg _ (mapLeavesFrom_disks start 0 inv.drives)

section Kernel

variable (hrequires : inv.initrd.isSome → inv.kernel.isSome)
include hrequires

theorem handles_kernels :
    (inv.kernel.toList.map fun path ↦ Device.kernel (inv.openedKernel path)).flatMap
      Leaf.handles = inv.bootFiles.map fileHandle := by
  rw [bootFiles]
  cases hpath : inv.kernel with
  | none =>
    have hinitrd : inv.initrd = none := by
      simpa [hpath] using hrequires
    rw [hinitrd]
    rfl
  | some path =>
    simp [Leaf.handles, Device.handles, LinuxKernel.handles, openedKernel, Option.toList_map]

/-- The handles of an invocation without helper programs: the files to boot from, then those of the
disks. -/
theorem handles_machine (hlocal : inv.BootsLocally) (hbridge : inv.bridge = none)
    (htpm : inv.tpm = none) (hm : inv.machine host s = .ok m) :
    m.tree.handles = (inv.bootFiles ++ inv.drives).map fileHandle := by
  have hdrives : inv.drives.zipIdx.map (fun p ↦ fileHandle p.1) = inv.drives.map fileHandle := by
    show inv.drives.zipIdx.map (fileHandle ∘ Prod.fst) = _
    rw [← List.map_map, List.zipIdx_map_fst]
  rw [DeviceTree.handles_eq_flatMap, leaves_machine hlocal hbridge htpm hm, devicesWith,
    List.flatMap_append, List.flatMap_append, List.flatMap_append, handles_front,
    handles_userNetwork, handles_kernels hrequires, handles_drivesWith, hdrives, List.nil_append,
    List.append_nil, List.map_append]

/-- The devices of an invocation without helper programs, once they are numbered. -/
theorem leaves_allocated (hlocal : inv.BootsLocally) (hbridge : inv.bridge = none)
    (htpm : inv.tpm = none) (hm : inv.machine host s = .ok m) :
    m.allocated.tree.leaves = inv.devicesWith host s.machine
      (inv.kernel.toList.map fun path ↦ (Device.kernel (inv.openedKernel path)).numberedFrom 3)
      fun path i ↦ numbered (inv.bootFiles.length + i) (fileHandle path) := by
  have hkernels : DeviceTree.mapLeavesFrom numbered 0
      (inv.kernel.toList.map fun path ↦ .kernel (inv.openedKernel path)) =
        inv.kernel.toList.map fun path ↦
          (Device.kernel (inv.openedKernel path)).numberedFrom 3 := by
    cases inv.kernel with
    | none => rfl
    | some path =>
      show [Device.mapHandles (fun position ↦ numbered (0 + position)) _] = [_]
      simp only [Nat.zero_add]
      rfl
  have hboot : (inv.identityDevices host ++ inv.coreDevices s.machine ++
      inv.kernel.toList.map fun path ↦ Device.kernel (inv.openedKernel path)).flatMap
        Leaf.handles = inv.bootFiles.map fileHandle := by
    rw [List.flatMap_append, handles_front, handles_kernels hrequires, List.nil_append]
  rw [Machine.leaves_allocated, leaves_machine hlocal hbridge htpm hm]
  show DeviceTree.mapLeavesFrom numbered 0 _ = _
  rw [devicesWith, devicesWith, DeviceTree.mapLeavesFrom_append, DeviceTree.mapLeavesFrom_append,
    DeviceTree.mapLeavesFrom_append,
    DeviceTree.mapLeavesFrom_of_handles_eq_nil _ _ handles_of_mem_front,
    DeviceTree.mapLeavesFrom_of_handles_eq_nil _ _ handles_of_mem_userNetwork, handles_front, hboot,
    List.length_map, List.length_nil, Nat.zero_add, Nat.zero_add, hkernels,
    mapLeavesFrom_drivesWith]

end Kernel

end Invocation

end MachineArgs
