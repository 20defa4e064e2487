import Mathlib.Algebra.Group.Nat.Defs
import Mathlib.Data.List.Nodup
import MachineArgs.Proofs.Device.Slots
import MachineArgs.Proofs.DeviceTree.Failure
import MachineArgs.Proofs.Invocation.Devices

/-!
# Wiring of an invocation

The devices of an invocation refer to each other by names that are made up on the way: a disk is a
chain of three devices, the guest's end of which sits on an adapter, and a network card sits on a
backend. A name that is given twice, or that is used before it is given, would attach a disk to the
wrong file, and nothing compares the names at run time.

`describe_isWired` says that the names and the numbers of the handles line up for every invocation
without helper programs that boots from files of the host, on every host and however many disks
there are (`IsWired`). Names are told apart by their labels (`numberedName_injOn`): all stems are
free of digits, so a name says where its number starts. That references look back is an invariant of
rows of devices (`RefersBack`), which is kept as each disk is appended (`refersBack_disks`).
-/

namespace MachineArgs

open Handle (pathOf)

/-! ### Numbered names -/

/-- A name with a number at its end. -/
def numberedName (label : String × Nat) : String :=
  label.1 ++ toString label.2

/-- A stem of names, which has no digits. -/
def IsStem (stem : String) : Prop :=
  (stem.toList.all fun c ↦ !c.isDigit) = true

/-- Names with numbers differ if their stems or their numbers do. -/
theorem numberedName_injOn {label label' : String × Nat} (hstem : IsStem label.1)
    (hstem' : IsStem label'.1) (h : numberedName label = numberedName label') :
    label = label' := by
  obtain ⟨stem, n⟩ := label
  obtain ⟨stem', n'⟩ := label'
  have hlists : stem.toList ++ Nat.toDigits 10 n = stem'.toList ++ Nat.toDigits 10 n' := by
    have := congrArg String.toList h
    rwa [numberedName, numberedName, String.toList_append, String.toList_append,
      Nat.toString_eq_repr, Nat.toString_eq_repr, Nat.toList_repr, Nat.toList_repr] at this
  -- the stem is what stands before the first digit
  have htake : ∀ {cs : List Char} (n : Nat), (cs.all fun c ↦ !c.isDigit) = true →
      (cs ++ Nat.toDigits 10 n).takeWhile (!·.isDigit) = cs := by
    intro cs n hcs
    have hdigits : (Nat.toDigits 10 n).takeWhile (!·.isDigit) = [] := by
      cases hn : Nat.toDigits 10 n with
      | nil => rfl
      | cons c digits =>
        have hc : c.isDigit = true :=
          Nat.isDigit_of_mem_toDigits (by decide) (by decide) (hn ▸ List.mem_cons_self)
        rw [List.takeWhile_cons_of_neg (by simp [hc])]
    rw [List.takeWhile_append_of_pos (List.all_eq_true.1 hcs), hdigits, List.append_nil]
  have hstems : stem.toList = stem'.toList := by
    rw [← htake n hstem, hlists, htake n' hstem']
  rw [hstems, List.append_cancel_left_eq] at hlists
  have hnumbers : n = n' := by
    rw [← Nat.ofDigitChars_ten_toDigits (n := n), hlists, Nat.ofDigitChars_ten_toDigits]
  rw [String.toList_inj.1 hstems, hnumbers]

/-! ### Wired devices -/

/-- Every reference of devices in a row is to an identity that is known before, or that a device
before it defines. -/
def RefersBack (known : List String) : List Device → Prop
  | [] => True
  | d :: ds => (∀ r ∈ d.references, r ∈ known) ∧ RefersBack (known ++ d.identities) ds

namespace RefersBack

variable {known : List String} {ds ds' : List Device}

theorem append (h : RefersBack known ds)
    (h' : RefersBack (known ++ ds.flatMap Device.identities) ds') :
    RefersBack known (ds ++ ds') := by
  induction ds generalizing known with
  | nil => simpa using h'
  | cons d ds ih =>
    rw [List.flatMap_cons, ← List.append_assoc] at h'
    exact ⟨h.1, ih h.2 h'⟩

/-- Devices without references refer back. -/
theorem of_references_eq_nil (h : ∀ d ∈ ds, d.references = []) : RefersBack known ds := by
  induction ds generalizing known with
  | nil => exact trivial
  | cons d ds ih =>
    rw [List.forall_mem_cons] at h
    exact ⟨by simp [h.1], ih h.2⟩

/-- What a device refers to is known before or defined by a device before it. -/
theorem mem_of_mem_references (h : RefersBack known ds) {before after : List Device} {d : Device}
    (hsplit : ds = before ++ d :: after) {r : String} (hr : r ∈ d.references) :
    r ∈ known ++ before.flatMap Device.identities := by
  induction before generalizing known ds with
  | nil =>
    subst hsplit
    simpa using h.1 r hr
  | cons d' before ih =>
    subst hsplit
    rw [List.flatMap_cons, ← List.append_assoc]
    exact ih h.2 rfl

end RefersBack

namespace Invocation

variable {inv : Invocation} {host : Host} {s : MachineSettings}

/-! ### Devices that wire nothing -/

theorem isLoose_of_mem_front : ∀ d ∈ inv.identityDevices host ++ inv.coreDevices s, d.IsLoose := by
  intro d hd slot hslot
  rcases cases_of_mem_front hd with ⟨i, rfl⟩ | ⟨size, rfl⟩ | ⟨cpus, rfl⟩ | ⟨model, rfl⟩ | rfl
  · rw [Identity.slots_eq, List.mem_append, List.mem_map, List.mem_map] at hslot
    rcases hslot with ⟨text, -, rfl⟩ | ⟨text, -, rfl⟩ <;> exact Slot.isLoose_bare text
  · rw [Memory.slots_eq] at hslot
    split at hslot
    · cases hslot
    · rw [List.mem_singleton.1 hslot]
      exact ⟨rfl, rfl, rfl⟩
  · rw [Processors.slots_eq, List.mem_singleton] at hslot
    rw [hslot]
    exact ⟨rfl, rfl, rfl⟩
  · cases hslot
  · cases hslot

/-- The text of the kernel's command line, if it has any words. -/
def appendText? (inv : Invocation) : Option String :=
  LinuxKernel.appendText? { cmdline := inv.append.elim [] Text.wordsOf }

/-- The slots of a kernel: descriptor 3, the next one for a ramdisk, and its command line. -/
def kernelSlots (inv : Invocation) : List (String × Slot) :=
  ("kernel", .bare (pathOf 3)) :: inv.initrd.toList.map (fun _ ↦ ("initrd", .bare (pathOf 4))) ++
    inv.appendText?.toList.map fun text ↦ ("append", .bare text)

theorem slots_kernel (path : String) :
    ((Device.kernel (inv.openedKernel path)).numberedFrom 3).slots = inv.kernelSlots := by
  refine (LinuxKernel.slots_eq (LinuxKernel.path?_of_numbered _ 3)).trans ?_
  rw [kernelSlots]
  cases hinitrd : inv.initrd <;> simp [openedKernel, hinitrd] <;> rfl

theorem isLoose_kernel (path : String) :
    ((Device.kernel (inv.openedKernel path)).numberedFrom 3).IsLoose := by
  intro slot hslot
  rw [slots_kernel, kernelSlots, List.mem_append, List.mem_cons, List.mem_map, List.mem_map]
    at hslot
  rcases hslot with (rfl | ⟨_, -, rfl⟩) | ⟨_, -, rfl⟩ <;> exact Slot.isLoose_bare _

/-! ### Disks -/

/-- The slots of the node for the file of a disk. -/
def fileSlots (path : String) (i : Nat) : List (String × Slot) :=
  [("blockdev", .keyed "driver" "file"), ("blockdev", .keyed "node-name" ("file" ++ toString i)),
   ("blockdev", .keyed "filename" path)]

/-- The slots of the node for the format of a disk. -/
def formatSlots (driver : String) (i : Nat) : List (String × Slot) :=
  [("blockdev", .keyed "driver" driver), ("blockdev", .keyed "node-name" ("disk" ++ toString i)),
   ("blockdev", .keyed "file" ("file" ++ toString i))]

/-- The slots of what the guest sees of a disk. The first disk boots. -/
def frontSlots (i : Nat) : List (String × Slot) :=
  [("device", .bare "scsi-hd"), ("device", .keyed "id" ("hd" ++ toString i)),
   ("device", .keyed "drive" ("disk" ++ toString i)), ("device", .keyed "bus" "scsi0.0")] ++
    (if i = 0 then [("device", .keyed "bootindex" "0")] else []) ++
    [("device", .keyed "scsi-id" (toString i))]

/-- The labels of the identities of a disk. -/
def diskLabels (i : Nat) : List (String × Nat) :=
  [("file", i), ("disk", i), ("hd", i)]

/-- The driver for the format of an image, by its name. -/
def formatDriver (path : String) : String :=
  if isQcow2 path then "qcow2" else "raw"

section Disk

variable {handle : Handle} {path : String} {i : Nat}

/-- A disk is made of three devices that go down to the descriptor of its file. -/
theorem disk_eq (hpath : handle.path? = some path) (hi : i < 2 ^ 32) :
    ∃ file format front, disk handle i = [file, format, front] ∧ file.slots = fileSlots path i ∧
      format.slots = formatSlots (formatDriver handle.name) i ∧ front.slots = frontSlots i := by
  have hfile : "file" ++ toString i ≠ "" := by simp
  have hformat : "disk" ++ toString i ≠ "" := by simp
  have hfront : "hd" ++ toString i ≠ "" := by simp
  have htarget : i % Text.capacity 32 = i := Nat.mod_eq_of_lt hi
  refine ⟨_, _, _, rfl, FileNode.slots_eq hfile hpath, ?_, ?_⟩
  · rw [formatDriver]
    split
    · exact Qcow2Node.slots_eq hformat hfile
    · exact RawNode.slots_eq hformat hfile
  · refine (StorageDevice.slots_eq _ _ hfront hformat (by decide)).trans ?_
    rw [htarget, frontSlots]
    by_cases hzero : i = 0 <;> simp only [hzero, if_true, if_false] <;> rfl

variable (hpath : handle.path?.isSome) (hi : i < 2 ^ 32)
include hpath hi

/-- What the guest sees of a disk refers to the node for its format, and this to the node for its
file. -/
theorem wires_disk : ∃ file format front, disk handle i = [file, format, front] ∧
    file.Wires ["file" ++ toString i] [] [] ∧
    format.Wires ["disk" ++ toString i] ["file" ++ toString i] [] ∧
    front.Wires ["hd" ++ toString i] ["disk" ++ toString i, "scsi0"]
      (if i = 0 then ["0"] else []) := by
  obtain ⟨path, hpath⟩ := Option.isSome_iff_exists.1 hpath
  obtain ⟨file, format, front, hdisk, hfile, hformat, hfront⟩ := disk_eq hpath hi
  refine ⟨file, format, front, hdisk, Device.wires_of_slots hfile, Device.wires_of_slots hformat,
    ?_⟩
  by_cases hzero : i = 0
  · rw [frontSlots, if_pos hzero] at hfront
    rw [if_pos hzero]
    exact Device.wires_of_slots hfront
  · rw [frontSlots, if_neg hzero] at hfront
    rw [if_neg hzero]
    exact Device.wires_of_slots hfront

theorem identities_disk : (disk handle i).flatMap Device.identities =
    (diskLabels i).map numberedName := by
  obtain ⟨file, format, front, hdisk, hfile, hformat, hfront⟩ := wires_disk hpath hi
  rw [hdisk, List.flatMap_cons, List.flatMap_cons, List.flatMap_singleton, hfile.identities_eq,
    hformat.identities_eq, hfront.identities_eq]
  rfl

theorem refersBack_disk {known : List String} (hadapter : "scsi0" ∈ known) :
    RefersBack known (disk handle i) := by
  obtain ⟨file, format, front, hdisk, hfile, hformat, hfront⟩ := wires_disk hpath hi
  rw [hdisk, RefersBack, RefersBack, RefersBack, RefersBack, hfile.references_eq,
    hfile.identities_eq, hformat.references_eq, hformat.identities_eq, hfront.references_eq]
  simp [hadapter]

theorem bootIndices_disk : (disk handle i).flatMap Device.bootIndices =
    if i = 0 then ["0"] else [] := by
  obtain ⟨file, format, front, hdisk, hfile, hformat, hfront⟩ := wires_disk hpath hi
  rw [hdisk, List.flatMap_cons, List.flatMap_cons, List.flatMap_singleton, hfile.bootIndices_eq,
    hformat.bootIndices_eq, hfront.bootIndices_eq]
  rfl

end Disk

/-! ### Rows of disks -/

section Disks

variable {handle : String → Nat → Handle} (hpath : ∀ path i, (handle path i).path?.isSome)
include hpath

theorem identities_disks {paths : List String} (hlength : paths.length < 2 ^ 32) :
    (paths.zipIdx.flatMap fun p ↦ disk (handle p.1 p.2) p.2).flatMap Device.identities =
      ((List.range paths.length).flatMap diskLabels).map numberedName := by
  have hindices : paths.zipIdx.map Prod.snd = List.range paths.length := by
    rw [List.zipIdx_map_snd, List.range_eq_range']
  rw [List.flatMap_assoc, ← hindices, List.flatMap_map, List.map_flatMap]
  refine List.flatMap_congr fun p hp ↦ identities_disk (hpath _ _) ?_
  have hlt := List.snd_lt_of_mem_zipIdx hp
  omega

theorem refersBack_disks {known : List String} (hadapter : "scsi0" ∈ known) {index : Nat}
    {paths : List String} (hlength : index + paths.length < 2 ^ 32) :
    RefersBack known ((paths.zipIdx index).flatMap fun p ↦ disk (handle p.1 p.2) p.2) := by
  induction paths generalizing known index with
  | nil => exact trivial
  | cons path paths ih =>
    rw [List.length_cons] at hlength
    rw [List.zipIdx_cons, List.flatMap_cons]
    -- A disk refers to nothing outside itself but the adapter, which stays known.
    exact (refersBack_disk (hpath _ _) (by omega) hadapter).append
      (ih (List.mem_append_left _ hadapter) (by omega))

/-- No disk boots but the first one. -/
theorem bootIndices_disks {paths : List String} (hlength : paths.length < 2 ^ 32) :
    (paths.zipIdx.flatMap fun p ↦ disk (handle p.1 p.2) p.2).flatMap Device.bootIndices =
      paths.head?.toList.map fun _ ↦ "0" := by
  cases paths with
  | nil => rfl
  | cons path paths =>
    rw [List.length_cons] at hlength
    have hrest : ((paths.zipIdx 1).flatMap fun p ↦ disk (handle p.1 p.2) p.2).flatMap
        Device.bootIndices = [] := by
      rw [List.flatMap_assoc, List.flatMap_eq_nil_iff]
      intro p hp
      have hpos := List.le_snd_of_mem_zipIdx hp
      have hlt := List.snd_lt_of_mem_zipIdx hp
      rw [bootIndices_disk (hpath _ _) (by omega), if_neg (by omega)]
    rw [List.zipIdx_cons, List.flatMap_cons, List.flatMap_append,
      bootIndices_disk (hpath _ _) (by omega), hrest]
    rfl

end Disks

/-! ### All devices -/

/-- The labels of the identities of the adapter and the disks. -/
def driveLabels (inv : Invocation) : List (String × Nat) :=
  if inv.drives.isEmpty then []
  else ("scsi", 0) :: (List.range inv.drives.length).flatMap diskLabels

/-- The labels of the identities of the network. -/
def networkLabels (inv : Invocation) : List (String × Nat) :=
  if inv.userNetwork then [("net", 0)] else []

/-- The labels of all identities. -/
def labels (inv : Invocation) : List (String × Nat) :=
  inv.driveLabels ++ inv.networkLabels

theorem isStem_of_mem_labels {label : String × Nat} (h : label ∈ inv.labels) :
    IsStem label.1 := by
  rw [labels, List.mem_append, driveLabels, networkLabels] at h
  rcases h with h | h
  · split at h
    · cases h
    · rcases List.mem_cons.1 h with rfl | h
      · exact (rfl : IsStem "scsi")
      · obtain ⟨i, -, h⟩ := List.mem_flatMap.1 h
        simp only [diskLabels, List.mem_cons, List.not_mem_nil, or_false] at h
        rcases h with rfl | rfl | rfl
        exacts [(rfl : IsStem "file"), (rfl : IsStem "disk"), (rfl : IsStem "hd")]
  · split at h
    · rw [List.mem_singleton.1 h]
      exact (rfl : IsStem "net")
    · cases h

theorem nodup_labels : inv.labels.Nodup := by
  -- Disks differ in their numbers, and whatever else there is differs in its stem.
  have hdisks : ((List.range inv.drives.length).flatMap diskLabels).Nodup := by
    rw [List.nodup_flatMap]
    refine ⟨fun i _ ↦ by simp [diskLabels], List.nodup_range.imp fun {i j} hne ↦ ?_⟩
    simp [Function.onFun, diskLabels, hne.symm]
  have hadapter : ∀ i, ("scsi", 0) ∉ diskLabels i := by simp [diskLabels]
  have hnetwork : ∀ i, ("net", 0) ∉ diskLabels i := by simp [diskLabels]
  rw [labels, driveLabels, networkLabels, List.nodup_append_comm]
  split <;> split <;> simp [hdisks, hadapter, hnetwork]

section Adapter

variable {handle : String → Nat → Handle} (hpath : ∀ path i, (handle path i).path?.isSome)
variable (hlength : inv.drives.length < 2 ^ 32)

theorem wires_adapter : (Device.scsiAdapter adapter).Wires ["scsi0"] [] [] :=
  Device.wires_of_slots (ScsiAdapter.slots_eq (by decide))

include hpath hlength

theorem identities_drivesWith :
    (inv.drivesWith handle).flatMap Device.identities = inv.driveLabels.map numberedName := by
  rw [drivesWith, driveLabels]
  split
  · rfl
  · rw [List.flatMap_cons, identities_disks hpath hlength, wires_adapter.identities_eq]
    rfl

theorem refersBack_drivesWith (known : List String) :
    RefersBack known (inv.drivesWith handle) := by
  rw [drivesWith]
  split
  · exact trivial
  · rw [RefersBack, wires_adapter.identities_eq, wires_adapter.references_eq]
    exact ⟨by simp, refersBack_disks hpath (by simp) (by omega)⟩

theorem bootIndices_drivesWith : (inv.drivesWith handle).flatMap Device.bootIndices =
    inv.drives.head?.toList.map fun _ ↦ "0" := by
  rw [drivesWith]
  split
  · rename_i hempty
    rw [List.isEmpty_iff.1 hempty]
    rfl
  · rw [List.flatMap_cons, bootIndices_disks hpath hlength, wires_adapter.bootIndices_eq]
    rfl

end Adapter

section Network

/-- The backend defines one name. Its forwards wire nothing. -/
theorem wires_network :
    (Device.userNetwork { name := networkName, hostForwards := inv.forwards }).Wires
      ["net0"] [] [] := by
  have hforwards : ∀ f : Slot → Option String, (∀ s, f (.keyed "hostfwd" s) = none) →
      (inv.forwards.map fun s ↦ ("netdev", Slot.keyed "hostfwd" s)).filterMap
        (fun s ↦ f s.2) = [] := by
    intro f hf
    rw [List.filterMap_map, List.filterMap_eq_nil_iff]
    exact fun s _ ↦ hf s
  have hwires := Device.wires_of_slots
    (UserNetwork.slots_eq (by decide : networkName ≠ "") inv.forwards)
  rw [List.filterMap_append, List.filterMap_append, List.filterMap_append,
    hforwards Slot.identity? fun _ ↦ rfl, hforwards Slot.reference? fun _ ↦ rfl,
    hforwards Slot.bootIndex? fun _ ↦ rfl] at hwires
  exact hwires

/-- The card refers to the backend. -/
theorem wires_card : card.Wires [] ["net0"] [] :=
  Device.wires_of_slots (NetworkCard.slots_eq (by decide) (by decide))

theorem identities_userNetwork :
    inv.userNetworkDevices.flatMap Device.identities = inv.networkLabels.map numberedName := by
  rw [userNetworkDevices, networkLabels]
  split
  · rw [List.flatMap_cons, List.flatMap_singleton, wires_network.identities_eq,
      wires_card.identities_eq]
    rfl
  · rfl

theorem refersBack_userNetwork (known : List String) :
    RefersBack known inv.userNetworkDevices := by
  rw [userNetworkDevices]
  split
  · rw [RefersBack, RefersBack, RefersBack, wires_network.references_eq,
      wires_network.identities_eq, wires_card.references_eq]
    simp
  · exact trivial

theorem bootIndices_userNetwork : inv.userNetworkDevices.flatMap Device.bootIndices = [] := by
  rw [userNetworkDevices]
  split
  · rw [List.flatMap_cons, List.flatMap_singleton, wires_network.bootIndices_eq,
      wires_card.bootIndices_eq]
    rfl
  · rfl

end Network

/-- How the devices `ds` of an invocation are wired together. -/
structure IsWired (inv : Invocation) (ds : List Device) : Prop where
  /-- No identity is defined twice. -/
  nodup_identities : (ds.flatMap Device.identities).Nodup
  /-- What a device refers to is defined by a device before it, and nowhere else. -/
  refers : ∀ before d after, ds = before ++ d :: after → ∀ r ∈ d.references,
    r ∈ before.flatMap Device.identities ∧ (ds.flatMap Device.identities).count r = 1
  /-- The kernel boots from the first descriptors. -/
  kernel : ∀ path, inv.kernel = some path → ∃ d ∈ ds, d.slots = inv.kernelSlots
  /-- Each disk goes down to the descriptor of its own file. -/
  disk : ∀ i path, inv.drives[i]? = some path → ∃ before file format front after,
    ds = before ++ [file, format, front] ++ after ∧
      file.slots = fileSlots (pathOf (3 + inv.bootFiles.length + i)) i ∧
      format.slots = formatSlots (formatDriver path) i ∧ front.slots = frontSlots i
  /-- The first disk is the only one to boot from. -/
  bootIndices : ds.flatMap Device.bootIndices = inv.drives.head?.toList.map fun _ ↦ "0"

section Devices

variable {kernels : List Device} {handle : String → Nat → Handle}
variable (hkernels : ∀ d ∈ kernels, d.IsLoose) (hpath : ∀ path i, (handle path i).path?.isSome)
variable (hlength : inv.drives.length < 2 ^ 32)
include hkernels

theorem isLoose_of_mem_boot :
    ∀ d ∈ inv.identityDevices host ++ inv.coreDevices s ++ kernels, d.IsLoose := by
  intro d hd
  rcases List.mem_append.1 hd with hd | hd
  exacts [isLoose_of_mem_front d hd, hkernels d hd]

include hpath hlength

theorem identities_devicesWith :
    (inv.devicesWith host s kernels handle).flatMap Device.identities =
      inv.labels.map numberedName := by
  have hboot : (inv.identityDevices host ++ inv.coreDevices s ++ kernels).flatMap
      Device.identities = [] :=
    List.flatMap_eq_nil_iff.2 fun d hd ↦ (isLoose_of_mem_boot hkernels d hd).wires.identities_eq
  rw [devicesWith, List.flatMap_append, List.flatMap_append, hboot,
    identities_drivesWith hpath hlength, identities_userNetwork, labels, List.map_append]
  rfl

theorem nodup_identities_devicesWith :
    ((inv.devicesWith host s kernels handle).flatMap Device.identities).Nodup := by
  rw [identities_devicesWith hkernels hpath hlength]
  exact nodup_labels.map_on fun _ h _ h' hname ↦
    numberedName_injOn (isStem_of_mem_labels h) (isStem_of_mem_labels h') hname

theorem refersBack_devicesWith : RefersBack [] (inv.devicesWith host s kernels handle) :=
  ((RefersBack.of_references_eq_nil fun d hd ↦
      (isLoose_of_mem_boot hkernels d hd).wires.references_eq).append
    (refersBack_drivesWith hpath hlength _)).append (refersBack_userNetwork _)

theorem bootIndices_devicesWith :
    (inv.devicesWith host s kernels handle).flatMap Device.bootIndices =
      inv.drives.head?.toList.map fun _ ↦ "0" := by
  have hboot : (inv.identityDevices host ++ inv.coreDevices s ++ kernels).flatMap
      Device.bootIndices = [] :=
    List.flatMap_eq_nil_iff.2 fun d hd ↦ (isLoose_of_mem_boot hkernels d hd).wires.bootIndices_eq
  rw [devicesWith, List.flatMap_append, List.flatMap_append, hboot,
    bootIndices_drivesWith hpath hlength, bootIndices_userNetwork, List.append_nil]
  rfl

end Devices

/-- The devices of a disk stand in a row. -/
theorem exists_disk {handle : String → Nat → Handle} {kernels : List Device} {i : Nat}
    {path : String} (hi : inv.drives[i]? = some path) : ∃ before after,
      inv.devicesWith host s kernels handle = before ++ disk (handle path i) i ++ after := by
  have hmem : (path, i) ∈ inv.drives.zipIdx := List.mem_zipIdx_iff_getElem?.2 hi
  have hne : ¬inv.drives.isEmpty = true := by
    intro hempty
    rw [List.isEmpty_iff.1 hempty] at hi
    cases hi
  obtain ⟨before, after, hsplit⟩ := List.append_of_mem hmem
  refine ⟨inv.identityDevices host ++ inv.coreDevices s ++ kernels ++ (.scsiAdapter adapter ::
      before.flatMap fun p ↦ disk (handle p.1 p.2) p.2),
    (after.flatMap fun p ↦ disk (handle p.1 p.2) p.2) ++ inv.userNetworkDevices, ?_⟩
  rw [devicesWith, drivesWith, if_neg hne, hsplit, List.flatMap_append, List.flatMap_cons]
  simp only [List.append_assoc, List.cons_append]

/-- The devices of an invocation are wired together once their handles are numbered. -/
theorem isWired_devicesWith (hlength : inv.drives.length < 2 ^ 32) :
    inv.IsWired (inv.devicesWith host s
      (inv.kernel.toList.map fun path ↦ (Device.kernel (inv.openedKernel path)).numberedFrom 3)
      fun path i ↦ numbered (inv.bootFiles.length + i) (fileHandle path)) := by
  have hkernels : ∀ d ∈ inv.kernel.toList.map fun path ↦
      (Device.kernel (inv.openedKernel path)).numberedFrom 3, d.IsLoose := by
    intro d hd
    obtain ⟨path, -, rfl⟩ := List.mem_map.1 hd
    exact isLoose_kernel path
  constructor
  case nodup_identities => exact nodup_identities_devicesWith hkernels (fun _ _ ↦ rfl) hlength
  case refers =>
    intro before d after hsplit r hr
    have hbefore := (refersBack_devicesWith hkernels (fun _ _ ↦ rfl) hlength).mem_of_mem_references
      hsplit hr
    refine ⟨hbefore, List.count_eq_one_of_mem
      (nodup_identities_devicesWith hkernels (fun _ _ ↦ rfl) hlength) ?_⟩
    rw [hsplit, List.flatMap_append]
    exact List.mem_append_left _ hbefore
  case kernel =>
    -- A kernel comes first of all that is opened, so its numbers do not depend on the disks.
    intro path hkernel
    refine ⟨_, ?_, slots_kernel path⟩
    simp [devicesWith, hkernel]
  case disk =>
    intro i path hi
    have hlt : i < 2 ^ 32 := by
      have := (List.getElem?_eq_some_iff.1 hi).1
      omega
    obtain ⟨before, after, hsplit⟩ := exists_disk hi
    have hpath : (numbered (inv.bootFiles.length + i) (fileHandle path)).path? =
        some (pathOf (3 + (inv.bootFiles.length + i))) := rfl
    obtain ⟨file, format, front, hdisk, hslots⟩ := disk_eq hpath hlt
    rw [Nat.add_assoc]
    exact ⟨before, file, format, front, after, hsplit.trans (by rw [hdisk]), hslots⟩
  case bootIndices => exact bootIndices_devicesWith hkernels (fun _ _ ↦ rfl) hlength

/-! ### Descriptions -/

/-- A description of an invocation without helper programs that boots from files of the host lists
these and the files of the disks, and their handles have the numbers from 3 on in the same order.
Its devices have option tables, and these are wired together: identities are different, every
reference is to an identity of an earlier device, and the kernel and each disk come down to the
descriptors of their own files. Whoever reads the words of an invocation has seen to it that a
ramdisk stands with a kernel. -/
theorem describe_isWired {inv : Invocation} {host : Host} {d : Description}
    (hrequires : inv.initrd.isSome → inv.kernel.isSome) (hlocal : inv.BootsLocally)
    (hbridge : inv.bridge = none) (htpm : inv.tpm = none) (hlength : inv.drives.length < 2 ^ 32)
    (hd : inv.describe host = .ok d) :
    ∃ s m, inv.settings host = .ok s ∧ inv.machine host s = .ok m ∧ m.describe = .ok d ∧
      d.resources = (inv.bootFiles ++ inv.drives).map .file ∧
      m.allocated.tree.handles = (inv.bootFiles ++ inv.drives).mapIdx
        (fun position path ↦ (fileHandle path).withIndex (3 + position)) ∧
      (∀ device ∈ m.allocated.tree.leaves, ∃ ts, device.tables = .ok ts) ∧
      inv.IsWired m.allocated.tree.leaves := by
  obtain ⟨s, hs, hd⟩ := bind_eq_ok.1 hd
  obtain ⟨m, hm, hd⟩ := bind_eq_ok.1 hd
  replace hd := mapError_eq_ok.1 hd
  have hhandles : m.allocated.tree.handles = (inv.bootFiles ++ inv.drives).mapIdx
      fun position path ↦ (fileHandle path).withIndex (3 + position) := by
    have hallocated : m.allocated.tree.handles = _ :=
      (congrArg DeviceTree.handles m.numbered_eq_numberFrom).trans
        (m.tree.handles_numberFrom Handle.firstIndex)
    rw [hallocated, handles_machine hrequires hlocal hbridge htpm hm]
    generalize inv.bootFiles ++ inv.drives = files
    apply List.ext_getElem <;> simp [Handle.firstIndex]
  obtain ⟨hresources, ws, hargs, -⟩ := Machine.assemble_eq_ok hd
  refine ⟨s, m, hs, hm, hd, ?_, hhandles, fun device hdevice ↦ ?_, ?_⟩
  · rw [hresources, hhandles]
    generalize inv.bootFiles ++ inv.drives = files
    -- A number is no part of what a handle refers to.
    apply List.ext_getElem <;> simp [Handle.withIndex, fileHandle, Handle.ofFile]
  · obtain ⟨chunk, hchunk⟩ := DeviceTree.leaf_args_of_args_eq_ok hargs device hdevice
    exact Device.exists_tables_of_args hchunk
  · rw [leaves_allocated hrequires hlocal hbridge htpm hm]
    exact isWired_devicesWith hlength

/-- A host without settings that opens every file. -/
def openHost : Host where
  openFile _ _ := .ok ()
  readText _ := .error "there are no settings"
  request _ := .error "there is no network"
  parseSettings _ := none
  splitWords _ := none
  hasPath _ := false
  settingsPath := "/etc/settings"
  tap _ := (.notStarted "there are no helpers", false)
  tpm := .notStarted "there are no helpers"

/-- An invocation with a kernel, a ramdisk, two disks and networking. -/
def twoDisks : Invocation where
  kernel := some "vmlinuz"
  initrd := some "initrd.img"
  drives := ["root.qcow2", "data.img"]
  userNetwork := true
  forwards := ["tcp::2222-:22"]

theorem twoDisks_isWired : twoDisks.BootsLocally ∧
    ∃ d s m, twoDisks.describe openHost = .ok d ∧ twoDisks.machine openHost s = .ok m ∧
      d.resources = ["vmlinuz", "initrd.img", "root.qcow2", "data.img"].map .file ∧
      twoDisks.IsWired m.allocated.tree.leaves := by
  have hlocal : twoDisks.BootsLocally := by
    show ∀ path ∈ ["vmlinuz", "initrd.img"], isRemote path = false
    decide
  have hsucceeds : (twoDisks.describe openHost).isOk = true := by decide +kernel
  refine ⟨hlocal, ?_⟩
  cases hd : twoDisks.describe openHost with
  | error e =>
    rw [hd] at hsucceeds
    cases hsucceeds
  | ok d =>
    obtain ⟨s, m, -, hm, -, hresources, -, -, hwired⟩ :=
      describe_isWired (fun _ ↦ rfl) hlocal rfl rfl (by decide) hd
    exact ⟨d, s, m, rfl, hm, hresources, hwired⟩

end Invocation

end MachineArgs
