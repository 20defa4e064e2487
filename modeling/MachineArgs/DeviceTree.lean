import MachineArgs.Device

/-!
# Device trees

Devices nest in groups whose entries may be absent. An absent entry contributes nothing but keeps
its place, so the positions in an error are those of the declaration.

What a tree does with its devices is the same for any kind of them: it asks for their arguments and
their handles, and changes the handles in place. These are the operations of a `Leaf`, and a tree is
made of leaves of any type that has them. The devices of the catalogue are such leaves, and they are
the ones that are meant unless another type is given.

The handles of a tree are those of its leaves from left to right. Numbering them gives consecutive
numbers along that order and replaces whatever numbers they had before: `numberFrom` in the natural
numbers, and `allocate` in machine words, which is the same unless the numbers run out
(`allocate_eq_numberFrom`).
-/

namespace MachineArgs

/-- What a tree can be made of. -/
class Leaf (δ : Type) where
  /-- The arguments of a leaf. -/
  args : δ → Except Error (List String)
  /-- The handles of a leaf, in order. -/
  handles : δ → List Handle
  /-- Applies a function to each handle of a leaf and its position among them. -/
  mapHandles : (Nat → Handle → Handle) → δ → δ
  /-- The handles after a change are the changed handles. -/
  handles_mapHandles : ∀ f d, handles (mapHandles f d) = (handles d).mapIdx f
  /-- Only what a change does to the handles of the leaf matters. -/
  mapHandles_congr : ∀ {f g d}, (∀ position handle, (handles d)[position]? = some handle →
    f position handle = g position handle) → mapHandles f d = mapHandles g d

instance : Leaf Device where
  args := Device.args
  handles := Device.handles
  mapHandles := Device.mapHandles
  handles_mapHandles := Device.handles_mapHandles
  mapHandles_congr := Device.mapHandles_congr

/-- A leaf, or a group of entries that may be absent. -/
inductive DeviceTree (δ : Type := Device) where
  /-- One leaf. -/
  | leaf (d : δ)
  /-- A group. -/
  | group (entries : List (Option (DeviceTree δ)))

namespace DeviceTree

variable {δ : Type}

mutual

/-- The present leaves from left to right. -/
def leaves : DeviceTree δ → List δ
  | leaf d => [d]
  | group entries => entriesLeaves entries

/-- The present leaves of entries. -/
def entriesLeaves : List (Option (DeviceTree δ)) → List δ
  | [] => []
  | none :: entries => entriesLeaves entries
  | some t :: entries => t.leaves ++ entriesLeaves entries

end

variable [Leaf δ]

mutual

/-- The arguments of all leaves in order. The first leaf that fails is reported, below the positions
of the entries that lead to it. -/
def args : DeviceTree δ → Except Error (List String)
  | leaf d => Leaf.args d
  | group entries => entriesArgs 0 entries

/-- The arguments of entries, the first of which has the given position. -/
def entriesArgs (position : Nat) : List (Option (DeviceTree δ)) → Except Error (List String)
  | [] => .ok []
  | none :: entries => entriesArgs (position + 1) entries
  | some t :: entries => do
    let here ← t.args.mapError (Error.child position)
    let rest ← entriesArgs (position + 1) entries
    return here ++ rest

end

mutual

/-- The handles of all leaves in order. -/
def handles : DeviceTree δ → List Handle
  | leaf d => Leaf.handles d
  | group entries => entriesHandles entries

/-- The handles of entries. -/
def entriesHandles : List (Option (DeviceTree δ)) → List Handle
  | [] => []
  | none :: entries => entriesHandles entries
  | some t :: entries => t.handles ++ entriesHandles entries

end

mutual

/-- Applies a function to each handle and its position, counted from `start`. -/
def mapHandlesFrom (f : Nat → Handle → Handle) (start : Nat) : DeviceTree δ → DeviceTree δ
  | leaf d => leaf (Leaf.mapHandles (fun position ↦ f (start + position)) d)
  | group entries => group (mapEntriesFrom f start entries)

/-- Applies a function to each handle of entries and its position, counted from `start`. -/
def mapEntriesFrom (f : Nat → Handle → Handle) (start : Nat) :
    List (Option (DeviceTree δ)) → List (Option (DeviceTree δ))
  | [] => []
  | none :: entries => none :: mapEntriesFrom f start entries
  | some t :: entries =>
    some (t.mapHandlesFrom f start) ::
      mapEntriesFrom f (start + t.handles.length) entries

end

/-- Applies a function to each handle and its position among the handles. -/
def mapHandles (f : Nat → Handle → Handle) (t : DeviceTree δ) : DeviceTree δ :=
  t.mapHandlesFrom f 0

/-- Numbers the handles in order from `first` on. -/
def numberFrom (first : Nat) (t : DeviceTree δ) : DeviceTree δ :=
  t.mapHandles fun position h ↦ h.withIndex (first + position)

/-- Numbers the handles in order from `offset` on, in machine words: a number beyond the greatest
wraps around. -/
def allocate (offset : Nat) (t : DeviceTree δ) : DeviceTree δ :=
  t.mapHandles fun position h ↦ h.withIndex (Handle.word (offset + position))

/-- Gives the handle at one position a number, which is a machine word, and leaves the others as
they are. -/
def setIndex (position index : Nat) (t : DeviceTree δ) : DeviceTree δ :=
  t.mapHandles fun p h ↦ if p = position then h.withIndex (Handle.word index) else h

/-! ### Handles -/

mutual

/-- The handles of a tree are those of its leaves in a row. -/
theorem handles_eq_flatMap : ∀ t : DeviceTree δ, t.handles = t.leaves.flatMap Leaf.handles
  | leaf d => by rw [handles, leaves, List.flatMap_singleton]
  | group entries => by
    rw [handles, leaves]
    exact entriesHandles_eq_flatMap entries

theorem entriesHandles_eq_flatMap : ∀ entries : List (Option (DeviceTree δ)),
    entriesHandles entries = (entriesLeaves entries).flatMap Leaf.handles
  | [] => rfl
  | none :: entries => by
    rw [entriesHandles, entriesLeaves]
    exact entriesHandles_eq_flatMap entries
  | some t :: entries => by
    rw [entriesHandles, entriesLeaves, List.flatMap_append, handles_eq_flatMap t,
      entriesHandles_eq_flatMap entries]

end

mutual

theorem handles_mapHandlesFrom (f : Nat → Handle → Handle) (start : Nat) :
    ∀ t : DeviceTree δ, (t.mapHandlesFrom f start).handles =
      t.handles.mapIdx fun position ↦ f (start + position)
  | leaf d => Leaf.handles_mapHandles _ d
  | group entries => by
    rw [mapHandlesFrom, handles, handles]
    exact entriesHandles_mapEntriesFrom f start entries

theorem entriesHandles_mapEntriesFrom (f : Nat → Handle → Handle) (start : Nat) :
    ∀ entries : List (Option (DeviceTree δ)), entriesHandles (mapEntriesFrom f start entries) =
      (entriesHandles entries).mapIdx fun position ↦ f (start + position)
  | [] => rfl
  | none :: entries => by
    rw [mapEntriesFrom, entriesHandles, entriesHandles]
    exact entriesHandles_mapEntriesFrom f start entries
  | some t :: entries => by
    rw [mapEntriesFrom, entriesHandles, entriesHandles, handles_mapHandlesFrom f start t,
      entriesHandles_mapEntriesFrom f (start + t.handles.length) entries, List.mapIdx_append]
    congr 2
    funext position
    rw [Nat.add_assoc, Nat.add_comm position]

end

/-- The handles after a change are the changed handles. -/
theorem handles_mapHandles (f : Nat → Handle → Handle) (t : DeviceTree δ) :
    (t.mapHandles f).handles = t.handles.mapIdx f := by
  simp [mapHandles, handles_mapHandlesFrom]

/-- Numbering gives each handle its position beyond the first number, whatever it had before. -/
theorem handles_numberFrom (first : Nat) (t : DeviceTree δ) :
    (t.numberFrom first).handles =
      t.handles.mapIdx fun position h ↦ h.withIndex (first + position) :=
  handles_mapHandles _ t

mutual

/-- Only what a change does to the handles of a tree matters. -/
theorem mapHandlesFrom_congr {f g : Nat → Handle → Handle} (start : Nat) :
    ∀ t : DeviceTree δ, (∀ position handle, t.handles[position]? = some handle →
      f (start + position) handle = g (start + position) handle) →
        t.mapHandlesFrom f start = t.mapHandlesFrom g start
  | leaf d, h => by
    rw [mapHandlesFrom, mapHandlesFrom]
    exact congrArg leaf (Leaf.mapHandles_congr h)
  | group entries, h => by
    rw [mapHandlesFrom, mapHandlesFrom]
    exact congrArg group (mapEntriesFrom_congr start entries h)

theorem mapEntriesFrom_congr {f g : Nat → Handle → Handle} (start : Nat) :
    ∀ entries : List (Option (DeviceTree δ)),
      (∀ position handle, (entriesHandles entries)[position]? = some handle →
        f (start + position) handle = g (start + position) handle) →
          mapEntriesFrom f start entries = mapEntriesFrom g start entries
  | [], _ => rfl
  | none :: entries, h => by
    rw [mapEntriesFrom, mapEntriesFrom]
    exact congrArg _ (mapEntriesFrom_congr start entries h)
  | some t :: entries, h => by
    rw [entriesHandles] at h
    have hhere : t.mapHandlesFrom f start = t.mapHandlesFrom g start :=
      mapHandlesFrom_congr start t fun position handle hp ↦ h position handle
        ((List.getElem?_append_left (List.getElem?_eq_some_iff.1 hp).1).trans hp)
    have hrest : mapEntriesFrom f (start + t.handles.length) entries =
        mapEntriesFrom g (start + t.handles.length) entries := by
      refine mapEntriesFrom_congr _ entries fun position handle hp ↦ ?_
      rw [Nat.add_assoc]
      refine h _ handle ((List.getElem?_append_right (Nat.le_add_right _ _)).trans ?_)
      rwa [Nat.add_sub_cancel_left]
    rw [mapEntriesFrom, mapEntriesFrom, hhere, hrest]

end

/-- Machine words are as good as natural numbers unless they run out. -/
theorem allocate_eq_numberFrom {offset : Nat} {t : DeviceTree δ}
    (h : offset + t.handles.length ≤ Text.capacity 64) :
    t.allocate offset = t.numberFrom offset := by
  refine mapHandlesFrom_congr 0 t fun position handle hp ↦ ?_
  have hlt : position < t.handles.length := (List.getElem?_eq_some_iff.1 hp).1
  rw [Handle.word_of_lt (by omega)]

end DeviceTree

end MachineArgs
