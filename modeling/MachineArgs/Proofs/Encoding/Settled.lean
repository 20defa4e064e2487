import MachineArgs.Proofs.Encoding.Nodes
import MachineArgs.Proofs.Encoding.Walk
import MachineArgs.Proofs.OptionTable.Settled

/-!
# Tables of values without repeated lists

Only a list that is repeated opens several slots for one key. An emission that does so stems from a
node whose directives repeat it (`Node.exists_repeated_of_add`), and a node is repeated only by the
field of a record. So if no record on the way has such a field, the table of every group is made of
plain writes, and its slots are the settled ones: no padding, no key twice, each key where it was
written first and with the value that was written last (`Value.settled_tables`).
-/

namespace MachineArgs

open OptionTable (Edit Write)

/-! ### Where slots are added -/

theorem add_notMem_write (key value s : String) (key? : Option String) :
    Emission.add key value ∉ [Emission.write key? s] := by
  cases key? <;> simp [Emission.write]

/-- Whether a value is a record with a field that repeats a list. -/
def Value.hasRepeat : Value → Bool
  | record schema _ => schema.fields.any Field.repeated
  | _ => false

namespace Node

variable {n node : Node} {key value : String} {es : List Emission}

/-- A slot that is added along a schema is added by a field. -/
theorem exists_child_of_add_mem_entries {path : List String} {entries : List Entry}
    {values : List Value} (h : encodeEntries path entries (Value.encoders values) = .ok es)
    (hadd : .add key value ∈ es) :
    ∃ c ∈ ((entries.filterMap Entry.field?).zip values).filterMap fun p ↦ ofField? path p.1 p.2,
      ∃ es', c.encode = .ok es' ∧ .add key value ∈ es' := by
  induction entries generalizing values es with
  | nil =>
    obtain rfl := Except.ok.inj h
    cases hadd
  | cons entry entries ih =>
    cases entry with
    | group name =>
      rw [encodeEntries] at h
      obtain ⟨rest, hrest, h⟩ := bind_eq_ok.1 h
      obtain rfl := Except.ok.inj h
      have hadd : .add key value ∈ rest := by simpa using hadd
      exact ih hrest hadd
    | field f =>
      cases values with
      | nil =>
        obtain rfl := Except.ok.inj h
        cases hadd
      | cons v values =>
        rw [Value.encoders, encodeEntries] at h
        obtain ⟨here, hhere, h⟩ := bind_eq_ok.1 h
        obtain ⟨rest, hrest, h⟩ := bind_eq_ok.1 h
        obtain rfl := Except.ok.inj h
        have hsplit : .add key value ∈ here ∨ .add key value ∈ rest := by
          simpa [Field.switch] using hadd
        have hzip : ((Entry.field f :: entries).filterMap Entry.field?).zip (v :: values) =
            (f, v) :: (entries.filterMap Entry.field?).zip values := rfl
        rw [hzip, List.filterMap_cons]
        rcases hsplit with hmem | hmem
        · rw [encodeField] at hhere
          split at hhere
          · obtain rfl := Except.ok.inj hhere
            cases hmem
          · next hpass =>
            rw [ofField?, if_neg hpass]
            exact ⟨_, List.mem_cons_self, here, hhere, hmem⟩
        · obtain ⟨c, hc, hadded⟩ := ih hrest hmem
          refine ⟨c, ?_, hadded⟩
          cases ofField? path f v with
          | none => exact hc
          | some _ => exact List.mem_cons_of_mem _ hc

/-- A slot that is added for a map is added by an entry. -/
theorem exists_child_of_add_mem_map {path : List String} {d : Directives}
    {entries : List (String × Value)}
    (h : encodeMap (Value.entryEncoders entries) path d = .ok es) (hadd : .add key value ∈ es) :
    ∃ c ∈ entries.map (ofEntry path), ∃ es', c.encode = .ok es' ∧ .add key value ∈ es' := by
  induction entries generalizing es with
  | nil =>
    obtain rfl := Except.ok.inj h
    cases hadd
  | cons entry entries ih =>
    obtain ⟨here, hhere, h⟩ := bind_eq_ok.1 h
    obtain ⟨rest, hrest, h⟩ := bind_eq_ok.1 h
    obtain rfl := Except.ok.inj h
    rcases List.mem_append.1 hadd with hmem | hmem
    · exact ⟨ofEntry path entry, List.mem_cons_self, here, hhere, hmem⟩
    · obtain ⟨c, hc, hadded⟩ := ih hrest hmem
      exact ⟨c, List.mem_cons_of_mem _ hc, hadded⟩

/-- A slot is added by a node that its directives repeat, or below it. -/
theorem repeated_or_exists_child (h : n.encode = .ok es) (hadd : .add key value ∈ es) :
    n.directives.repeated = true ∨
      ∃ c ∈ n.children, ∃ es', c.encode = .ok es' ∧ .add key value ∈ es' := by
  obtain ⟨path, d, v⟩ := n
  have hscalar : ∀ s, v.scalarText? = some s → False := by
    intro s hs
    rw [encode, encoder_of_scalarText? hs] at h
    obtain rfl := Except.ok.inj h
    exact add_notMem_write _ _ _ _ hadd
  cases v with
  | absent =>
    obtain rfl := Except.ok.inj h
    cases hadd
  | present inner | zero inner => exact .inr ⟨_, List.mem_cons_self, es, h, hadd⟩
  | path name location =>
    cases location with
    | none => cases h
    | some s => exact (hscalar s rfl).elim
  | text | reference | string | boolean | integer | natural => exact (hscalar _ rfl).elim
  | record schema values =>
    obtain ⟨hflat, hcount⟩ := Value.of_encoder_record h
    rw [encode, Value.encoder_record hflat hcount] at h
    rw [children_record hflat hcount]
    exact .inr (exists_child_of_add_mem_entries h hadd)
  | list items =>
    obtain ⟨texts, -, ⟨-, rfl⟩ | ⟨-, sep, -, rfl⟩ | ⟨-, -, hrep, -⟩⟩ := encodeList_eq.1 h
    · cases hadd
    · exact absurd hadd (add_notMem_write _ _ _ _)
    · exact .inl hrep
  | map entries => exact .inr (exists_child_of_add_mem_map h hadd)
  | unsupported kind => cases h

/-- A slot is added by some node that its directives repeat. -/
theorem exists_repeated_of_add (h : n.encode = .ok es) (hadd : .add key value ∈ es) :
    ∃ address node, n.descend address = some node ∧ node.directives.repeated = true := by
  induction n using Node.induction generalizing es with
  | step n ih =>
    rcases repeated_or_exists_child h hadd with hrep | ⟨c, hc, es', hes', hmem⟩
    · exact ⟨[], n, rfl, hrep⟩
    · obtain ⟨address, node, hnode, hrep⟩ := ih c hc hes' hmem
      obtain ⟨position, hposition⟩ := List.mem_iff_getElem?.1 hc
      exact ⟨position :: address, node,
        descend_cons_eq_some_iff.2 ⟨c, hposition, hnode⟩, hrep⟩

/-! ### Records without repeated fields -/

/-- No record that is visited from a node on has a field that repeats a list. -/
def WithoutRepeat (n : Node) : Prop :=
  ∀ address node, n.descend address = some node → node.value.hasRepeat = false

theorem withoutRepeat_iff :
    n.WithoutRepeat ↔ n.value.hasRepeat = false ∧ ∀ c ∈ n.children, c.WithoutRepeat := by
  constructor
  · refine fun h ↦ ⟨h [] n rfl, fun c hc address node hnode ↦ ?_⟩
    obtain ⟨position, hposition⟩ := List.mem_iff_getElem?.1 hc
    exact h (position :: address) node (descend_cons_eq_some_iff.2 ⟨c, hposition, hnode⟩)
  · rintro ⟨hown, hchildren⟩ address node hnode
    cases address with
    | nil =>
      obtain rfl := Option.some.inj hnode
      exact hown
    | cons position address =>
      obtain ⟨c, hc, hnode⟩ := descend_cons_eq_some_iff.1 hnode
      exact hchildren c (List.mem_of_getElem? hc) address node hnode

/-- A child is repeated only if its parent is, or a field of its parent repeats lists. -/
theorem repeated_eq_false_of_child {c : Node} (h : n.WithoutRepeat)
    (hrep : n.directives.repeated = false) (hc : c ∈ n.children) :
    c.directives.repeated = false := by
  obtain ⟨path, d, v⟩ := n
  cases v with
  | present inner | zero inner =>
    obtain rfl := List.mem_singleton.1 hc
    exact hrep
  | record schema values =>
    obtain ⟨f, v, hmem, -, rfl⟩ := exists_field_of_mem_children hc
    have hfields := List.any_eq_false.1 (h [] _ rfl)
    exact Bool.eq_false_iff.2 (hfields f (List.of_mem_zip hmem).1)
  | map entries =>
    obtain ⟨entry, -, rfl⟩ := List.mem_map.1 hc
    rfl
  | _ => cases hc

theorem repeated_eq_false_of_descend {address : List Nat} (h : n.WithoutRepeat)
    (hrep : n.directives.repeated = false) (hnode : n.descend address = some node) :
    node.directives.repeated = false := by
  induction address generalizing n with
  | nil =>
    obtain rfl := Option.some.inj hnode
    exact hrep
  | cons position address ih =>
    obtain ⟨c, hc, hnode⟩ := descend_cons_eq_some_iff.1 hnode
    have hmem := List.mem_of_getElem? hc
    exact ih ((withoutRepeat_iff.1 h).2 c hmem) (repeated_eq_false_of_child h hrep hmem) hnode

/-- Without repeated fields no slot is added behind others of its key. -/
theorem WithoutRepeat.add_notMem (h : n.WithoutRepeat) (hrep : n.directives.repeated = false)
    (hes : n.encode = .ok es) (key value : String) : .add key value ∉ es := by
  intro hadd
  obtain ⟨address, node, hnode, hrepeated⟩ := exists_repeated_of_add hes hadd
  rw [repeated_eq_false_of_descend h hrep hnode] at hrepeated
  cases hrepeated

end Node

/-! ### Journals of plain writes -/

/-- A write is noted for the group that is current. -/
theorem editsOf_written (n : String) (g : Option String) (e : Edit) :
    editsOf n (written g e) = if g.getD NamedTables.implicitGroup = n then [e] else [] := by
  have hwritten : editsOf n (written g e) =
      editsOf n [.write (g.getD NamedTables.implicitGroup) e] := by
    cases g <;> rfl
  rw [hwritten]
  split
  · next hn => rw [hn, editsOf_write, editsOf_nil]
  · next hn => rw [editsOf_write_of_ne hn, editsOf_nil]

/-- Emissions that add no slot behind others of its key note plain writes. -/
theorem exists_writes_journal {es : List Emission} (h : ∀ key value, .add key value ∉ es)
    (g : Option String) (n : String) :
    ∃ ws : List Write, editsOf n (journal g es) = ws.map Write.edit := by
  induction es generalizing g with
  | nil => exact ⟨[], rfl⟩
  | cons e es ih =>
    obtain ⟨ws, hws⟩ := ih (fun key value hmem ↦ h key value (List.mem_cons_of_mem _ hmem))
      (some (e.currentAfter g))
    have hnoted : ∃ ws' : List Write, editsOf n (e.marks g) = ws'.map Write.edit := by
      have hwritten : ∀ w : Write, ∃ ws' : List Write,
          editsOf n (written g w.edit) = ws'.map Write.edit := by
        intro w
        rw [editsOf_written]
        split
        · exact ⟨[w], rfl⟩
        · exact ⟨[], rfl⟩
      cases e with
      | select m => exact ⟨[], rfl⟩
      | set key value => exact hwritten ⟨some key, value⟩
      | add key value => exact absurd List.mem_cons_self (h key value)
      | append value => exact hwritten ⟨none, value⟩
    obtain ⟨ws', hws'⟩ := hnoted
    exact ⟨ws' ++ ws, by rw [journal, editsOf_append, hws', hws, List.map_append]⟩

/-! ### Tables -/

/-- The tables of a value in which no record that is visited has a field that repeats a list. The
table of each group is settled by the writes that are noted for the group on the walk of the value:
it has no padding and no key twice, the slot of a key stands where the key was written first and has
the value that was written last, and each bare value has its own slot in the order of the writes. -/
theorem Value.settled_tables {v : Value} {group : Option String} {t : NamedTables}
    (hrep : (Node.root v).WithoutRepeat) (h : v.tables group = .ok t) :
    ∃ marks current, Walk { flattened := true } v group marks current ∧
      ∀ n table, (n, table) ∈ t.groups →
        ∃ ws, editsOf n marks = ws.map Write.edit ∧ table.IsSettled ws := by
  obtain ⟨es, hes, h⟩ := bind_eq_ok.1 h
  obtain rfl := Except.ok.inj h
  refine ⟨_, _, walk_of_encoder hes, fun n table htable ↦ ?_⟩
  obtain ⟨ws, hws⟩ := exists_writes_journal (hrep.add_notMem rfl hes) group n
  rw [(NamedTables.run_initial group es).1, NamedTables.ofJournal] at htable
  obtain ⟨n', -, hpair⟩ := List.mem_map.1 htable
  obtain ⟨rfl, rfl⟩ := Prod.mk.inj hpair
  -- the entry of the default group is no edit
  have hedits : editsOf n' (group.toList.map .enter ++ journal group es) = ws.map Write.edit := by
    rw [← hws]
    cases group <;> rfl
  refine ⟨ws, hws, ?_⟩
  rw [tableIn, hedits]
  exact OptionTable.isSettled_edits ws

/-- A record in which a map writes to the key of a field before it. -/
def overwritten : Value :=
  .record ⟨"Options", [.group "device", .field (.named "id" "id"), .field (.unnamed "kind"),
      .field (.plain "extra")]⟩
    [.string "a", .string "disk", .map [("id", .string "b"), ("bus", .string "pci")]]

/-- The tables of the record with an overwritten key. -/
def overwrittenTables : NamedTables where
  groups := [("device",
    { slots := [.keyed "id" "b", .bare "disk", .keyed "bus" "pci"],
      owners := [("id", 0), ("bus", 2)], start := some 0 })]
  current := some "device"

theorem overwritten_settled_tables :
    (Node.root overwritten).WithoutRepeat ∧ overwritten.tables none = .ok overwrittenTables ∧
      ∃ marks current, Walk { flattened := true } overwritten none marks current ∧
        ∀ n table, (n, table) ∈ overwrittenTables.groups →
          ∃ ws, editsOf n marks = ws.map Write.edit ∧ table.IsSettled ws := by
  have hleaf : ∀ n : Node, n.value.hasRepeat = false → n.children = [] → n.WithoutRepeat := by
    intro n hown hchildren
    rw [Node.withoutRepeat_iff, hchildren]
    exact ⟨hown, nofun⟩
  have hrep : (Node.root overwritten).WithoutRepeat := by
    refine Node.withoutRepeat_iff.2 ⟨by rfl, ?_⟩
    show ∀ c ∈ [_, _, _], _
    simp only [List.forall_mem_cons]
    refine ⟨hleaf _ rfl rfl, hleaf _ rfl rfl, Node.withoutRepeat_iff.2 ⟨rfl, ?_⟩, nofun⟩
    -- the entries of the map
    show ∀ c ∈ [_, _], _
    simp only [List.forall_mem_cons]
    exact ⟨hleaf _ rfl rfl, hleaf _ rfl rfl, nofun⟩
  have h : overwritten.tables none = .ok overwrittenTables := by rfl
  exact ⟨hrep, h, Value.settled_tables hrep h⟩

end MachineArgs
