import Mathlib.Data.List.Lex
import MachineArgs.Proofs.Encoding.Walk

/-!
# The first node without an encoding

The encoder goes through a value node by node. A node is a value where it stands (`Node`): the
names on the way to it from the root, which are those of the fields and the keys of the maps passed,
and the directives in force. An option and a zero stand where the value in them stands. The fields
of a record that is not expanded or not complete are no nodes, and neither are fields that are never
written or zero (`Node.children`); the elements of a list are part of the list. A node is found by
the positions that lead to it (`Node.descend`), and the encoder comes to the nodes in the order of
these addresses, compared position by position, a node before those below it.

What is wrong with a node itself, apart from the nodes below it, is said by rules (`Node.Fails`). A
node with which nothing is wrong fails as the first of its children that does
(`failure?_encode_eq_findSome?`). By induction, a value fails exactly for the first node in the
order of addresses with which anything is wrong, and an error that shows a path shows the one to
this node (`Value.tables_eq_error_iff`).
-/

namespace MachineArgs

/-! ### Failures of steps -/

section Steps

variable {ε α β γ : Type}

/-- The error of a step that fails. -/
def failure? : Except ε α → Option ε
  | .ok _ => none
  | .error e => some e

theorem failure?_eq_some_iff {x : Except ε α} {e : ε} : failure? x = some e ↔ x = .error e := by
  cases x with
  | ok a => exact ⟨nofun, nofun⟩
  | error e' => rw [failure?, Option.some.injEq, Except.error.injEq]

theorem failure?_eq_none_iff {x : Except ε α} : failure? x = none ↔ ∃ a, x = .ok a := by
  cases x with
  | ok a => exact ⟨fun _ ↦ ⟨a, rfl⟩, fun _ ↦ rfl⟩
  | error e => exact ⟨nofun, nofun⟩

/-- A step that is followed by no other fails on its own account. -/
theorem failure?_bind_ok (x : Except ε α) (f : α → β) :
    failure? (x >>= fun a ↦ .ok (f a)) = failure? x := by
  cases x <;> rfl

/-- Of two steps the first failure counts. -/
theorem failure?_bind_bind_ok (x : Except ε α) (y : Except ε β) (f : α → β → γ) :
    failure? (x >>= fun a ↦ y >>= fun b ↦ .ok (f a b)) = (failure? x).or (failure? y) := by
  cases x with
  | ok a => exact failure?_bind_ok y (f a)
  | error e => rfl

end Steps

/-! ### Elements of lists -/

namespace Value

/-- Whether a value is of a kind that lists do not hold. -/
def isUnlistable : Value → Bool
  | record _ _ | list _ | map _ | boolean _ | unsupported _ => true
  | _ => false

/-- Whether a value is an option without a value, possibly inside others. -/
def isAbsent : Value → Bool
  | absent => true
  | present inner => inner.isAbsent
  | zero inner => inner.isAbsent
  | _ => false

/-- What is wrong with a value as an element of the list at a path. -/
inductive ElementFails (path : List String) : Value → Error → Prop where
  /-- The value of an option is at fault. -/
  | present {v : Value} {e : Error} (h : ElementFails path v e) : ElementFails path (.present v) e
  /-- The zero of a type is at fault as a value. -/
  | zero {v : Value} {e : Error} (h : ElementFails path v e) : ElementFails path (.zero v) e
  /-- A handle has no number. -/
  | unassigned {name : String} : ElementFails path (.path name none) (.unassignedHandle name)
  /-- No list holds values of this kind. -/
  | unlistable {v : Value} (h : v.isUnlistable = true) :
      ElementFails path v (.unsupportedShape path (.listElement v.shape))

variable {path : List String} {v : Value} {items : List Value} {e : Error}

theorem elementText_eq_error_iff : v.elementText path = .error e ↔ v.ElementFails path e := by
  induction v using Value.induction with
  | present inner ih =>
    rw [elementText, ih]
    refine ⟨.present, fun h ↦ ?_⟩
    cases h with
    | present h => exact h
    | unlistable h => cases h
  | zero inner ih =>
    rw [elementText, ih]
    refine ⟨.zero, fun h ↦ ?_⟩
    cases h with
    | zero h => exact h
    | unlistable h => cases h
  | path name location =>
    cases location with
    | none =>
      refine ⟨fun h ↦ Except.error.inj h ▸ .unassigned, fun h ↦ ?_⟩
      cases h with
      | unassigned => rfl
      | unlistable h => cases h
    | some location =>
      constructor
      · intro h
        cases h
      · intro h
        cases h with
        | unlistable h => cases h
  | absent | text | reference | string | integer | natural =>
    constructor
    · intro h
      cases h
    · intro h
      cases h with
      | unlistable h => cases h
  | record | list | map | boolean | unsupported =>
    refine ⟨fun h ↦ Except.error.inj h ▸ .unlistable rfl, fun h ↦ ?_⟩
    cases h with
    | unlistable h => rfl

/-- An element that is not at fault has a text unless it is absent. -/
theorem elementText_eq_none_iff : v.elementText path = .ok none ↔ v.isAbsent = true := by
  induction v using Value.induction with
  | absent => exact ⟨fun _ ↦ rfl, fun _ ↦ rfl⟩
  | present inner ih | zero inner ih => rw [elementText, isAbsent, ih]
  | path name location => cases location <;> simp [elementText, isAbsent]
  | text | reference | record | list | map | string | boolean | integer | natural | unsupported =>
    simp [elementText, isAbsent]

theorem failure?_elementTexts (path : List String) (items : List Value) :
    failure? (elementTexts path items) = items.findSome? fun v ↦ failure? (v.elementText path) := by
  induction items with
  | nil => rfl
  | cons v items ih =>
    rw [elementTexts, List.findSome?_cons, ← ih]
    simp only [pure_eq_ok]
    rw [failure?_bind_bind_ok]
    cases failure? (v.elementText path) <;> rfl

theorem failure?_elementText_eq_none_iff :
    failure? (v.elementText path) = none ↔ ∀ e, ¬v.ElementFails path e := by
  rw [Option.eq_none_iff_forall_ne_some]
  refine forall_congr' fun e ↦ not_congr ?_
  rw [failure?_eq_some_iff, elementText_eq_error_iff]

/-- The texts of some elements fail as the first element that is at fault. -/
theorem elementTexts_eq_error_iff :
    elementTexts path items = .error e ↔
      ∃ before v after, items = before ++ v :: after ∧ v.ElementFails path e ∧
        ∀ v' ∈ before, ∀ e', ¬v'.ElementFails path e' := by
  rw [← failure?_eq_some_iff, failure?_elementTexts, List.findSome?_eq_some_iff]
  simp only [failure?_elementText_eq_none_iff, failure?_eq_some_iff, elementText_eq_error_iff]

/-- Some elements have texts if none of them is at fault, and only then. -/
theorem exists_elementTexts_iff :
    (∃ texts, elementTexts path items = .ok texts) ↔
      ∀ v ∈ items, ∀ e, ¬v.ElementFails path e := by
  rw [← failure?_eq_none_iff, failure?_elementTexts, List.findSome?_eq_none_iff]
  simp only [failure?_elementText_eq_none_iff]

theorem elementTexts_eq_nil_iff {texts : List String} (h : elementTexts path items = .ok texts) :
    texts = [] ↔ ∀ v ∈ items, v.isAbsent = true := by
  induction items generalizing texts with
  | nil =>
    obtain rfl := Except.ok.inj h
    simp
  | cons v items ih =>
    obtain ⟨text?, htext, h⟩ := bind_eq_ok.1 h
    obtain ⟨rest, hrest, h⟩ := bind_eq_ok.1 h
    obtain rfl := Except.ok.inj h
    have hv : v.elementText path = .ok none ↔ v.isAbsent = true := elementText_eq_none_iff
    rw [htext, Except.ok.injEq] at hv
    rw [List.forall_mem_cons, ← ih hrest, ← hv, List.append_eq_nil_iff, Option.toList_eq_nil_iff]

end Value

/-! ### Nodes -/

/-- A value where it stands. -/
structure Node where
  /-- The names on the way to the value. -/
  path : List String
  /-- The directives in force for the value. -/
  directives : Directives
  /-- The value. -/
  value : Value

namespace Node

/-- The emissions of a node. -/
def encode (n : Node) : Except Error (List Emission) :=
  n.value.encoder n.path n.directives

/-- The node of a field below a path, unless the field is never written or its value is zero. -/
def ofField? (path : List String) (f : Field) (v : Value) : Option Node :=
  if f.skipped || v.isZero then none else some ⟨path ++ [f.ident], f.directives, v⟩

/-- The node of a map's entry below a path. -/
def ofEntry (path : List String) (entry : String × Value) : Node :=
  ⟨path ++ [entry.1], { key := some entry.1 }, entry.2⟩

/-- The nodes right below a node, in order. -/
def children : Node → List Node
  | ⟨path, d, .present inner⟩ => [⟨path, d, inner⟩]
  | ⟨path, d, .zero inner⟩ => [⟨path, d, inner⟩]
  | ⟨path, d, .record schema values⟩ =>
    if d.flattened && schema.fieldCount == values.length then
      (schema.fields.zip values).filterMap fun p ↦ ofField? path p.1 p.2
    else []
  | ⟨path, _, .map entries⟩ => entries.map (ofEntry path)
  | _ => []

theorem children_record {path : List String} {d : Directives} {schema : Schema}
    {values : List Value} (hflat : d.flattened = true)
    (hcount : schema.fieldCount = values.length) :
    children ⟨path, d, .record schema values⟩ =
      (schema.fields.zip values).filterMap fun p ↦ ofField? path p.1 p.2 := by
  rw [children, hflat, hcount, beq_self_eq_true]
  rfl

/-- Below a record there are only values of fields that are written and not zero. -/
theorem exists_field_of_mem_children {path : List String} {d : Directives} {schema : Schema}
    {values : List Value} {c : Node} (hc : c ∈ children ⟨path, d, .record schema values⟩) :
    ∃ f v, (f, v) ∈ schema.fields.zip values ∧ ¬f.Passes v ∧
      c = ⟨path ++ [f.ident], f.directives, v⟩ := by
  rw [children] at hc
  split at hc
  · obtain ⟨⟨f, v⟩, hmem, hc⟩ := List.mem_filterMap.1 hc
    obtain ⟨hpass, hc⟩ := Option.ite_none_left_eq_some.1 hc
    exact ⟨f, v, hmem, mt Field.passes_iff.1 hpass, (Option.some.inj hc).symm⟩
  · cases hc

/-- The node below a node that an address leads to. -/
def descend (n : Node) : List Nat → Option Node
  | [] => some n
  | position :: address => n.children[position]?.bind fun c ↦ c.descend address

theorem descend_cons_eq_some_iff {n node : Node} {position : Nat} {address : List Nat} :
    n.descend (position :: address) = some node ↔
      ∃ c, n.children[position]? = some c ∧ c.descend address = some node :=
  Option.bind_eq_some_iff

/-- A property of nodes holds of all if it passes from the children of a node to the node. -/
@[elab_as_elim]
theorem induction {P : Node → Prop} (n : Node)
    (step : ∀ n : Node, (∀ c ∈ n.children, P c) → P n) : P n := by
  obtain ⟨path, d, v⟩ := n
  induction v using Value.induction generalizing path d with
  | present inner ih | zero inner ih =>
    refine step _ fun c hc ↦ ?_
    obtain rfl := List.mem_singleton.1 hc
    exact ih path d
  | record schema values ih =>
    refine step _ fun c hc ↦ ?_
    obtain ⟨f, v, hmem, -, rfl⟩ := exists_field_of_mem_children hc
    exact ih v (List.of_mem_zip hmem).2 _ _
  | map entries ih =>
    refine step _ fun c hc ↦ ?_
    obtain ⟨⟨key, v⟩, hmem, rfl⟩ := List.mem_map.1 hc
    exact ih (key, v) hmem _ _
  | absent | path | text | reference | list | string | boolean | integer | natural
  | unsupported => exact step _ nofun

/-! ### One node -/

/-- What is wrong with a node itself, whatever stands below it. -/
inductive Fails : Node → Error → Prop where
  /-- A handle has no number. -/
  | unassigned {path : List String} {d : Directives} {name : String} :
      Fails ⟨path, d, .path name none⟩ (.unassignedHandle name)
  /-- No directive expands a record. -/
  | nested {path : List String} {d : Directives} {schema : Schema} {values : List Value}
      (hflat : d.flattened = false) :
      Fails ⟨path, d, .record schema values⟩ (.unsupportedShape path (.nestedRecord schema.name))
  /-- A record has more or fewer values than its schema has fields. -/
  | miscounted {path : List String} {d : Directives} {schema : Schema} {values : List Value}
      (hflat : d.flattened = true) (hcount : schema.fieldCount ≠ values.length) :
      Fails ⟨path, d, .record schema values⟩
        (.schemaMismatch path schema.fieldCount values.length)
  /-- An element of a list is at fault, and none before it. -/
  | element {path : List String} {d : Directives} {items before after : List Value} {v : Value}
      {e : Error} (hitems : items = before ++ v :: after) (h : v.ElementFails path e)
      (hbefore : ∀ v' ∈ before, ∀ e', ¬v'.ElementFails path e') :
      Fails ⟨path, d, .list items⟩ e
  /-- No directive lays out a list that has elements, none of them at fault. -/
  | plain {path : List String} {d : Directives} {items : List Value}
      (hfine : ∀ v ∈ items, ∀ e, ¬v.ElementFails path e)
      (hpresent : ∃ v ∈ items, v.isAbsent = false)
      (hsep : d.separator = none) (hrep : d.repeated = false) :
      Fails ⟨path, d, .list items⟩ (.unsupportedShape path .plainList)
  /-- The value is of a kind without a rendering. -/
  | unsupported {path : List String} {d : Directives} {kind : String} :
      Fails ⟨path, d, .unsupported kind⟩ (.unsupportedShape path (.unsupportedKind kind))

variable {n node : Node} {e : Error}

/-- If something is wrong with a node itself, the encoder says so. -/
theorem Fails.encode_eq (h : n.Fails e) : n.encode = .error e := by
  cases h with
  | unassigned | unsupported => rfl
  | nested hflat => simp [encode, Value.encoder, encodeRecord, hflat]
  | miscounted hflat hcount => simp [encode, Value.encoder, encodeRecord, hflat, hcount]
  | element hitems h hbefore =>
    have htexts := Value.elementTexts_eq_error_iff.2 ⟨_, _, _, hitems, h, hbefore⟩
    rw [encode, Value.encoder, encodeList, htexts, error_bind]
  | plain hfine hpresent hsep hrep =>
    obtain ⟨texts, htexts⟩ := Value.exists_elementTexts_iff.2 hfine
    obtain ⟨v, hv, hpresent⟩ := hpresent
    have hne : texts ≠ [] := by
      intro hnil
      rw [(Value.elementTexts_eq_nil_iff htexts).1 hnil v hv] at hpresent
      cases hpresent
    rw [encode, Value.encoder, encodeList, htexts, ok_bind, if_neg (mt List.isEmpty_iff.1 hne),
      hsep, hrep]
    rfl

/-- A list encodes if nothing is wrong with it. -/
theorem exists_encode_list {path : List String} {d : Directives} {items : List Value}
    (h : ∀ e, ¬Fails ⟨path, d, .list items⟩ e) :
    ∃ es, encode ⟨path, d, .list items⟩ = .ok es := by
  cases htexts : elementTexts path items with
  | error e =>
    obtain ⟨before, v, after, hitems, hv, hbefore⟩ := Value.elementTexts_eq_error_iff.1 htexts
    exact absurd (.element hitems hv hbefore) (h e)
  | ok texts =>
    rw [encode, Value.encoder, encodeList, htexts, ok_bind]
    by_cases hnil : texts = []
    · exact ⟨[], if_pos (List.isEmpty_iff.2 hnil)⟩
    · rw [if_neg (mt List.isEmpty_iff.1 hnil)]
      cases hsep : d.separator with
      | some separator => exact ⟨_, rfl⟩
      | none =>
        cases hrep : d.repeated with
        | true => exact ⟨_, rfl⟩
        | false =>
          have hfine := Value.exists_elementTexts_iff.1 ⟨texts, htexts⟩
          have hpresent : ∃ v ∈ items, v.isAbsent = false := by
            rw [Value.elementTexts_eq_nil_iff htexts] at hnil
            push Not at hnil
            simpa using hnil
          exact absurd (.plain hfine hpresent hsep hrep) (h _)

/-- The encoder of a field fails as the field's node, if it has one. -/
theorem failure?_encodeField (path : List String) (f : Field) (v : Value) :
    failure? (encodeField path f v.isZero v.encoder) =
      (ofField? path f v).bind fun c ↦ failure? c.encode := by
  rw [encodeField, ofField?]
  cases f.skipped || v.isZero <;> rfl

/-- Along a schema the encoder fails as the first node among the fields that does. -/
theorem failure?_encodeEntries (path : List String) (entries : List Entry) (values : List Value) :
    failure? (encodeEntries path entries (Value.encoders values)) =
      (((entries.filterMap Entry.field?).zip values).filterMap
        fun p ↦ ofField? path p.1 p.2).findSome? fun c ↦ failure? c.encode := by
  induction entries generalizing values with
  | nil => rfl
  | cons entry entries ih =>
    cases entry with
    | group name =>
      rw [encodeEntries]
      simp only [pure_eq_ok]
      rw [failure?_bind_ok, ih]
      rfl
    | field f =>
      cases values with
      | nil => rfl
      | cons v values =>
        rw [Value.encoders, encodeEntries]
        simp only [pure_eq_ok]
        rw [failure?_bind_bind_ok, ih, failure?_encodeField]
        show _ = List.findSome? _ (List.filterMap _ ((f, v) :: _))
        rw [List.filterMap_cons]
        cases ofField? path f v with
        | none => rfl
        | some c =>
          show (failure? c.encode).or _ = List.findSome? _ (c :: _)
          rw [List.findSome?_cons]
          cases failure? c.encode <;> rfl

/-- The encoder of a map fails as the first of its entries that does. -/
theorem failure?_encodeMap (path : List String) (d : Directives)
    (entries : List (String × Value)) :
    failure? (encodeMap (Value.entryEncoders entries) path d) =
      (entries.map (ofEntry path)).findSome? fun c ↦ failure? c.encode := by
  induction entries with
  | nil => rfl
  | cons entry entries ih =>
    obtain ⟨key, v⟩ := entry
    rw [Value.entryEncoders, encodeMap]
    simp only [pure_eq_ok]
    rw [failure?_bind_bind_ok, ih, List.map_cons, List.findSome?_cons]
    show (failure? (ofEntry path (key, v)).encode).or _ = _
    cases failure? (ofEntry path (key, v)).encode <;> rfl

/-- A node with which nothing is wrong fails as the first of its children that does. -/
theorem failure?_encode_eq_findSome? (h : ∀ e, ¬n.Fails e) :
    failure? n.encode = n.children.findSome? fun c ↦ failure? c.encode := by
  obtain ⟨path, d, v⟩ := n
  cases v with
  | absent | text | reference | string | boolean | integer | natural => rfl
  | present inner | zero inner =>
    show _ = List.findSome? _ [_]
    rw [List.findSome?_singleton]
    rfl
  | path name location =>
    cases location with
    | none => exact absurd .unassigned (h _)
    | some location => rfl
  | record schema values =>
    have hflat : d.flattened = true := by
      by_contra hflat
      exact h _ (.nested (Bool.eq_false_iff.2 hflat))
    have hcount : schema.fieldCount = values.length := by
      by_contra hcount
      exact h _ (.miscounted hflat hcount)
    rw [children_record hflat hcount, Schema.fields, ← failure?_encodeEntries, encode,
      Value.encoder_record hflat hcount]
  | list items => exact failure?_eq_none_iff.2 (exists_encode_list h)
  | map entries => exact failure?_encodeMap path d entries
  | unsupported kind => exact absurd .unsupported (h _)

/-! ### The first failure -/

/-- Nothing is wrong with any node from a node on, and each encodes. -/
def IsSound (n : Node) : Prop :=
  ∀ address node, n.descend address = some node →
    (∀ e, ¬node.Fails e) ∧ ∃ es, node.encode = .ok es

theorem isSound_of_children (hfine : ∀ e, ¬n.Fails e) (hencode : ∃ es, n.encode = .ok es)
    (hchildren : ∀ c ∈ n.children, c.IsSound) : n.IsSound := by
  intro address node hnode
  cases address with
  | nil =>
    obtain rfl := Option.some.inj hnode
    exact ⟨hfine, hencode⟩
  | cons position address =>
    obtain ⟨c, hc, hnode⟩ := descend_cons_eq_some_iff.1 hnode
    exact hchildren c (List.mem_of_getElem? hc) address node hnode

/-- At an address below a node something is wrong, with the error `e`, and nothing is wrong before:
every node with a lesser address encodes, unless it is on the way there. -/
structure FailsFirstAt (n : Node) (address : List Nat) (node : Node) (e : Error) : Prop where
  /-- The address leads to the node. -/
  found : n.descend address = some node
  /-- Something is wrong with the node. -/
  fails : node.Fails e
  /-- Nothing is wrong with a node before it, and unless it is above, it encodes. -/
  before : ∀ address' < address, ∀ node', n.descend address' = some node' →
    (∀ e', ¬node'.Fails e') ∧ (address' <+: address ∨ ∃ es, node'.encode = .ok es)

/-- Only one node is the first with which something is wrong. -/
theorem FailsFirstAt.unique {address address' : List Nat} {node' : Node} {e' : Error}
    (h : n.FailsFirstAt address node e) (h' : n.FailsFirstAt address' node' e') :
    address = address' ∧ node = node' ∧ e = e' := by
  rcases lt_trichotomy address address' with hlt | rfl | hlt
  · exact absurd h.fails ((h'.before address hlt node h.found).1 e)
  · obtain rfl : node = node' := Option.some.inj (h.found.symm.trans h'.found)
    exact ⟨rfl, rfl, Except.error.inj (h.fails.encode_eq.symm.trans h'.fails.encode_eq)⟩
  · exact absurd h'.fails ((h.before address' hlt node' h'.found).1 e')

/-- The first failure of a child is that of a node with which nothing is wrong, if the children
before it are sound. -/
theorem FailsFirstAt.below {c : Node} {position : Nat} {address : List Nat}
    (h : c.FailsFirstAt address node e) (hchild : n.children[position]? = some c)
    (hfine : ∀ e, ¬n.Fails e)
    (hbefore : ∀ position' < position, ∀ c', n.children[position']? = some c' → c'.IsSound) :
    n.FailsFirstAt (position :: address) node e := by
  refine ⟨descend_cons_eq_some_iff.2 ⟨c, hchild, h.found⟩, h.fails, ?_⟩
  intro address' hlt node' hnode'
  cases address' with
  | nil =>
    obtain rfl := Option.some.inj hnode'
    exact ⟨hfine, .inl (List.nil_prefix)⟩
  | cons position' address' =>
    obtain ⟨c', hc', hnode'⟩ := descend_cons_eq_some_iff.1 hnode'
    rcases List.cons_lt_cons_iff.1 hlt with hposition | ⟨rfl, haddress⟩
    · obtain ⟨hfine', hencode⟩ := hbefore position' hposition c' hc' address' node' hnode'
      exact ⟨hfine', .inr hencode⟩
    · obtain rfl : c = c' := Option.some.inj (hchild.symm.trans hc')
      obtain ⟨hfine', hencode⟩ := h.before address' haddress node' hnode'
      exact ⟨hfine', hencode.imp_left fun hprefix ↦ List.cons_prefix_cons.2 ⟨rfl, hprefix⟩⟩

/-- A node is sound, or it fails as the first node with which something is wrong. -/
theorem encode_outcome (n : Node) :
    (n.IsSound ∧ ∃ es, n.encode = .ok es) ∨
    ∃ address node e, n.FailsFirstAt address node e ∧ n.encode = .error e := by
  induction n using Node.induction with
  | step n ih =>
    by_cases hfails : ∃ e, n.Fails e
    · obtain ⟨e, h⟩ := hfails
      refine .inr ⟨[], n, e, ⟨rfl, h, ?_⟩, h.encode_eq⟩
      intro address hlt
      exact absurd hlt (List.not_lt_nil address)
    · have hfine : ∀ e, ¬n.Fails e := not_exists.1 hfails
      have hlevel := failure?_encode_eq_findSome? hfine
      -- A child that encodes is sound, so the sound children are those before the one that fails.
      have hsound : ∀ c ∈ n.children, failure? c.encode = none → c.IsSound := by
        intro c hc hnone
        obtain ⟨es, hes⟩ := failure?_eq_none_iff.1 hnone
        rcases ih c hc with ⟨hsound, -⟩ | ⟨-, -, e, -, he⟩
        · exact hsound
        · rw [hes] at he
          cases he
      cases hfirst : n.children.findSome? fun c ↦ failure? c.encode with
      | none =>
        rw [List.findSome?_eq_none_iff] at hfirst
        have hencode : ∃ es, n.encode = .ok es := by
          rw [← failure?_eq_none_iff, hlevel, List.findSome?_eq_none_iff]
          exact hfirst
        have hchildren : ∀ c ∈ n.children, c.IsSound := fun c hc ↦ hsound c hc (hfirst c hc)
        exact .inl ⟨isSound_of_children hfine hencode hchildren, hencode⟩
      | some e =>
        obtain ⟨before, c, after, hchildren, he, hbefore⟩ := List.findSome?_eq_some_iff.1 hfirst
        have hmem : c ∈ n.children := by simp [hchildren]
        have hc : c.encode = .error e := failure?_eq_some_iff.1 he
        rcases ih c hmem with ⟨-, es, hes⟩ | ⟨address, node, e', hfirstAt, he'⟩
        · rw [hc] at hes
          cases hes
        · obtain rfl : e = e' := Except.error.inj (hc.symm.trans he')
          have hchild : n.children[before.length]? = some c := by simp [hchildren]
          refine .inr ⟨_, node, e, hfirstAt.below hchild hfine ?_, ?_⟩
          · intro position hlt c' hc'
            rw [hchildren, List.getElem?_append_left hlt] at hc'
            have hmem' := List.mem_of_getElem? hc'
            exact hsound c' (by simp [hchildren, hmem']) (hbefore c' hmem')
          · rw [← failure?_eq_some_iff, hlevel, hfirst]

end Node

/-! ### Paths -/

/-- The path that an error shows, as it is written. -/
def Error.shownPath? : Error → Option String
  | unsupportedShape path _ => some (pathText path)
  | schemaMismatch path _ _ => some (pathText path)
  | _ => none

/-- An error about an element shows the path of the list. -/
theorem Value.ElementFails.shownPath?_eq {path : List String} {v : Value} {e : Error}
    {text : String} (h : v.ElementFails path e) (htext : e.shownPath? = some text) :
    text = ".".intercalate path := by
  induction h with
  | present _ ih | zero _ ih => exact ih htext
  | unassigned => cases htext
  | unlistable => exact (Option.some.inj htext).symm

/-- An error about a node shows the path of the node, if it shows any. -/
theorem Node.Fails.shownPath?_eq {n : Node} {e : Error} {text : String} (h : n.Fails e)
    (htext : e.shownPath? = some text) : text = ".".intercalate n.path := by
  cases h with
  | unassigned => cases htext
  | nested | miscounted | plain | unsupported => exact (Option.some.inj htext).symm
  | element _ h => exact h.shownPath?_eq htext

/-- A value on its own, as a node. -/
def Node.root (v : Value) : Node :=
  ⟨v.rootPath, { flattened := true }, v⟩

/-- The tables of a record fail with an error exactly if it is what is wrong with the first node
from the record on with which anything is wrong. There is one such node at most. The path that the
error shows, if it shows one, is that of the node: the name of the record's schema and then the
names of the fields and the keys of the maps on the way to the node, between dots. -/
theorem Value.tables_eq_error_iff (schema : Schema) (values : List Value)
    (group : Option String) (e : Error) :
    ((record schema values).tables group = .error e ↔
      ∃ address node, (Node.root (.record schema values)).FailsFirstAt address node e) ∧
    ∀ address node, (Node.root (.record schema values)).FailsFirstAt address node e →
      (∀ text, e.shownPath? = some text → text = ".".intercalate node.path) ∧
      ∀ address' node' e', (Node.root (.record schema values)).FailsFirstAt address' node' e' →
        address' = address ∧ node' = node ∧ e' = e := by
  refine ⟨?_, fun address node h ↦
    ⟨fun _ htext ↦ h.fails.shownPath?_eq htext, fun _ _ _ h' ↦ h'.unique h⟩⟩
  have hroot : (record schema values).tables group = .error e ↔
      (Node.root (.record schema values)).encode = .error e := by
    rw [tables, bind_eq_error, or_iff_left]
    · rfl
    · rintro ⟨es, -, h⟩
      cases h
  rw [hroot]
  rcases (Node.root (.record schema values)).encode_outcome with
    ⟨hsound, es, hes⟩ | ⟨address, node, e', hfirst, he'⟩
  · rw [hes]
    constructor
    · intro h
      cases h
    · rintro ⟨address, node, h⟩
      exact absurd h.fails ((hsound address node h.found).1 e)
  · rw [he', Except.error.injEq]
    constructor
    · rintro rfl
      exact ⟨address, node, hfirst⟩
    · rintro ⟨address', node', h⟩
      exact (hfirst.unique h).2.2

-- the list in `a` would be at fault, but it is a zero and not visited
example :
    (Value.record ⟨"Options", [.field (.named "a" "a"), .field (.named "b" "b")]⟩
      [.zero (.list [.boolean true]),
        .present (.map [("x", .natural 1), ("y", .map [("z", .list [.boolean true])])])]).tables
        none =
      .error (.unsupportedShape ["Options", "b", "y", "z"] (.listElement "bool")) := by rfl

end MachineArgs
