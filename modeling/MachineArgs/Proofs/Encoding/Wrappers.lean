import Mathlib.Logic.Relation
import MachineArgs.Proofs.Encoding.Embedding

/-!
# Wrappers

An option that has a value, and the zero of a type, are written as the value in them. This module
says where such a wrapper may be put around a value without any effect.

* Around an entry of a map and around an element of a list either wrapper may be put or taken off,
  at any depth (`Wraps.entry`, `Wraps.element`): nobody asks there whether a value is zero.
* Around the value of a field an option may be put if that value is not zero (`Wraps.field`). A zero
  that is wrapped so would be written, and a value that is marked as zero would not.
* Around the whole value either wrapper hides that it is a record. The record is expanded all the
  same, but its name is missing in front of the paths that errors show (`Error.withRoot`).

`Wraps` is one more wrapper at one place, closed under everything that may stand around that place.
It keeps what the encoder sees of a value: whether it is zero and what it denotes (`Wraps.similar`),
and its text as an element of a list, which a rule of its own gives (`Wraps.elementText_eq`).
-/

namespace MachineArgs

/-- What may be put around a value that is written as the value itself. -/
inductive Wrapper where
  /-- An option that has the value. -/
  | present
  /-- The zero of a type. -/
  | zero

namespace Wrapper

/-- A value with a wrapper around it. -/
def around (v : Value) : Wrapper → Value
  | present => .present v
  | zero => .zero v

theorem encoder_around (w : Wrapper) (v : Value) : (w.around v).encoder = v.encoder := by
  cases w <;> rfl

theorem elementText_around (w : Wrapper) (v : Value) (path : List String) :
    (w.around v).elementText path = v.elementText path := by
  cases w <;> rfl

theorem rootPath_around (w : Wrapper) (v : Value) : (w.around v).rootPath = [] := by
  cases w <;> rfl

end Wrapper

/-! ### Wrappers inside a value -/

/-- The second value is the first with one more wrapper at a place where it has no effect. -/
inductive Wraps : Value → Value → Prop where
  /-- Around an entry of a map. -/
  | entry (w : Wrapper) (before : List (String × Value)) (key : String) (v : Value)
      (behind : List (String × Value)) :
      Wraps (.map (before ++ (key, v) :: behind)) (.map (before ++ (key, w.around v) :: behind))
  /-- Around an element of a list. -/
  | element (w : Wrapper) (before : List Value) (v : Value) (behind : List Value) :
      Wraps (.list (before ++ v :: behind)) (.list (before ++ w.around v :: behind))
  /-- An option around the value of a field that is not zero. -/
  | field (schema : Schema) (before : List Value) {v : Value} (behind : List Value)
      (h : v.isZero = false) :
      Wraps (.record schema (before ++ v :: behind))
        (.record schema (before ++ .present v :: behind))
  /-- Inside an entry of a map. -/
  | inEntry (before : List (String × Value)) (key : String) {v v' : Value}
      (behind : List (String × Value)) (h : Wraps v v') :
      Wraps (.map (before ++ (key, v) :: behind)) (.map (before ++ (key, v') :: behind))
  /-- Inside an element of a list. -/
  | inElement (before : List Value) {v v' : Value} (behind : List Value) (h : Wraps v v') :
      Wraps (.list (before ++ v :: behind)) (.list (before ++ v' :: behind))
  /-- Inside the value of a field. -/
  | inField (schema : Schema) (before : List Value) {v v' : Value} (behind : List Value)
      (h : Wraps v v') :
      Wraps (.record schema (before ++ v :: behind)) (.record schema (before ++ v' :: behind))
  /-- Inside an option. -/
  | inPresent {v v' : Value} (h : Wraps v v') : Wraps (.present v) (.present v')
  /-- Inside the zero of a type. -/
  | inZero {v v' : Value} (h : Wraps v v') : Wraps (.zero v) (.zero v')

theorem elementTexts_congr {path : List String} {v v' : Value}
    (h : v.elementText path = v'.elementText path) (before behind : List Value) :
    elementTexts path (before ++ v :: behind) = elementTexts path (before ++ v' :: behind) := by
  induction before with
  | nil => rw [List.nil_append, List.nil_append, elementTexts, elementTexts, h]
  | cons u before ih => rw [List.cons_append, List.cons_append, elementTexts, elementTexts, ih]

namespace Similar

variable {v v' : Value}

/-- Lists are similar if one element differs that has the same text. -/
theorem list (h : ∀ path, v.elementText path = v'.elementText path) (before behind : List Value) :
    Similar Eq (.list (before ++ v :: behind)) (.list (before ++ v' :: behind)) where
  isZero_eq := by cases before <;> rfl
  rootPath_eq := rfl
  agree path d := by
    rw [Value.encoder, Value.encoder, encodeList, encodeList, elementTexts_congr (h path)]
    exact .refl (fun _ ↦ rfl) _

/-- Maps are similar if one entry differs that denotes the same. -/
theorem map (h : v.encoder = v'.encoder) (before : List (String × Value)) (key : String)
    (behind : List (String × Value)) :
    Similar Eq (.map (before ++ (key, v) :: behind)) (.map (before ++ (key, v') :: behind)) where
  isZero_eq := by cases before <;> rfl
  rootPath_eq := rfl
  agree path d := by
    have hentries : Value.entryEncoders (before ++ (key, v) :: behind) =
        Value.entryEncoders (before ++ (key, v') :: behind) := by
      simp [h]
    rw [Value.encoder, Value.encoder, hentries]
    exact .refl (fun _ ↦ rfl) _

theorem encoder_eq (h : Similar Eq v v') : v.encoder = v'.encoder :=
  funext fun path ↦ funext fun d ↦ (h.agree path d).eq

end Similar

namespace Wraps

variable {v v' : Value}

/-- A wrapper inside changes no text of an element. -/
theorem elementText_eq (h : Wraps v v') (path : List String) :
    v.elementText path = v'.elementText path := by
  induction h with
  | inPresent _ ih | inZero _ ih => exact ih
  | entry | element | field | inEntry | inElement | inField => rfl

theorem similar (h : Wraps v v') : Similar Eq v v' := by
  induction h with
  | entry w before key v behind => exact .map (w.encoder_around v).symm before key behind
  | element w before v behind =>
    exact .list (fun path ↦ (w.elementText_around v path).symm) before behind
  | @field schema before v behind hzero =>
    have hpresent : v.isZero = (Value.present v).isZero := hzero
    exact .record (fun _ ↦ rfl) hpresent (fun _ _ ↦ .refl (fun _ ↦ rfl) _) schema before behind
  | inEntry before key behind _ ih => exact .map ih.encoder_eq before key behind
  | inElement before behind h _ => exact .list h.elementText_eq before behind
  | inField schema before behind _ ih =>
    exact ih.around (fun _ ↦ rfl) (.record schema before behind)
  | inPresent _ ih => exact ih.around (fun _ ↦ rfl) .present
  | inZero _ ih => exact ih.around (fun _ ↦ rfl) .zero

end Wraps

/-! ### Wrappers around a whole value -/

/-- The same error, with a root in front of the path that it shows. -/
def Error.withRoot (root : List String) : Error → Error
  | unsupportedShape path misfit => unsupportedShape (root ++ path) misfit
  | schemaMismatch path expected found => schemaMismatch (root ++ path) expected found
  | e => e

/-- A root in front of a path shows in errors. -/
theorem carries_withRoot (root : List String) :
    Carries (fun path path' ↦ path' = root ++ path) (fun e e' ↦ e' = e.withRoot root) where
  below ident h := by rw [h, List.append_assoc]
  shape misfit h := by rw [h, Error.withRoot]
  counts expected found h := by rw [h, Error.withRoot]
  handle _ := rfl

namespace Value

theorem encoder_withRoot (v : Value) (root path : List String) (d : Directives) :
    v.encoder (root ++ path) d = (v.encoder path d).mapError (.withRoot root) :=
  (encoder_agree (carries_withRoot root) v rfl d).eq_mapError

/-- A value is encoded alike with wrappers in places where they have no effect, and without them. A
wrapper around the whole value changes nothing but the paths in errors: the name of a record is
missing in front of them. -/
theorem tables_wrapped {v v' : Value} (h : Relation.EqvGen Wraps v v') (group : Option String) :
    v'.tables group = v.tables group ∧
      ∀ w : Wrapper,
        v.tables group = ((w.around v).tables group).mapError (.withRoot v.rootPath) := by
  constructor
  · induction h with
    | rel v v' h => exact (h.similar.tables_agree group).eq.symm
    | refl v => rfl
    | symm v v' _ ih => exact ih.symm
    | trans v v' v'' _ _ ih ih' => exact ih'.trans ih
  · intro w
    have hroot := v.encoder_withRoot v.rootPath [] { flattened := true }
    rw [List.append_nil] at hroot
    rw [tables, tables, emissions, emissions, w.rootPath_around, w.encoder_around, hroot,
      mapError_bind]
    rfl

/-- The schema of a record with a number, a list and a map. -/
def sampleSchema : Schema :=
  ⟨"Sample",
    [.field { Field.verbatim "size" with group := some "drive" },
     .field { Field.verbatim "tags" with separator := some ":" }, .field (.verbatim "extra")]⟩

/-- A record without wrappers, with an entry of its map. -/
def bareSample (entry : Value) : Value :=
  .record sampleSchema [.natural 1, .list [.string "a", .natural 0], .map [("k", entry)]]

/-- The record with a wrapper in each field. -/
def wrappedSample (entry : Value) : Value :=
  .record sampleSchema
    [.present (.natural 1), .list [.string "a", .zero (.natural 0)], .map [("k", .present entry)]]

/-- The wrappers of the record can be put there one after the other. -/
theorem eqvGen_wrappedSample (entry : Value) :
    Relation.EqvGen Wraps (bareSample entry) (wrappedSample entry) := by
  have hfield := Wraps.field sampleSchema [] (v := .natural 1)
    [.list [.string "a", .natural 0], .map [("k", entry)]] rfl
  have helement := (Wraps.element .zero [.string "a"] (.natural 0) []).inField sampleSchema
    [.present (.natural 1)] [.map [("k", entry)]]
  have hentry := (Wraps.entry .present [] "k" entry []).inField sampleSchema
    [.present (.natural 1), .list [.string "a", .zero (.natural 0)]] []
  exact ((Relation.EqvGen.rel _ _ hfield).trans _ _ _ (.rel _ _ helement)).trans _ _ _
    (.rel _ _ hentry)

/-- The wrappers change neither the arguments of the record nor its error, and an option around the
whole record takes the name of the record from the path in the error. -/
theorem sample_tables_wrapped :
    (wrappedSample (.natural 2)).tables none = (bareSample (.natural 2)).tables none ∧
      (bareSample (.natural 2)).args none = .ok ["-drive", "size=1,tags=a:0,k=2"] ∧
      (wrappedSample (.unsupported "f64")).tables none =
        .error (.unsupportedShape ["Sample", "extra", "k"] (.unsupportedKind "f64")) ∧
      (Value.present (bareSample (.unsupported "f64"))).tables none =
        .error (.unsupportedShape ["extra", "k"] (.unsupportedKind "f64")) ∧
      (bareSample (.unsupported "f64")).tables none =
        ((Value.present (bareSample (.unsupported "f64"))).tables none).mapError
          (.withRoot ["Sample"]) := by
  obtain ⟨hsame, -⟩ := tables_wrapped (eqvGen_wrappedSample (.natural 2)) none
  obtain ⟨hfail, hroot⟩ := tables_wrapped (eqvGen_wrappedSample (.unsupported "f64")) none
  exact ⟨hsame, by rfl, hfail.trans (by rfl), by rfl, hroot .present⟩

end Value

end MachineArgs
