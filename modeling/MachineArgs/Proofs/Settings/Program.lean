import MachineArgs.Proofs.Machine.Failure
import MachineArgs.Settings

/-!
# Which program runs

The words of the program come from the first of three places that has any: the environment, the
settings, the default (`Settings.Names`). Each place has a check of its own. Text from the
environment must be balanced, checked settings do not begin with an empty word, and the default is
used as it is.

So a machine by checked settings has a program, except where the words from the environment begin
with an empty one, as those of a pair of quotes around nothing do. Such a word counts as a word and
wins over the settings, and only the description refuses it (`describe_ofSettings`). This holds for
any splitter that gives words or none.
-/

namespace MachineArgs

namespace Settings

variable {s : Settings} {environment : Option String} {split : String → Option (List String)}
  {binary : List String}

/-- The words that the environment supplies, unless the settings do not listen to it. There are none
if its text cannot be split. -/
def supplied (s : Settings) (environment : Option String)
    (split : String → Option (List String)) : List String :=
  ((if s.ignoreEnvironment then none else environment).bind split).getD []

/-- Where the words of the program come from: the first place that has any. -/
inductive Names (s : Settings) (environment : Option String)
    (split : String → Option (List String)) : List String → Prop where
  /-- The environment supplies words. -/
  | supplied (hsome : s.supplied environment split ≠ []) :
      Names s environment split (s.supplied environment split)
  /-- The environment supplies none, and the settings do. -/
  | configured (hnone : s.supplied environment split = []) (hsome : s.binary ≠ []) :
      Names s environment split s.binary
  /-- Neither supplies any. -/
  | default (hnone : s.supplied environment split = []) (hempty : s.binary = []) :
      Names s environment split [defaultEmulator]

/-- Checked settings do not begin with an empty word. -/
theorem head?_binary_of_validate (h : s.validate = .ok s) : s.binary.head? ≠ some "" := by
  intro hempty
  have hfault := (validate_eq_ok.1 h).2
  rw [fault?, if_pos hempty] at hfault
  cases hfault

/-- A choice is made by the first place that has words. -/
theorem chooseBinary_eq_ok {configured : List String}
    (h : chooseBinary environment configured split = .ok binary) :
    binary = if (environment.bind split).getD [] = []
      then (if configured.isEmpty then [defaultEmulator] else configured)
      else (environment.bind split).getD [] := by
  cases environment with
  | none => exact (Except.ok.inj h).symm
  | some value =>
    rw [Option.bind_some]
    cases hwords : split value with
    | none => simp [chooseBinary, hwords] at h
    | some words =>
      simp only [chooseBinary, hwords] at h
      cases words with
      | nil => exact (Except.ok.inj h).symm
      | cons program args => exact (Except.ok.inj h).symm

/-- A program that is found comes from the first place that has words. -/
theorem names_of_resolveBinary (h : s.resolveBinary environment split = .ok binary) :
    s.Names environment split binary := by
  obtain rfl := chooseBinary_eq_ok h
  change s.Names environment split
    (if s.supplied environment split = [] then _ else s.supplied environment split)
  by_cases hsupplied : s.supplied environment split = []
  · rw [if_pos hsupplied]
    by_cases hempty : s.binary = []
    · rw [if_pos (List.isEmpty_iff.2 hempty)]
      exact .default hsupplied hempty
    · rw [if_neg (mt List.isEmpty_iff.1 hempty)]
      exact .configured hsupplied hempty
  · rw [if_neg hsupplied]
    exact .supplied hsupplied

/-- There is a first word wherever the words come from, and with checked settings it is empty only
if the environment supplies it. -/
theorem Names.head?_eq (hvalid : s.validate = .ok s) (h : s.Names environment split binary) :
    binary ≠ [] ∧ (binary.head? = some "" ↔ (s.supplied environment split).head? = some "") := by
  cases h with
  | supplied hsome => exact ⟨hsome, Iff.rfl⟩
  | configured hnone hsome =>
    have hhead := head?_binary_of_validate hvalid
    refine ⟨hsome, fun hempty ↦ absurd hempty hhead, fun hempty ↦ ?_⟩
    rw [hnone] at hempty
    cases hempty
  | default hnone hempty =>
    have hdefault : [defaultEmulator].head? ≠ some "" := by decide
    refine ⟨List.cons_ne_nil _ _, fun hempty ↦ absurd hempty hdefault, fun hempty ↦ ?_⟩
    rw [hnone] at hempty
    cases hempty

end Settings

namespace Machine

variable {s : Settings} {environment : Option String} {split : String → Option (List String)}
  {m : Machine}

/-- The machine by some settings runs the program that is found by them. -/
theorem resolveBinary_of_ofSettings (h : ofSettings s environment split = .ok m) :
    s.resolveBinary environment split = .ok m.binary := by
  obtain ⟨binary, hbinary, h⟩ := bind_eq_ok.1 h
  obtain rfl := Except.ok.inj h
  exact hbinary

/-- A machine by checked settings has a first word, whatever the environment says and however that
is split. The word is empty exactly if the environment supplies words and the first of them is
empty. Then, and only then, is the machine refused for the lack of a program, with whatever
devices. -/
theorem describe_ofSettings (hvalid : s.validate = .ok s)
    (h : ofSettings s environment split = .ok m) (devices : List (Option DeviceTree)) :
    m.binary ≠ [] ∧
    (m.binary.head? = some "" ↔ (s.supplied environment split).head? = some "") ∧
    ({ m with devices }.describe = .error .emptyBinary ↔
      (s.supplied environment split).head? = some "") := by
  have hnames := Settings.names_of_resolveBinary (resolveBinary_of_ofSettings h)
  obtain ⟨hne, hhead⟩ := hnames.head?_eq hvalid
  have hheadD : m.binary.headD "" = "" ↔ m.binary.head? = some "" := by
    cases hbinary : m.binary with
    | nil => exact absurd hbinary hne
    | cons program args => simp
  refine ⟨hne, hhead, ?_⟩
  rw [describe_eq_emptyBinary_iff, ← hhead]
  exact hheadD

/-- Checked settings that name a program, in an environment that names another one. -/
theorem describe_ofSettings_quoted :
    ({ binary := ["qemu"] } : Settings).validate = .ok { binary := ["qemu"] } ∧
    ofSettings { binary := ["qemu"] } (some "qemu-kvm -L '/x y'") =
      .ok { binary := ["qemu-kvm", "-L", "/x y"] } ∧
    ∀ devices, ({ binary := ["qemu-kvm", "-L", "/x y"], devices } : Machine).describe ≠
      .error .emptyBinary := by
  have hvalid : ({ binary := ["qemu"] } : Settings).validate = .ok { binary := ["qemu"] } := by rfl
  have hmachine : ofSettings { binary := ["qemu"] } (some "qemu-kvm -L '/x y'") =
      .ok { binary := ["qemu-kvm", "-L", "/x y"] } := by rfl
  refine ⟨hvalid, hmachine, fun devices herror ↦ ?_⟩
  obtain ⟨-, hhead, hdescribe⟩ := describe_ofSettings hvalid hmachine devices
  exact absurd (hhead.2 (hdescribe.1 herror)) (by decide)

/-- Quotes around nothing win over the settings as a program without a name. -/
theorem describe_ofSettings_blank :
    ({ binary := ["qemu"] } : Settings).validate = .ok { binary := ["qemu"] } ∧
    ofSettings { binary := ["qemu"] } (some "''") = .ok { binary := [""] } ∧
    ({ binary := [""] } : Machine).describe = .error .emptyBinary := by
  refine ⟨by rfl, by rfl, by rfl⟩

end Machine

end MachineArgs
