import MachineArgs.Value

/-!
# Durations

A span of time is written as a whole number in the largest unit that divides it: `30s`, `250ms`,
`15us`, `7ns`. The empty span is a zero value that still has a written form, `0s`.
-/

namespace MachineArgs

/-- Seconds and a part of a second. -/
structure Duration where
  /-- Whole seconds. -/
  seconds : Nat
  /-- Nanoseconds beyond them. -/
  nanoseconds : Nat

namespace Duration

/-- The units of durations, largest first: name and length in nanoseconds. -/
def units : List (String × Nat) :=
  [("s", 1000000000), ("ms", 1000000), ("us", 1000), ("ns", 1)]

/-- The whole span in nanoseconds. -/
def total (d : Duration) : Nat :=
  d.seconds * 1000000000 + d.nanoseconds

/-- A span of `n` nanoseconds in the first of the given units that divides it. -/
def textIn (n : Nat) : List (String × Nat) → String
  | [] => ""
  | (name, size) :: rest => if n % size = 0 then toString (n / size) ++ name else textIn n rest

/-- The written form. -/
def text (d : Duration) : String :=
  textIn d.total units

instance : ToValue Duration := ⟨fun d ↦ .zeroIf (d.total == 0) (.text d.text)⟩

end Duration

end MachineArgs
