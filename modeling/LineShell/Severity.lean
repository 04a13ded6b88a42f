/-!
The severities of logged messages.
-/

namespace LineShell

/-- What kind of message an entry of the log is. -/
inductive Severity
  | error
  | assertion
  | warning
  | message
  | exception
  | input
  | shell
deriving DecidableEq

namespace Severity

/-- The name of a severity. -/
def name : Severity → String
  | error => "error"
  | assertion => "assert"
  | warning => "warning"
  | message => "message"
  | exception => "exception"
  | input => "input"
  | shell => "shell"

/-- Every severity. -/
def all : List Severity :=
  [error, assertion, warning, message, exception, input, shell]

/-- The severity of a name. -/
def ofName? (name : String) : Option Severity :=
  all.find? fun s => s.name = name

@[simp] theorem mem_all (s : Severity) : s ∈ all := by
  cases s <;> simp [all]

end Severity

/-- Severities seen so far, each once, in the order of their names. -/
abbrev Severities := List Severity

namespace Severities

/-- The severities with one more. -/
def add (seen : Severities) (s : Severity) : Severities :=
  if seen.contains s then seen else seen ++ [s]

/-- The severities without one. -/
def remove (seen : Severities) (s : Severity) : Severities :=
  seen.filter (· ≠ s)

/-- Whether two sets of severities have a common member. -/
def meets (xs ys : Severities) : Bool :=
  xs.any ys.contains

/-- The names of severities, in alphabetical order. -/
def names (seen : Severities) : List String :=
  ((Severity.all.filter seen.contains).map Severity.name).mergeSort

theorem mem_add {seen : Severities} {s t : Severity} : t ∈ seen.add s ↔ t ∈ seen ∨ t = s := by
  unfold add
  split
  · next h =>
    simp only [List.contains_iff_mem] at h
    constructor
    · exact .inl
    · rintro (ht | rfl)
      · exact ht
      · exact h
  · simp

theorem meets_iff {xs ys : Severities} : xs.meets ys = true ↔ ∃ s ∈ xs, s ∈ ys := by
  simp [meets]

end Severities

end LineShell
