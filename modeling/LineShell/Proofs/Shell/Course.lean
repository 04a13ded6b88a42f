import LineShell.Proofs.Shell.Timing

/-! The course of running a line: the gate decides once, and again for each command that times
another one. All that the line leaves is what its last decision comes to, and the messages on the
times taken. -/
namespace LineShell

open LineShell.Line LineShell.Text

variable {s t u : Shell} {line name : String} {command : Command} {n : Verdict × Shell}
  {ms : List Message}

/-- The messages are on times that commands took. -/
def Timings (ms : List Message) : Prop := ∀ m ∈ ms, ∃ name duration, m = timing name duration

theorem timed_nil (s : Shell) : s.timed [] = s := rfl

/-- Whatever the gate decides in the course of running a line is carried out once. -/
theorem Shell.Reached.runs (reenter : Dispatcher) (h : s.Reached line n) :
    ∃ ms, Timings ms ∧ Shell.enact reenter (s.gate line) = (Shell.enact reenter n).timed ms := by
  induction h with
  | first => exact ⟨[], by simp [Timings], (timed_nil _).symm⟩
  | @again command t u _ htimer hrewind ih =>
    obtain ⟨ms, hms, henact⟩ := ih
    obtain ⟨duration, hinner⟩ := enact_timer reenter htimer hrewind
    refine ⟨timing (u.context.commandName.getD "") duration :: ms, ?_, ?_⟩
    · exact List.forall_mem_cons.mpr ⟨⟨_, duration, rfl⟩, hms⟩
    · rw [henact, hinner, timed_timed]
      rfl

/-- Messages on times leave errors as they were found. -/
theorem hasErrors_of_timed (h : s.context.hasErrors = true) :
    (s.timed ms).context.hasErrors = true := by
  unfold Shell.timed
  generalize s.context = c at h
  induction ms generalizing c with
  | nil => exact h
  | cons m ms ih =>
    obtain ⟨x, hx, herror⟩ := Severities.meets_iff.mp h
    exact ih (c.write m) (Severities.meets_iff.mpr ⟨x, Severities.mem_add.mpr (.inl hx), herror⟩)

/-- The gate decides once about a line that times no command. -/
theorem reached_of_untimed
    (huntimed : ∀ command, (s.gate line).1 = .call command → command.handler.isTimer = false)
    (h : s.Reached line n) : n = s.gate line := by
  induction h with
  | first => rfl
  | @again command t u _ htimer _ ih =>
    have hplain := huntimed command (congrArg Prod.fst ih).symm
    rw [htimer] at hplain
    cases hplain

/-- A line that makes no handler run comes to nothing further. -/
theorem reached_of_stop (hstop : (s.gate line).1 = .stop) (h : s.Reached line n) :
    n = s.gate line := by
  refine reached_of_untimed (fun command hcall => ?_) h
  rw [hstop] at hcall
  cases hcall

/-- The states in which a command is looked up in the course of running a line, and the names under
which it is. -/
inductive Shell.Consults (s : Shell) (line : String) : Shell → String → Prop
  | first {c : Context} (h : s.context.start line = (true, c)) :
      s.Consults line { s with context := c } (c.commandName.getD "")
  | again {t u v : Shell} {name : String} {command : Command} (h : s.Consults line t name)
      (hjudge : t.judge name = (.call command, u)) (htimer : command.handler.isTimer = true)
      (hrewind : u.rewind = (true, v)) :
      s.Consults line v.readClock.2 (v.context.commandName.getD "")

theorem Shell.Consults.reached (h : s.Consults line t name) : s.Reached line (t.judge name) := by
  induction h with
  | first h =>
    rw [← gate_of_start h]
    exact .first
  | again _ hjudge htimer hrewind ih =>
    rw [hjudge] at ih
    exact ih.again htimer hrewind

end LineShell
