import LineShell.Proofs.Shell.Course

/-! Lines whose operands cannot be read to the end. No handler runs on such a line if errors count
as errors, whatever else does; the severities that count are up to the host, and without errors
among them a handler may run on the part that was read. -/
namespace LineShell

open LineShell.Line LineShell.Text

variable {s t : Shell} {line name : String} {command : Command} {c : Context} {u : Scanner}
  {errors : Severities}

/-- The arguments of the current line, or the options behind them, cannot be read to the end. -/
inductive Context.Misread (c : Context) : Prop
  | arguments {d : Context} (h : c.parseArguments = .ok (false, d))
  | options {d e : Context} (h : c.parseArguments = .ok (true, d))
      (h' : d.parseOptions = .ok (false, e))

theorem Framed.judge {α : Type} {f : Context → α} (hf : Framed f) (s : Shell) (name : String) :
    f (s.judge name).2.context = f s.context := by
  unfold Shell.judge
  split
  · exact hf.write _ _
  · split
    · rfl
    · exact hf.examine s.context _

theorem readName_errorSeverities (c : Context) (line : String) :
    (c.readName (Scanner.ofLine line).skipBlanks).2.errorSeverities = c.errorSeverities := by
  have hreading := nameReading c line
  generalize c.readName (Scanner.ofLine line).skipBlanks = n at hreading ⊢
  cases hreading <;> rfl

/-- Reading a line does not change which severities count as errors. -/
theorem Shell.Consults.errorSeverities (h : s.Consults line t name) :
    t.context.errorSeverities = s.context.errorSeverities := by
  induction h with
  | @first c h =>
    have hkeeps := readName_errorSeverities (s.context.reset.setInput line) line
    rw [show c = (s.context.start line).2 by rw [h]]
    exact hkeeps
  | @again t u v name command _ hjudge _ hrewind ih =>
    have hkeeps := framed_errorSeverities.judge t name
    have hrewound := readName_errorSeverities
      ({ u.context with arguments := [], options := .empty }.setInput u.context.remainder)
      u.context.remainder
    have hv : v = u.rewind.2 := by rw [hrewind]
    rw [hjudge] at hkeeps
    rw [← ih, ← hkeeps, readClock_context, hv]
    exact hrewound

theorem hasErrors_readArguments (h : (c.readArguments u).1 = false)
    (herror : .error ∈ c.errorSeverities) : (c.readArguments u).2.hasErrors = true := by
  unfold Context.readArguments at h ⊢
  dsimp only at h ⊢
  split at h
  · cases h
  · exact hasErrors_trigger rfl herror

theorem hasErrors_readOptions (h : (c.readOptions u).1 = false)
    (herror : .error ∈ c.errorSeverities) : (c.readOptions u).2.hasErrors = true := by
  unfold Context.readOptions at h ⊢
  dsimp only at h ⊢
  split
  · exact hasErrors_trigger rfl herror
  · split
    · next hu hempty => simp [hu, hempty] at h
    · exact hasErrors_trigger rfl herror

theorem readArguments_of_parse {n : Bool × Context} (h : c.parseArguments = .ok n) :
    ∃ u, c.scanner = some u ∧ c.readArguments u = n := by
  unfold Context.parseArguments at h
  split at h
  · cases h
  · next u hu => exact ⟨u, hu, Except.ok.inj h⟩

theorem readOptions_of_parse {n : Bool × Context} (h : c.parseOptions = .ok n) :
    ∃ u, c.scanner = some u ∧ c.readOptions u = n := by
  unfold Context.parseOptions at h
  split at h
  · cases h
  · next u hu => exact ⟨u, hu, Except.ok.inj h⟩

/-- Operands that cannot be read to the end stop a command where errors count. -/
theorem examine_of_misread (h : c.Misread) (herror : .error ∈ c.errorSeverities) :
    (c.examine command).1 = .stop ∧ (c.examine command).2.hasErrors = true := by
  cases h with
  | arguments h =>
    obtain ⟨u, hu, hread⟩ := readArguments_of_parse h
    have hfalse : (c.readArguments u).1 = false := by rw [hread]
    have hstop := hasErrors_readArguments hfalse herror
    rw [examine_phases hu]
    dsimp only
    rw [if_pos hstop]
    exact ⟨rfl, hstop⟩
  | @options d e h h' =>
    obtain ⟨u, hu, hread⟩ := readArguments_of_parse h
    obtain ⟨v, hv, hread'⟩ := readOptions_of_parse h'
    have hd : (c.readArguments u).2 = d := by rw [hread]
    have hscanner : v = (scanOperands c.bindings u).1.scanner := by
      rw [← hd, readArguments_scanner] at hv
      exact (Option.some.inj hv).symm
    have hfalse : (d.readOptions v).1 = false := by rw [hread']
    have herror' : .error ∈ d.errorSeverities := by
      rw [← hd, framed_errorSeverities.readArguments]
      exact herror
    have hstop := hasErrors_readOptions hfalse herror'
    rw [examine_phases hu]
    dsimp only
    rw [hd, ← hscanner]
    split
    · next hbefore => exact ⟨rfl, hbefore⟩
    · exact ⟨rfl, hstop⟩

/-- A line that cannot be read comes to no handler where errors count. -/
theorem dispatch_of_misread (hconsults : s.Consults line t name)
    (hfind : t.find? name = some command) (hplain : command.handler.isIntercepting = false)
    (h : t.context.Misread) (herror : .error ∈ s.context.errorSeverities) :
    ∃ u ms, t.judge name = (.stop, u) ∧ Timings ms ∧ s.dispatch line = (false, u.timed ms) := by
  obtain ⟨hstop, hcounts⟩ : (t.context.examine command).1 = .stop ∧ _ :=
    examine_of_misread h (hconsults.errorSeverities ▸ herror)
  have hjudge := judge_of_plain hfind hplain
  rw [hstop] at hjudge
  have hreached := hconsults.reached
  rw [hjudge] at hreached
  obtain ⟨ms, hms, henact⟩ := hreached.runs Shell.reenter
  refine ⟨_, ms, hjudge, hms, ?_⟩
  rw [dispatch_eq, henact, Shell.enact, hasErrors_of_timed hcounts]
  rfl

/-- Where errors do not count, a command that needs no arguments runs in front of a text that cannot
be read at all. -/
theorem examine_of_leftover (hu : c.scanner = some u) (hnew : c.arguments = [] ∧ c.options = .empty)
    (hclean : c.hasErrors = false) (herror : .error ∉ c.errorSeverities)
    (hargs : (scanOperands c.bindings u).1.unbound = none ∧
      (scanOperands c.bindings u).1.arguments = [])
    (hopts : (scanOperands c.bindings u).2.unbound = none ∧
      (scanOperands c.bindings u).2.options = [])
    (hleft : (scanOperands c.bindings u).2.scanner.isEmpty = false)
    (hleast : command.arity.least = 0) :
    c.Misread ∧ (c.examine command).1 = .call command := by
  let f : Fault := .malformed (scanOperands c.bindings u).2.scanner.remaining Context.optionAdvice
  have hread := readArguments_bound hargs.1
  have hstuck : _ = (false, (c.filled (scanOperands c.bindings u)).trigger f) :=
    readOptions_left hopts.1 hleft
  constructor
  · have hparse : c.parseArguments = .ok (true, c.argued (scanOperands c.bindings u).1) := by
      rw [Context.parseArguments, hu]
      exact congrArg Except.ok hread
    exact .options hparse (congrArg Except.ok hstuck)
  · let d : Operands := ⟨[], [], []⟩
    have hstill : (c.trigger f).hasErrors = false := (hasErrors_write herror).trans hclean
    have hheld : (c.filled (scanOperands c.bindings u)).trigger f =
        (c.trigger f).holding (scanOperands c.bindings u).2.scanner (d.texts c.bindings)
          (d.optionMap c.bindings) := by
      simp only [Context.filled, hargs.2, hopts.2, hnew.1, hnew.2]
      rfl
    have hbare : ¬ Bare command c.bindings d := by
      rintro ⟨hneeds, _⟩
      exact absurd hleast hneeds.ne'
    have htakes : Takes command d.arguments.length :=
      ⟨hleast.le, .inl fun greatest _ => Nat.zero_le greatest⟩
    have hsettled : ((c.trigger f).holding (scanOperands c.bindings u).2.scanner
        (d.texts c.bindings) (d.optionMap c.bindings)).settled command = _ :=
      (settled_of_declined (.inl rfl) hstill _).trans
        (weigh_of_suits (c := c.trigger f) hbare htakes _)
    have hunstopped : ((c.filled (scanOperands c.bindings u)).trigger f).hasErrors = false := hstill
    rw [← hheld] at hsettled
    rw [examine_argued hu hclean hargs.1 hstuck, if_neg (Bool.eq_false_iff.mp hunstopped), hsettled]

/-- The standard shell where the given severities count as errors. -/
def Shell.counting (errors : Severities) : Shell :=
  Shell.standard.mapContext fun c => { c with errorSeverities := errors }

/-- Where errors do not count, `noop` runs although a quote is left over behind its name. -/
theorem noop_runs_on_quote (h : .error ∉ errors) : ∃ t name u,
    (Shell.counting errors).Consults "noop \"" t name ∧
      t.find? name = some Builtin.noop.command ∧ t.context.Misread ∧
      t.judge name = (.call Builtin.noop.command, u) := by
  let word : Spaced Lexeme := ⟨[], .bare "noop".toList⟩
  let p := pastName "noop \"" word
  let c := ((Shell.counting errors).context.reset.setInput "noop \"").named p
    (word.expanded .empty)
  have hname : word.Heads "noop \"".toList [' ', '"'] := by
    have hword : Unquoted "noop".toList := by decide
    have htoken : NameAt word.token ("noop".toList ++ [' ', '"']) [' ', '"'] :=
      .bare hword.nonempty hword.unquoted hword.solid (gap_space.atGap ['"'])
    exact heads_iff.mpr ⟨_, by simp [word, Blank], rfl, htoken⟩
  have hstart : (Shell.counting errors).context.start "noop \"" = (true, c) :=
    start_of_heads hname (bound_of_plain (by decide))
  have hexpanded : word.expanded .empty = "noop" := by decide
  have hfind : { Shell.counting errors with context := c }.find? (word.expanded .empty) =
      some Builtin.noop.command := by
    rw [hexpanded]
    rfl
  -- what is scanned does not depend on what counts as an error
  have hargs : (scanOperands .empty p).1.unbound = none ∧
      (scanOperands .empty p).1.arguments = [] := by decide +kernel
  have hopts : (scanOperands .empty p).2.unbound = none ∧
      (scanOperands .empty p).2.options = [] := by decide +kernel
  have hleft : (scanOperands .empty p).2.scanner.isEmpty = false := by decide +kernel
  have hleast : Builtin.noop.command.arity.least = 0 := rfl
  obtain ⟨hmisread, hcall⟩ := examine_of_leftover (c := c) rfl ⟨rfl, rfl⟩ rfl h hargs hopts hleft
    hleast
  have hjudge := judge_of_plain hfind rfl
  rw [hcall] at hjudge
  exact ⟨_, _, _, .first hstart, hfind, hmisread, hjudge⟩

/-- Exactly where errors count as errors no handler runs on a line that cannot be read to its end:
in the course of any line, once the arguments or the options of a command cannot be, it stops, the
answer is no, and only times are logged after the fault. This holds whatever else counts as an
error. -/
theorem misread_stops_iff (errors : Severities) : .error ∈ errors ↔
    ∀ (s t : Shell) (line name : String) (command : Command),
      s.context.errorSeverities = errors → s.Consults line t name →
      t.find? name = some command → command.handler.isIntercepting = false →
      t.context.Misread →
      ∃ u ms, t.judge name = (.stop, u) ∧ Timings ms ∧ s.dispatch line = (false, u.timed ms) := by
  constructor
  · rintro herror s t line name command rfl hconsults hfind hplain h
    exact dispatch_of_misread hconsults hfind hplain h herror
  · intro hstops
    by_contra hnone
    obtain ⟨t, name, u, hconsults, hfind, hmisread, hjudge⟩ := noop_runs_on_quote hnone
    obtain ⟨v, _, hstop, _⟩ := hstops _ t _ name _ rfl hconsults hfind rfl hmisread
    rw [hjudge] at hstop
    cases hstop

/-- If a host has nothing count as an error, a handler runs on a line that is read in part. -/
theorem handler_runs_on_misread_line : ∃ (t u : Shell) (name : String),
    (Shell.counting []).Consults "noop \"" t name ∧
      t.find? name = some Builtin.noop.command ∧
      Builtin.noop.command.handler.isIntercepting = false ∧ t.context.Misread ∧
      t.judge name = (.call Builtin.noop.command, u) ∧
      (Shell.counting []).Reached "noop \"" (.call Builtin.noop.command, u) := by
  obtain ⟨t, name, u, hconsults, hfind, hmisread, hjudge⟩ := noop_runs_on_quote List.not_mem_nil
  exact ⟨t, u, name, hconsults, hfind, rfl, hmisread, hjudge, hjudge ▸ hconsults.reached⟩

end LineShell
