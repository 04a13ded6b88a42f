import LineShell.Proofs.Shell.Course

/-! Handlers that break off. The line still ends with an answer: what the handler did before is
kept, one message says what it broke off with, and the next line finds nothing else of it. -/
namespace LineShell

open LineShell.Line LineShell.Text

variable {s t u v : Shell} {line : String} {command : Command} {n : Verdict × Shell}
  {p : Program} {qs : List Query} {r : Raised} {m : Message} {ms : List Message}

/-- A program, run in a shell, puts queries to its context and breaks off without having handed a
line to the shell: it raises something, or does not catch that a query or a registration is
refused. -/
inductive Program.BreaksOff : Program → Shell → List Query → Raised → Shell → Prop
  | raise {r : Raised} {s : Shell} : BreaksOff (.raise r) s [] r s
  | ask {q : Query} {next : Except Failure Value → Program} {s t : Shell}
      {answer : Except Failure Value} {c : Context} {qs : List Query} {r : Raised}
      (h : q.run s.context = (answer, c))
      (h' : BreaksOff (next answer) { s with context := c } qs r t) :
      BreaksOff (.ask q next) s (q :: qs) r t
  | note {value : Value} {next : Program} {s t : Shell} {qs : List Query} {r : Raised}
      (h : BreaksOff next (s.note value) qs r t) : BreaksOff (.note value next) s qs r t
  | register {made : Except Failure (Option Command)} {next : Except Failure Unit → Program}
      {s t u : Shell} {answer : Except Failure Unit} {qs : List Query} {r : Raised}
      (h : s.registerMade made = (answer, t)) (h' : BreaksOff (next answer) t qs r u) :
      BreaksOff (.register made next) s qs r u
  | listing {next : Except Failure String → Program} {s t u : Shell} {text : String}
      {qs : List Query} {r : Raised} (h : s.listing = (text, t))
      (h' : BreaksOff (next (.ok text)) t qs r u) : BreaksOff (.listing next) s qs r u

theorem run_of_breaksOff (reenter : Dispatcher) (h : p.BreaksOff s qs r t) :
    p.run reenter s = (.error r, t) := by
  induction h with
  | raise => rfl
  | ask h _ ih | register h _ ih | listing h _ ih => simpa only [Program.run, h] using ih
  | note _ ih => exact ih

/-- The context after queries, one after the other. -/
def Context.after (c : Context) (qs : List Query) : Context :=
  qs.foldl (fun c q => (q.run c).2) c

/-- A registration changes nothing in the context. -/
theorem registerAny_context {made : Except Failure (Option Command)}
    (h : made.bind s.registerAny = .ok t) : t.context = s.context := by
  cases made with
  | error f => cases h
  | ok made =>
    cases made with
    | none => cases h
    | some command =>
      change s.register command = .ok t at h
      unfold Shell.register at h
      split at h
      · cases h
      · rw [← Except.ok.inj h]

theorem registerMade_context (s : Shell) (made : Except Failure (Option Command)) :
    (s.registerMade made).2.context = s.context := by
  unfold Shell.registerMade
  split
  · next hmade => exact registerAny_context hmade
  · rfl

/-- A listing that is made changes neither the context nor the commands. -/
theorem listing_kept (s : Shell) :
    s.listing.2.context = s.context ∧ s.listing.2.commands = s.commands := by
  unfold Shell.listing
  split <;> exact ⟨rfl, rfl⟩

theorem context_of_breaksOff (h : p.BreaksOff s qs r t) : t.context = s.context.after qs := by
  induction h with
  | raise => rfl
  | ask h _ ih => simpa only [Context.after, List.foldl, h] using ih
  | note _ ih => exact ih
  | @register made _ s _ _ _ _ _ h _ ih =>
    have hcontext := registerMade_context s made
    rw [h] at hcontext
    exact ih.trans (congrArg (Context.after · _) hcontext)
  | @listing _ s _ _ _ _ _ h _ ih =>
    obtain ⟨hcontext, _⟩ := listing_kept s
    rw [h] at hcontext
    exact ih.trans (congrArg (Context.after · _) hcontext)

/-- The message on what a handler broke off with. -/
def Raised.entry : Raised → Message
  | .fault f => f.entry
  | .failure f => f.wrapped.entry

/-- What a message says of what a handler broke off with: a fault speaks for itself, and any other
failure is an error with its text, or its kind where it has none, and with a trace. -/
def Raised.Reports (m : Message) : Raised → Prop
  | .fault f => m.text = f.text ∧ m.severity = f.kind.severity ∧ m.code = f.code ∧
      m.title = f.title ∧ m.hint = f.hint ∧ m.trace = f.trace
  | .failure f => m.severity = .error ∧ m.code = some .handlerFault ∧
      m.text = (if f.message = "" then f.kind.name else f.message) ∧ m.trace ≠ ""

theorem reports_entry (r : Raised) : r.Reports r.entry := by
  cases r with
  | fault f => exact ⟨rfl, rfl, rfl, rfl, rfl, rfl⟩
  | failure f =>
    refine ⟨rfl, rfl, ?_, f.raisedTrace_ne_empty⟩
    simp [Raised.entry, Fault.entry, Failure.wrapped, Fault.text, Failure.summary,
      String.isEmpty_iff]

theorem settle_error (r : Raised) (t : Shell) :
    Shell.settle (.error r, t) = t.mapContext (·.write r.entry) := by
  cases r <;> rfl

/-- The program of a host that a decision of the gate runs. -/
inductive Shell.Starts : Verdict × Shell → Program → Prop
  | plain {name : String} {program : Program} {command : Command} {u : Shell}
      (h : command.handler = .plain name program) : Starts (.call command, u) program
  | intercepting {name : String} {program : String → Program} {command : Command} {u : Shell}
      (h : command.handler = .intercepting name program) :
      Starts (.intercept command, u) (program u.context.remainder)

theorem enact_of_starts (reenter : Dispatcher) (h : Shell.Starts n p) :
    Shell.enact reenter n = Shell.settle (p.run reenter n.2) := by
  cases h with
  | plain h => simp [Shell.enact, h, Handler.isTimer, Shell.call]
  | intercepting h => simp only [Shell.enact, h, Shell.intercept]

/-- The shell with a context in which nothing has run yet: only the log, the parsers, the variables
and the severities that count as errors are kept. -/
def Shell.renewed (s : Shell) : Shell :=
  s.mapContext fun c => { Context.fresh c.journal with
    registry := c.registry
    bindings := c.bindings
    errorSeverities := c.errorSeverities }

/-- A line finds nothing of the lines before it but what a new context is given as well. -/
theorem dispatch_renewed (s : Shell) (line : String) :
    s.renewed.dispatch line = s.dispatch line := by
  have hgate : s.renewed.gate line = s.gate line := rfl
  rw [dispatch_eq, dispatch_eq, hgate]

/-- A handler of a host breaks off without harm, whether its line names it alone or behind words
`time`. The line ends with an answer. What the handler did with its context is kept: the variables
it bound, what it logged, the options it consumed. One message reports what it broke off with, and
only messages on times follow, none where the line names the handler alone. Every line after that
runs as if in a new context with the same variables, commands, parsers, log and severities that
count. -/
theorem fault_isolation (hreached : s.Reached line n) (hstarts : Shell.Starts n p)
    (hbreaks : p.BreaksOff n.2 qs r t) :
    ∃ answer v m ms, Shell.runLineAny Shell.reenter (.text line) s = (.ok answer, v) ∧
      s.dispatch line = (answer, v) ∧ answer = !v.context.hasErrors ∧
      t.context = n.2.context.after qs ∧ r.Reports m ∧ Timings ms ∧
      v = (t.mapContext (·.write m)).timed ms ∧ (n = s.gate line → ms = []) ∧
      v.context.bindings = t.context.bindings ∧ v.context.options = t.context.options ∧
      v.context.logged = t.context.logged ++ m :: ms ∧
      v.context.journal = (m :: ms).foldl Journal.write t.context.journal ∧
      ∀ line', v.dispatch line' = v.renewed.dispatch line' := by
  obtain ⟨ms, hms, hnone, henact⟩ : ∃ ms, Timings ms ∧ (n = s.gate line → ms = []) ∧
      Shell.enact Shell.reenter (s.gate line) = (Shell.enact Shell.reenter n).timed ms := by
    by_cases halone : n = s.gate line
    · exact ⟨[], by simp [Timings], fun _ => rfl, by rw [halone, timed_nil]⟩
    · obtain ⟨ms, hms, henact⟩ := hreached.runs Shell.reenter
      exact ⟨ms, hms, fun h => absurd h halone, henact⟩
  rw [enact_of_starts Shell.reenter hstarts, run_of_breaksOff Shell.reenter hbreaks,
    settle_error] at henact
  have hdispatch := dispatch_eq s line
  have hany : Shell.runLineAny Shell.reenter (.text line) s =
      (.ok (s.dispatch line).1, (s.dispatch line).2) := rfl
  rw [henact] at hdispatch
  rw [hdispatch] at hany
  refine ⟨_, _, r.entry, ms, hany, hdispatch, rfl, context_of_breaksOff hbreaks, reports_entry r,
    hms, rfl, hnone, ?_, ?_, ?_, foldl_write_journal ms _,
    fun line' => (dispatch_renewed _ line').symm⟩
  · exact foldl_write_keeps Context.bindings (fun _ _ => rfl) (r.entry :: ms) t.context
  · exact foldl_write_keeps Context.options (fun _ _ => rfl) (r.entry :: ms) t.context
  · exact foldl_write_logged (r.entry :: ms) t.context

/-- A program that binds a variable, logs a text and breaks off with a failure without text. -/
def breakingProgram : Program :=
  .ask (.setVariable (.text "x") "1") <| .onward fun _ =>
    .log (.text "before") (.raise (.failure ⟨.value, ""⟩))

/-- A command that breaks off. -/
def breakingCommand : Command :=
  { name := "break", arity := ⟨0, none, fun n _ => n.zero_le⟩, help := "", extended := .ofText ""
    tolerant := false, handler := .plain "broken" breakingProgram }

/-- The standard shell with a command that breaks off. -/
def Shell.breaking : Shell :=
  { Shell.standard with commands := Shell.standard.commands.insert "break" breakingCommand }

theorem breakingProgram_breaksOff (s : Shell) : breakingProgram.BreaksOff s
    [.setVariable (.text "x") "1", .log (.text "before") .message] (.failure ⟨.value, ""⟩)
    (s.mapContext fun c => (c.bindVariable "x" "1").logText "before") :=
  .ask rfl (.ask rfl .raise)

theorem fault_isolation_timed : ∃ (n : Verdict × Shell) (answer : Bool) (v : Shell) (m : Message)
    (ms : List Message),
    Shell.breaking.Reached (timeLine (printLine "break" [] [])) n ∧
      Shell.Starts n breakingProgram ∧
      breakingProgram.BreaksOff n.2 [.setVariable (.text "x") "1", .log (.text "before") .message]
        (.failure ⟨.value, ""⟩)
        (n.2.mapContext fun c => (c.bindVariable "x" "1").logText "before") ∧
      Shell.breaking.dispatch (timeLine (printLine "break" [] [])) = (answer, v) ∧
      v.context.bindings.find? "x" = some "1" ∧
      v.context.logged = { text := "before" } :: m :: ms ∧ m.text = "ValueError" ∧
      m.code = some .handlerFault ∧ Timings ms := by
  have hprintable : Printable "break" [] [] := by decide
  have htimeable : Timeable Shell.breaking.context.bindings (printLine "break" [] []) :=
    timeable_printLine hprintable (by decide) rfl
  have hreached := reached_timeLines rfl htimeable 1
  have hsuits : Suits breakingCommand (Shell.breaking.later 1).context.bindings
      (segmentsOf "break" [] []).operands := by
    refine ⟨(bound_segmentsOf hprintable).2, .inl rfl, ?_, Nat.zero_le _, .inl ?_⟩
    · rintro ⟨hleast, _⟩
      cases hleast
    · simp [breakingCommand]
  obtain ⟨text, hname, hcut⟩ := hprintable.cut
  obtain ⟨u, hgate⟩ := gate_of_suits (s := Shell.breaking.later 1) hname
    (bound_segmentsOf hprintable).1 rfl rfl hcut hsuits
  rw [hgate] at hreached
  have hstarts : ∀ u, Shell.Starts (.call breakingCommand, u) breakingProgram :=
    fun _ => .plain rfl
  have hbreaks := breakingProgram_breaksOff
  obtain ⟨answer, v, m, ms, _, hdispatch, _, _, hreports, hms, _, _, hbindings, _, hlogged, _⟩ :=
    fault_isolation hreached (hstarts _) (hbreaks _)
  refine ⟨_, answer, v, m, ms, hreached, hstarts _, hbreaks _, hdispatch, ?_, hlogged,
    hreports.2.2.1, hreports.2.1, hms⟩
  rw [hbindings]
  exact NameMap.find?_insert_self _ _ _

end LineShell
