import LineShell.Proofs.Context.Examination
import LineShell.Proofs.Context.RoundTrip
import LineShell.Shell.Dispatch

/-! The gate as a whole: which lines make a handler run, what the handler finds, and what is logged
where none runs. -/
namespace LineShell

open LineShell.Line LineShell.Text

variable {s : Shell} {line name : String} {command : Command} {text : List Char} {d : Operands}
  {reenter : Dispatcher} {m : Message}

/-- What the gate decides on a line. -/
def Shell.gate (s : Shell) (line : String) : Verdict × Shell :=
  let n := s.context.start line
  if n.1 then { s with context := n.2 }.judge (n.2.commandName.getD "")
  else (.stop, { s with context := n.2 })

/-- Runs the one handler that the gate has decided on, if any. -/
def Shell.enact (reenter : Dispatcher) : Verdict × Shell → Shell
  | (.stop, s) => s
  | (.intercept command, s) => settle (intercept reenter command.handler s.context.remainder s)
  | (.call command, s) =>
    if command.handler.isTimer then runTimer reenter s
    else settle (call reenter command.handler s)

theorem runNamed_eq (reenter : Dispatcher) (name : String) (s : Shell) :
    s.runNamed reenter name = Shell.enact reenter (s.judge name) := by
  rw [Shell.runNamed]
  split
  · next t hjudge => rw [hjudge]; rfl
  · next command t hjudge => rw [hjudge]; rfl
  · next command t hjudge =>
    rw [hjudge, Shell.enact]
    split
    · rw [Shell.runTimer]
      split
      · next u hrewind => rw [hrewind]
      · next u hrewind => rw [hrewind]
    · rfl

/-- A line is run by running what the gate has decided on. -/
theorem runLine_eq (reenter : Dispatcher) (line : String) (s : Shell) :
    s.runLine reenter line =
      (!(Shell.enact reenter (s.gate line)).context.hasErrors,
        Shell.enact reenter (s.gate line)) := by
  unfold Shell.runLine Shell.gate
  cases hfound : (s.context.start line).1 with
  | true => simp [hfound, runNamed_eq]
  | false => simp [hfound, Shell.enact]

theorem dispatch_eq (s : Shell) (line : String) :
    s.dispatch line = (!(Shell.enact Shell.reenter (s.gate line)).context.hasErrors,
      Shell.enact Shell.reenter (s.gate line)) :=
  runLine_eq Shell.reenter line s

/-- A line selects a command, and a text follows its name. -/
def Shell.Selects (s : Shell) (line : String) (command : Command) (text : List Char) : Prop :=
  ∃ name : Spaced Lexeme, name.Heads line.toList text ∧ name.Bound s.context.bindings ∧
    s.find? (name.expanded s.context.bindings) = some command

/-- What is logged where a line makes no handler run. -/
inductive Abort (s : Shell) (line : String) : Message → Prop
  | malformed (hblank : ¬ Blank line.toList)
      (hnone : ∀ (name : Spaced Lexeme) (text : List Char), ¬ name.Heads line.toList text)
      (rest : String) : Abort s line (Fault.malformed rest "quotes must be closed").entry
  | unbound {name : Spaced Lexeme} {text : List Char} (hname : name.Heads line.toList text)
      (hbound : ¬ name.Bound s.context.bindings) (missing : String) :
      Abort s line (Fault.unboundReference missing).entry
  | unknown {name : Spaced Lexeme} {text : List Char} (hname : name.Heads line.toList text)
      (hbound : name.Bound s.context.bindings)
      (hnone : s.find? (name.expanded s.context.bindings) = none) :
      Abort s line (Shell.notFound (name.expanded s.context.bindings)
        (s.adviceFor (name.expanded s.context.bindings))).entry
  | refused {command : Command} {text : List Char} {m : Message}
      (hselect : s.Selects line command text) (hplain : command.handler.isIntercepting = false)
      (h : Refusal command s.context.bindings text m) : Abort s line m

/-- Nothing has been logged since a line began, and nothing but what is read of a line changed. -/
structure Silent (before after : Context) : Prop where
  journal : after.journal = before.journal
  logged : after.logged = []
  severities : after.severities = []
  bindings : after.bindings = before.bindings
  errorSeverities : after.errorSeverities = before.errorSeverities
  registry : after.registry = before.registry

/-- How the gate decides on a line. -/
inductive Admission (s : Shell) (line : String) : Verdict × Shell → Prop
  | blank {c : Context} (h : Blank line.toList) (hc : Silent s.context c) :
      Admission s line (.stop, { s with context := c })
  | abort {m : Message} {c : Context} (h : Abort s line m) (hc : Silent s.context c) :
      Admission s line (.stop, { s with context := c.write m })
  | intercept {command : Command} {text : List Char} {c : Context}
      (hselect : s.Selects line command text) (hraw : command.handler.isIntercepting = true)
      (hc : Silent s.context c)
      (hrest : c.remainder = String.ofList (text.dropWhile isBlank)) :
      Admission s line (.intercept command, { s with context := c })
  | call {command : Command} {text : List Char} {d : Operands} {c : Context}
      (hselect : s.Selects line command text) (hplain : command.handler.isIntercepting = false)
      (hcut : d.Cut text) (hsuits : Suits command s.context.bindings d)
      (hc : Silent s.context c) (hargs : c.arguments = d.texts s.context.bindings)
      (hopts : c.options = d.kept s.context.bindings) :
      Admission s line (.call command, { s with context := c.warnExtras command.arity })

theorem Silent.hasErrors {before after : Context} (h : Silent before after) :
    after.hasErrors = false := by
  rw [Context.hasErrors, h.severities]
  rfl

theorem Silent.holding {before after : Context} (h : Silent before after) (t : Scanner)
    (arguments : List String) (options : NameMap (Option String)) :
    Silent before (after.holding t arguments options) :=
  ⟨h.journal, h.logged, h.severities, h.bindings, h.errorSeverities, h.registry⟩

theorem Silent.taking {before after : Context} (h : Silent before after) (t : Scanner)
    (d : Operands) : Silent before (after.taking t d) :=
  h.holding t (d.texts after.bindings) (d.kept after.bindings)

/-- What the gate decides once a command name has been read. -/
theorem judge_admission {name : Spaced Lexeme} {t : Scanner} {c : Context}
    (hname : name.Heads line.toList text) (hbound : name.Bound s.context.bindings)
    (ht : t.rest = text.dropWhile isBlank) (hc : Silent s.context c)
    (hnew : c.arguments = [] ∧ c.options = .empty) (herror : .error ∈ s.context.errorSeverities) :
    Admission s line ({ s with context := c.named t (name.expanded s.context.bindings) }.judge
      (name.expanded s.context.bindings)) := by
  have hsilent : Silent s.context (c.named t (name.expanded s.context.bindings)) :=
    ⟨hc.journal, hc.logged, hc.severities, hc.bindings, hc.errorSeverities, hc.registry⟩
  unfold Shell.judge
  split
  · next hnone => exact .abort (.unknown hname hbound hnone) hsilent
  · next command hfind =>
    have hselect : s.Selects line command text := ⟨name, hname, hbound, hfind⟩
    split
    · next hraw =>
      refine .intercept hselect hraw hsilent ?_
      rw [← ht]
      rfl
    · next hplain =>
      have hexamination : Examination (c.named t (name.expanded s.context.bindings)) command text _ :=
        examination rfl ht hnew hsilent.hasErrors (hsilent.errorSeverities ▸ herror)
      generalize (c.named t (name.expanded s.context.bindings)).examine command = n
        at hexamination ⊢
      have hplain' := Bool.eq_false_iff.mpr hplain
      cases hexamination with
      | stop h u arguments options =>
        rw [hsilent.bindings] at h
        exact .abort (.refused hselect hplain' h) (hsilent.holding u arguments options)
      | @pass d hcut h u =>
        rw [hsilent.bindings] at h
        refine .call hselect hplain' hcut h (hsilent.taking u d) ?_ ?_
        · rw [← hsilent.bindings]
          rfl
        · rw [← hsilent.bindings]
          rfl

theorem admission (line : String) (herror : .error ∈ s.context.errorSeverities) :
    Admission s line (s.gate line) := by
  have hreading := nameReading (s.context.reset.setInput line) line
  have hstart : Silent s.context (s.context.reset.setInput line) := ⟨rfl, rfl, rfl, rfl, rfl, rfl⟩
  unfold Shell.gate Context.start
  generalize (s.context.reset.setInput line).readName (Scanner.ofLine line).skipBlanks = n
    at hreading ⊢
  cases hreading with
  | blank hblank => exact .blank hblank hstart
  | malformed hblank hnone rest => exact .abort (.malformed hblank hnone rest) hstart
  | unbound hname hbound =>
    exact .abort (.unbound hname hbound _) ⟨rfl, rfl, rfl, rfl, rfl, rfl⟩
  | read hname hbound ht => exact judge_admission hname hbound ht hstart ⟨rfl, rfl⟩ herror

theorem start_of_heads {name : Spaced Lexeme} (hname : name.Heads line.toList text)
    (hbound : name.Bound s.context.bindings) : s.context.start line =
      (true, (s.context.reset.setInput line).named (pastName line name)
        (name.expanded s.context.bindings)) :=
  readName_of_heads hname hbound

theorem gate_of_start {c : Context} (h : s.context.start line = (true, c)) :
    s.gate line = { s with context := c }.judge (c.commandName.getD "") := by
  rw [Shell.gate, h]
  rfl

theorem judge_of_plain (hfind : s.find? name = some command)
    (hplain : command.handler.isIntercepting = false) : s.judge name =
      ((s.context.examine command).1, { s with context := (s.context.examine command).2 }) := by
  unfold Shell.judge
  simp only [hfind, hplain]
  rfl

/-- On a line whose command name is read, the examination of what follows it decides. -/
theorem gate_of_examine {name : Spaced Lexeme} {n : Verdict × Context}
    (hname : name.Heads line.toList text) (hbound : name.Bound s.context.bindings)
    (hfind : s.find? (name.expanded s.context.bindings) = some command)
    (hplain : command.handler.isIntercepting = false)
    (hexamine : ((s.context.reset.setInput line).named (pastName line name)
      (name.expanded s.context.bindings)).examine command = n) :
    s.gate line = (n.1, { s with context := n.2 }) := by
  let c := (s.context.reset.setInput line).named (pastName line name)
    (name.expanded s.context.bindings)
  have hjudge : { s with context := c }.judge (name.expanded s.context.bindings) = _ :=
    judge_of_plain hfind hplain
  rw [hexamine] at hjudge
  exact (gate_of_start (start_of_heads hname hbound)).trans hjudge

/-- Operands that suit a command let it run, whatever counts as an error. -/
theorem gate_of_suits {name : Spaced Lexeme} (hname : name.Heads line.toList text)
    (hbound : name.Bound s.context.bindings)
    (hfind : s.find? (name.expanded s.context.bindings) = some command)
    (hplain : command.handler.isIntercepting = false) (hcut : d.Cut text)
    (hsuits : Suits command s.context.bindings d) :
    ∃ u, s.gate line = (.call command, { s with
      context := (((s.context.reset.setInput line).named (pastName line name)
        (name.expanded s.context.bindings)).taking u d).warnExtras command.arity }) :=
  ⟨_, gate_of_examine hname hbound hfind hplain
    (examine_of_suits rfl (pastName_rest hname) ⟨rfl, rfl⟩ rfl hcut hsuits)⟩

/-- A command that its operands suit finds all arguments, and only the warnings about further ones
are logged before it runs. -/
theorem gate_call_of_suits {name : Spaced Lexeme} (hname : name.Heads line.toList text)
    (hbound : name.Bound s.context.bindings)
    (hfind : s.find? (name.expanded s.context.bindings) = some command)
    (hplain : command.handler.isIntercepting = false) (hcut : d.Cut text)
    (hsuits : Suits command s.context.bindings d) :
    ∃ c, s.gate line = (.call command, { s with context := c.warnExtras command.arity }) ∧
      Silent s.context c ∧ c.arguments = d.texts s.context.bindings := by
  obtain ⟨u, hgate⟩ := gate_of_suits hname hbound hfind hplain hcut hsuits
  exact ⟨_, hgate, ⟨rfl, rfl, rfl, rfl, rfl, rfl⟩, rfl⟩

/-- A command runs on arguments alone if it takes as many as there are, and finds all of them. -/
theorem gate_of_arguments {name : Spaced Lexeme} (hname : name.Heads line.toList text)
    (hbound : name.Bound s.context.bindings)
    (hfind : s.find? (name.expanded s.context.bindings) = some command)
    (hplain : command.handler.isIntercepting = false) (hcut : d.Cut text) (hoptions : d.options = [])
    (hoperands : d.Bound s.context.bindings) (hsome : d.arguments ≠ [])
    (hleast : command.arity.least ≤ d.arguments.length)
    (hgreatest : ∀ greatest ∈ command.arity.greatest, d.arguments.length ≤ greatest) :
    ∃ c, s.gate line = (.call command, { s with context := c }) ∧ Silent s.context c ∧
      c.arguments = d.texts s.context.bindings ∧ c.options = .empty := by
  have hmap : d.optionMap s.context.bindings = .empty := by
    rw [Operands.optionMap, Operands.entries, hoptions]
    rfl
  have hdeclined : HelpDeclined (d.optionMap s.context.bindings) := .inl (by rw [hmap]; rfl)
  have hsuits : Suits command s.context.bindings d :=
    ⟨hoperands, hdeclined, fun hbare => hsome hbare.2.1, hleast, .inl hgreatest⟩
  have hlength : (d.texts s.context.bindings).length = d.arguments.length := List.length_map ..
  obtain ⟨u, hgate⟩ := gate_of_suits hname hbound hfind hplain hcut hsuits
  rw [warnExtras_of_within fun greatest h => hlength.le.trans (hgreatest greatest h)] at hgate
  refine ⟨_, hgate, ⟨rfl, rfl, rfl, rfl, rfl, rfl⟩, rfl, ?_⟩
  exact (congrArg (NameMap.erase · "help") hmap).trans rfl

theorem Shell.Selects.unique {command' : Command} {text' : List Char}
    (h : s.Selects line command text) (h' : s.Selects line command' text') :
    command = command' ∧ text = text' := by
  obtain ⟨name, hname, _, hfind⟩ := h
  obtain ⟨name', hname', _, hfind'⟩ := h'
  obtain ⟨rfl, rfl⟩ := heads_unique hname hname'
  rw [hfind] at hfind'
  exact ⟨Option.some.inj hfind', rfl⟩

theorem not_selects_of_blank (h : Blank line.toList) : ¬ s.Selects line command text := by
  rintro ⟨name, hname, _⟩
  exact not_heads_of_blank h hname

theorem Abort.not_blank (h : Abort s line m) : ¬ Blank line.toList := by
  intro hblank
  cases h with
  | malformed hsome => exact hsome hblank
  | unbound hname => exact not_heads_of_blank hblank hname
  | unknown hname => exact not_heads_of_blank hblank hname
  | refused hselect => exact not_selects_of_blank hblank hselect

/-- A line that is aborted selects no command that could run on what follows. -/
theorem Abort.refuses (h : Abort s line m) (hselect : s.Selects line command text) :
    command.handler.isIntercepting = false ∧
      ∀ d : Operands, d.Cut text → ¬ Suits command s.context.bindings d := by
  cases h with
  | malformed _ hnone =>
    obtain ⟨name, hname, _⟩ := hselect
    exact absurd hname (hnone name text)
  | unbound hname hbound =>
    obtain ⟨name, hname', hbound', _⟩ := hselect
    obtain ⟨rfl, rfl⟩ := heads_unique hname hname'
    exact absurd hbound' hbound
  | unknown hname _ hnone =>
    obtain ⟨name, hname', _, hfind⟩ := hselect
    obtain ⟨rfl, rfl⟩ := heads_unique hname hname'
    rw [hnone] at hfind
    cases hfind
  | refused hselect' hplain hrefusal =>
    obtain ⟨rfl, rfl⟩ := hselect.unique hselect'
    exact ⟨hplain, fun d hcut => hrefusal.not_suits hcut⟩

theorem Abort.severity (h : Abort s line m) : m.severity = .error ∨
    ∃ command text, s.Selects line command text ∧ m = { text := command.extendedText } := by
  cases h with
  | malformed => exact .inl rfl
  | unbound => exact .inl rfl
  | unknown => exact .inl rfl
  | refused hselect _ hrefusal =>
    rcases hrefusal.severity with herror | htext
    · exact .inl herror
    · exact .inr ⟨_, _, hselect, htext⟩

section Verdicts

variable (herror : .error ∈ s.context.errorSeverities)
include herror

theorem gate_intercept_iff : (s.gate line).1 = .intercept command ↔
    command.handler.isIntercepting = true ∧ ∃ text, s.Selects line command text := by
  have h := admission line herror
  generalize s.gate line = n at h ⊢
  constructor
  · intro hverdict
    cases h with
    | intercept hselect hraw =>
      obtain rfl := Verdict.intercept.inj hverdict
      exact ⟨hraw, _, hselect⟩
    | blank | abort | call => cases hverdict
  · rintro ⟨hraw, text, hselect⟩
    cases h with
    | blank hblank => exact absurd hselect (not_selects_of_blank hblank)
    | abort habort =>
      rw [(habort.refuses hselect).1] at hraw
      cases hraw
    | intercept hselect' => rw [(hselect'.unique hselect).1]
    | call hselect' hplain =>
      rw [(hselect'.unique hselect).1, hraw] at hplain
      cases hplain

theorem gate_call_iff : (s.gate line).1 = .call command ↔
    command.handler.isIntercepting = false ∧ ∃ text, s.Selects line command text ∧
      ∃ d : Operands, d.Cut text ∧ Suits command s.context.bindings d := by
  have h := admission line herror
  generalize s.gate line = n at h ⊢
  constructor
  · intro hverdict
    cases h with
    | call hselect hplain hcut hsuits =>
      obtain rfl := Verdict.call.inj hverdict
      exact ⟨hplain, _, hselect, _, hcut, hsuits⟩
    | blank | abort | intercept => cases hverdict
  · rintro ⟨hplain, text, hselect, d, hcut, hsuits⟩
    cases h with
    | blank hblank => exact absurd hselect (not_selects_of_blank hblank)
    | abort habort => exact absurd hsuits ((habort.refuses hselect).2 d hcut)
    | intercept hselect' hraw =>
      rw [(hselect'.unique hselect).1, hplain] at hraw
      cases hraw
    | call hselect' => rw [(hselect'.unique hselect).1]

/-- A handler that sees what was read of the line sees all of it but the request for help. -/
theorem gate_call_operands (hverdict : (s.gate line).1 = .call command)
    (hselect : s.Selects line command text) (hcut : d.Cut text) :
    (s.gate line).2.context.arguments = d.texts s.context.bindings ∧
      (s.gate line).2.context.options = d.kept s.context.bindings := by
  have h := admission line herror
  generalize s.gate line = n at h hverdict ⊢
  cases h with
  | call hselect' _ hcut' _ _ hargs hopts =>
    obtain ⟨_, rfl⟩ := hselect.unique hselect'
    obtain rfl := hcut.unique hcut'
    rw [warnExtras_keeps Context.arguments fun _ _ => rfl]
    rw [warnExtras_keeps Context.options fun _ _ => rfl]
    exact ⟨hargs, hopts⟩
  | blank | abort | intercept => cases hverdict

theorem gate_intercept_remainder (hverdict : (s.gate line).1 = .intercept command)
    (hselect : s.Selects line command text) :
    (s.gate line).2.context.remainder = String.ofList (text.dropWhile isBlank) := by
  have h := admission line herror
  generalize s.gate line = n at h hverdict ⊢
  cases h with
  | intercept hselect' _ _ hrest =>
    obtain ⟨_, rfl⟩ := hselect.unique hselect'
    exact hrest
  | blank | abort | call => cases hverdict

/-- Where no handler runs, one message is logged unless the line is blank. -/
theorem gate_stop (hverdict : (s.gate line).1 = .stop) :
    Blank line.toList ∧ (s.gate line).2.context.logged = [] ∧
      (s.gate line).2.context.journal = s.context.journal ∨
    ¬ Blank line.toList ∧ ∃ m, Abort s line m ∧ (s.gate line).2.context.logged = [m] ∧
      (s.gate line).2.context.journal = s.context.journal.write m := by
  have h := admission line herror
  generalize s.gate line = n at h hverdict ⊢
  cases h with
  | blank hblank hc => exact .inl ⟨hblank, hc.logged, hc.journal⟩
  | abort habort hc =>
    refine .inr ⟨habort.not_blank, _, habort, ?_, ?_⟩
    · rw [Context.write_logged, hc.logged]
      rfl
    · rw [← hc.journal]
      rfl
  | intercept | call => cases hverdict

end Verdicts

/-- A printed line selects the command of its name. -/
theorem selects_printLine {arguments : List String} {options : List (String × Option String)}
    (h : Printable name arguments options) (hfind : s.find? name = some command) :
    ∃ text, s.Selects (printLine name arguments options) command text ∧
      (segmentsOf name arguments options).operands.Cut text := by
  obtain ⟨text, hname, hcut⟩ := h.cut
  refine ⟨text, ⟨_, hname, (bound_segmentsOf h).1, ?_⟩, hcut⟩
  rw [expanded_segmentsOf h, hfind]

/-- Running a line runs one handler once or none. Which one it is depends on the line, the commands
and the variables alone: a command that takes the rest of its line as it stands runs if the line
selects it; another one runs if in addition its operands can be read and suit it, and it finds these
without the option that asks for help. Where no handler runs, one message says why, unless the line
is blank. -/
theorem dispatch_gate (s : Shell) (line : String)
    (herror : .error ∈ s.context.errorSeverities) :
    ∃ verdict t, s.gate line = (verdict, t) ∧
      s.dispatch line = (!(Shell.enact Shell.reenter (verdict, t)).context.hasErrors,
        Shell.enact Shell.reenter (verdict, t)) ∧
      (∀ command, verdict = .intercept command ↔
        command.handler.isIntercepting = true ∧ ∃ text, s.Selects line command text) ∧
      (∀ command, verdict = .call command ↔
        command.handler.isIntercepting = false ∧ ∃ text, s.Selects line command text ∧
          ∃ d : Operands, d.Cut text ∧ Suits command s.context.bindings d) ∧
      (∀ command text, s.Selects line command text →
        (verdict = .intercept command →
          t.context.remainder = String.ofList (text.dropWhile isBlank)) ∧
        ∀ d : Operands, d.Cut text → verdict = .call command →
          t.context.arguments = d.texts s.context.bindings ∧
          t.context.options = d.kept s.context.bindings) ∧
      (verdict = .stop →
        Blank line.toList ∧ t.context.logged = [] ∧ t.context.journal = s.context.journal ∨
        ¬ Blank line.toList ∧ ∃ m, Abort s line m ∧ t.context.logged = [m] ∧
          t.context.journal = s.context.journal.write m ∧
          (m.severity = .error ∨
            ∃ command text, s.Selects line command text ∧ m = { text := command.extendedText })) := by
  refine ⟨(s.gate line).1, (s.gate line).2, (Prod.eta _).symm, ?_,
    fun _ => gate_intercept_iff herror, fun _ => gate_call_iff herror, ?_, ?_⟩
  · rw [Prod.eta]
    exact runLine_eq Shell.reenter line s
  · intro command text hselect
    refine ⟨fun hverdict => gate_intercept_remainder herror hverdict hselect, ?_⟩
    intro d hcut hverdict
    exact gate_call_operands herror hverdict hselect hcut
  · intro hverdict
    rcases gate_stop herror hverdict with hblank | ⟨hsolid, m, habort, hlogged, hjournal⟩
    · exact .inl hblank
    · exact .inr ⟨hsolid, m, habort, hlogged, hjournal, habort.severity⟩

/-- A shell with the built-in commands in which nothing has happened yet. -/
def Shell.standard : Shell :=
  { Shell.bare (.empty Shell.defaultCapacity (by decide)) ⟨0, 0⟩ with
    commands := NameMap.empty.insertAll (Builtin.all.map fun b => (b.name, b.command)) }

theorem dispatch_gate_log : .error ∈ Shell.standard.context.errorSeverities ∧
    ∃ t, Shell.standard.gate (printLine "Log" ["a b"] [("HELP", some "False")]) =
        (.call Builtin.log.command, t) ∧
      t.context.arguments = ["a b"] ∧ t.context.options.entries = [] := by
  have herror : .error ∈ Shell.standard.context.errorSeverities := by decide
  have hprintable : Printable "Log" ["a b"] [("HELP", some "False")] := by decide
  obtain ⟨text, hselect, hcut⟩ := selects_printLine (s := Shell.standard) hprintable rfl
  generalize hoperands : (segmentsOf "Log" ["a b"] [("HELP", some "False")]).operands = d at hcut
  have hbound : d.Bound Shell.standard.context.bindings :=
    hoperands ▸ (bound_segmentsOf hprintable).2
  have htexts : d.texts Shell.standard.context.bindings = ["a b"] :=
    hoperands ▸ texts_segmentsOf hprintable
  have hentries : d.entries Shell.standard.context.bindings = [("HELP", some "False")] :=
    hoperands ▸ entries_segmentsOf hprintable
  have hlength : d.arguments.length = 1 := by
    rw [← hoperands]
    rfl
  have hsuits : Suits Builtin.log.command Shell.standard.context.bindings d := by
    refine ⟨hbound, ?_, ?_, ?_⟩
    · rw [Operands.optionMap, hentries]
      exact .inr ⟨"False", rfl, by decide⟩
    · rintro ⟨_, hnone, _⟩
      simp [hnone] at hlength
    · rw [hlength]
      exact ⟨by decide, .inl (by decide)⟩
  obtain ⟨verdict, t, hgate, _, _, hcall, hsees, _⟩ := dispatch_gate Shell.standard _ herror
  obtain rfl := (hcall _).mpr ⟨rfl, text, hselect, _, hcut, hsuits⟩
  obtain ⟨hargs, hopts⟩ := (hsees _ text hselect).2 _ hcut rfl
  refine ⟨herror, t, hgate, hargs.trans htexts, ?_⟩
  rw [hopts, Operands.kept, Operands.optionMap, hentries]
  rfl

end LineShell
