import LineShell.Proofs.NameMap.Dictionary
import LineShell.Proofs.Shell.Chronicle

/-! The answer to a line is exact: it says that something went wrong exactly if a message was logged
in that line that counts as an error. What the journal still holds, how much it can hold and what
was logged in other lines have no part in it. Nothing is written past the account of the line but
the listing of all commands and what a handler records itself. -/
namespace LineShell

open LineShell.Line LineShell.Text
open Logging (onto tally)

variable {α : Type} {s t u : Shell} {c d e : Context} {line : String} {n : Verdict × Shell}
  {p q : Program} {m : Except Raised Program × Shell} {reenter : Dispatcher}
  {es es' : List LogEvent} {f : Context → α × Context} {g : Shell → α × Shell}

/-- In the course of a line a message is written that is none of the line: a handler of a host has
it recorded, or `help` without an argument logs the listing of all commands. -/
inductive Shell.Records (s : Shell) (line : String) : Message → Prop
  | query {n : Verdict × Shell} {p : Program} {t : Shell} {value : Value} {parts : Message}
      {next : Except Failure Value → Program} {text : String} (h : s.Reached line n)
      (hstarts : Shell.Starts n p)
      (hcomes : p.Comes Shell.reenter n.2 (.ok (.ask (.record value parts) next), t))
      (hrender : value.render = .ok text) : s.Records line { parts with text }
  | help {command : Command} {t : Shell} (h : s.Reached line (.call command, t))
      (hhandler : command.handler = .builtin .help) (hnone : t.context.arguments = []) :
      s.Records line { text := t.listing.1, severity := .shell }

/-- In the course of a line the journal is emptied: a handler of a host does it, or `clear`. -/
inductive Shell.Clears (s : Shell) (line : String) : Prop
  | query {n : Verdict × Shell} {p : Program} {t : Shell} {next : Except Failure Value → Program}
      (h : s.Reached line n) (hstarts : Shell.Starts n p)
      (hcomes : p.Comes Shell.reenter n.2 (.ok (.ask .clearJournal next), t))
  | clear {command : Command} {t : Shell} (h : s.Reached line (.call command, t))
      (hhandler : command.handler = .builtin .clear)

/-- An event that a line may come to: a message of the line is logged, one that is none of it is
written where the line has one recorded, or the journal is emptied where the line does that. -/
def LogEvent.Plain (s : Shell) (line : String) : LogEvent → Prop
  | .logged _ => True
  | .recorded m => s.Records line m
  | .cleared => s.Clears line
  | .heeded _ | .restarted | .weighed _ => False

theorem plain_logged (s : Shell) (line : String) (m : Message) :
    (LogEvent.logged m).Plain s line :=
  trivial

/-- Plain events of a line are all that happened to the log between one context and another one. -/
structure Told (s : Shell) (line : String) (es : List LogEvent) (c d : Context) : Prop where
  plain : ∀ e ∈ es, e.Plain s line
  journal : d.journal = c.journal.follow es
  tally : tally d = (tally c).follow es

theorem Told.nothing (c : Context) : Told s line [] c c :=
  ⟨by simp, rfl, rfl⟩

theorem Told.trans (h : Told s line es c d) (h' : Told s line es' d e) :
    Told s line (es ++ es') c e where
  plain := List.forall_mem_append.mpr ⟨h.plain, h'.plain⟩
  journal := by rw [h'.journal, h.journal, Journal.follow, Journal.follow, Journal.follow,
    List.foldl_append]
  tally := by rw [h'.tally, h.tally, Tally.follow, Tally.follow, Tally.follow, List.foldl_append]

theorem Tells.told (h : Tells (LogEvent.Plain s line) g t) :
    ∃ es, Told s line es t.context (g t).2.context := by
  obtain ⟨es, hplain, _, hjournal, htally⟩ := h.events
  exact ⟨es, hplain, hjournal, htally⟩

theorem told_timed (t : Shell) (ms : List Message) :
    ∃ es, Told s line es t.context (t.timed ms).context :=
  (tells_writes (plain_logged s line) ms t.context).lift.told

/-- Under plain events no severity gets lost, and none is remembered but those of messages of the
line. -/
theorem mem_severities_follow {a : Tally} (h : ∀ e ∈ es, e.Plain s line) (x : Severity) :
    x ∈ (a.follow es).severities ↔
      x ∈ a.severities ∨ ∃ m, .logged m ∈ es ∧ m.severity = x := by
  induction es generalizing a with
  | nil => simp [Tally.follow]
  | cons e es ih =>
    obtain ⟨he, hes⟩ := List.forall_mem_cons.mp h
    have hrest : (a.follow (e :: es)).severities = ((e.onTally a).follow es).severities := rfl
    rw [hrest, ih hes]
    cases e with
    | logged m =>
      simp only [LogEvent.onTally, Severities.mem_add, List.mem_cons, LogEvent.logged.injEq,
        or_and_right, exists_or, exists_eq_left, eq_comm (a := x)]
      rw [or_assoc]
    | recorded | cleared => simp [LogEvent.onTally]
    | heeded | restarted | weighed => cases he

theorem errors_follow {a : Tally} (h : ∀ e ∈ es, e.Plain s line) :
    (a.follow es).errors = a.errors := by
  induction es generalizing a with
  | nil => rfl
  | cons e es ih =>
    obtain ⟨he, hes⟩ := List.forall_mem_cons.mp h
    refine (ih hes).trans ?_
    cases e with
    | logged | recorded | cleared => rfl
    | heeded | restarted | weighed => cases he

/-- Where a line begins nothing has been logged in it; so the severities remembered later are those
of the messages logged until then. -/
theorem Told.mem_severities (h : Told s line es s.renewed.context d) (x : Severity) :
    x ∈ d.severities ↔ ∃ m, .logged m ∈ es ∧ m.severity = x := by
  have hseverities : d.severities = ((Logging.tally s.renewed.context).follow es).severities :=
    congrArg Tally.severities h.tally
  rw [hseverities, mem_severities_follow h.plain]
  exact or_iff_right (List.not_mem_nil)

theorem Told.hasErrors_iff (h : Told s line es s.renewed.context d) :
    d.hasErrors = true ↔ ∃ m, .logged m ∈ es ∧ m.severity ∈ s.context.errorSeverities := by
  have herrors : d.errorSeverities = s.context.errorSeverities :=
    (congrArg Tally.errors h.tally).trans (errors_follow h.plain)
  rw [Context.hasErrors, Severities.meets_iff, herrors]
  constructor
  · rintro ⟨x, hx, herror⟩
    obtain ⟨m, hm, rfl⟩ := (h.mem_severities x).mp hx
    exact ⟨m, hm, herror⟩
  · rintro ⟨m, hm, herror⟩
    exact ⟨m.severity, (h.mem_severities _).mpr ⟨m, hm, rfl⟩, herror⟩

/-- At a point of a program, no line is handed over and the query, if any, is loyal. -/
structure Program.Loyal (q : Program) (t : Shell) : Prop where
  ask : ∀ a next, q = .ask a next → a.Loyal t.context
  dispatch : ∀ line next, q ≠ .dispatch line next

/-- Whatever handler of a host the line comes to, it is loyal at each of its points. -/
def Shell.Loyal (s : Shell) (line : String) : Prop :=
  ∀ n p q t, s.Reached line n → Shell.Starts n p → p.Comes Shell.reenter n.2 (.ok q, t) → q.Loyal t

/-- At a point of the handler that a line comes to, a loyal program is heard by the line. -/
theorem Program.Loyal.heard (h : q.Loyal t) (hreached : s.Reached line n)
    (hstarts : Shell.Starts n p) (hcomes : p.Comes Shell.reenter n.2 (.ok q, t)) :
    q.Heard (LogEvent.Plain s line) Shell.reenter t where
  ask := by
    rintro a next rfl
    refine ⟨.inl (h.ask a next rfl), ?_, ?_⟩
    · rintro value parts text rfl hrender
      exact .query hreached hstarts hcomes hrender
    · rintro rfl
      exact .query hreached hstarts hcomes
  dispatch line next hq := absurd hq (h.dispatch line next)

/-- So is a built-in command that it comes to. -/
theorem Shell.Reached.heard {command : Command} {b : Builtin}
    (h : s.Reached line (.call command, t)) (hhandler : command.handler = .builtin b) :
    b.Heard (LogEvent.Plain s line) t := by
  refine ⟨?_, ?_⟩
  · rintro rfl hnone
    exact .help h hhandler hnone
  · rintro rfl
    exact .clear h hhandler

theorem Shell.Loyal.heard (h : s.Loyal line) :
    s.Heard (LogEvent.Plain s line) Shell.reenter line where
  program n p q t hreached hstarts hcomes :=
    (h n p q t hreached hstarts hcomes).heard hreached hstarts hcomes
  builtin _ _ _ hreached hhandler := hreached.heard hhandler

theorem Shell.Reached.of_renewed (h : s.renewed.Reached line n) : s.Reached line n := by
  induction h with
  | first => exact (.first : s.Reached line (s.gate line))
  | again _ htimer hrewind ih => exact ih.again htimer hrewind

/-- What is heard of a line is heard of it in a renewed shell. -/
theorem Shell.Heard.renewed {K : LogEvent → Prop} (h : s.Heard K reenter line) :
    s.renewed.Heard K reenter line where
  program n p q t hreached := h.program n p q t hreached.of_renewed
  builtin command b t hreached := h.builtin command b t hreached.of_renewed

/-- The moments in the course of a line: when it begins, when a command is looked up, at each
decision, at each point of a handler, and when what was decided has been carried out. -/
inductive Shell.Moment (s : Shell) (line : String) : Shell → Prop
  | began : s.Moment line (s.mapContext (·.reset))
  | consulted {t : Shell} {name : String} (h : s.Consults line t name) : s.Moment line t
  | decided {n : Verdict × Shell} (h : s.Reached line n) : s.Moment line n.2
  | acting {n : Verdict × Shell} {p : Program} {m : Except Raised Program × Shell}
      (h : s.Reached line n) (hstarts : Shell.Starts n p)
      (hcomes : p.Comes Shell.reenter n.2 m) : s.Moment line m.2
  | enacted {n : Verdict × Shell} (h : s.Reached line n) :
      s.Moment line (Shell.enact Shell.reenter n)

theorem Shell.Reached.told (h : s.Reached line n) :
    ∃ es, Told s line es s.renewed.context n.2.context := by
  induction h with
  | first => exact (tells_gate (plain_logged s line) (s := s.renewed) (.inl rfl) line).told
  | @again command t u _ _ hrewind ih =>
    obtain ⟨_, hbefore⟩ := ih
    obtain ⟨_, hrewound⟩ := (tells_rewind (plain_logged s line) t).told
    rw [hrewind] at hrewound
    obtain ⟨_, hjudged⟩ :=
      (tells_judge (plain_logged s line) (u.context.commandName.getD "") u.readClock.2).told
    exact ⟨_, (hbefore.trans hrewound).trans hjudged⟩

theorem Shell.Consults.told {name : String} (h : s.Consults line t name) :
    ∃ es, Told s line es s.renewed.context t.context := by
  induction h with
  | @first c h =>
    obtain ⟨_, hstart⟩ :=
      (tells_start (plain_logged s line) (c := s.renewed.context) (.inl rfl) line).lift.told
    have hsame : (s.renewed.context.start line).2 = c := congrArg Prod.snd h
    exact ⟨_, hsame ▸ hstart⟩
  | @again t u v name command _ hjudge _ hrewind ih =>
    obtain ⟨_, hbefore⟩ := ih
    obtain ⟨_, hjudged⟩ := (tells_judge (plain_logged s line) name t).told
    obtain ⟨_, hrewound⟩ := (tells_rewind (plain_logged s line) u).told
    rw [hjudge] at hjudged
    rw [hrewind] at hrewound
    exact ⟨_, (hbefore.trans hjudged).trans hrewound⟩

theorem Program.Comes.told (hpoints : ∀ q u, p.Comes reenter t (.ok q, u) →
      q.Heard (LogEvent.Plain s line) reenter u)
    (hcomes : p.Comes reenter t m) : ∃ es, Told s line es t.context m.2.context := by
  induction hcomes with
  | start => exact ⟨[], .nothing _⟩
  | @step q u hcomes ih =>
    obtain ⟨_, hbefore⟩ := ih
    obtain ⟨_, hstep⟩ := (tells_step (plain_logged s line) (hpoints q u hcomes)).told
    exact ⟨_, hbefore.trans hstep⟩

/-- When a decision has been carried out, only messages on times follow. -/
theorem Shell.Reached.finished (h : s.Reached line n) :
    ∃ es, Told s line es (Shell.enact Shell.reenter n).context (s.dispatch line).2.context := by
  obtain ⟨ms, _, henact⟩ := h.runs Shell.reenter
  rw [dispatch_eq, henact]
  exact told_timed _ ms

section Loyal

variable (hloyal : s.Loyal line)

include hloyal

theorem Shell.Loyal.enacted (h : s.Reached line n) :
    ∃ es, Told s line es n.2.context (Shell.enact Shell.reenter n).context :=
  (tells_enact (plain_logged s line) hloyal.heard h).told

/-- From any of its points on, a handler is run to its end. -/
theorem Shell.Loyal.settled (h : s.Reached line n) (hstarts : Shell.Starts n p)
    (hcomes : p.Comes Shell.reenter n.2 m) :
    ∃ es, Told s line es m.2.context (Shell.enact Shell.reenter n).context := by
  rw [enact_of_starts Shell.reenter hstarts, hcomes.resume]
  obtain ⟨r | q, t⟩ := m
  · exact (tells_settle (plain_logged s line) (.error r) t).told
  · have hrun := tells_run (plain_logged s line) (p := q) (s := t) fun q' t' hcomes' =>
      hloyal.heard.program n p q' t' h hstarts (hcomes.trans hcomes')
    obtain ⟨_, hrun⟩ := hrun.told
    obtain ⟨_, hsettle⟩ := (tells_settle (plain_logged s line) (q.run Shell.reenter t).1
      (q.run Shell.reenter t).2).told
    exact ⟨_, hrun.trans hsettle⟩

theorem Shell.Loyal.ended (h : s.Reached line n) :
    ∃ es, Told s line es n.2.context (s.dispatch line).2.context := by
  obtain ⟨_, henacted⟩ := hloyal.enacted h
  obtain ⟨_, hfinished⟩ := h.finished
  exact ⟨_, henacted.trans hfinished⟩

/-- Whatever the moment, plain events led to it, and plain events lead from it to the end. -/
theorem Shell.Moment.told (h : s.Moment line t) :
    (∃ es, Told s line es s.renewed.context t.context) ∧
      ∃ es, Told s line es t.context (s.dispatch line).2.context := by
  cases h with
  | began =>
    obtain ⟨_, hdecided⟩ := (.first : s.Reached line (s.gate line)).told
    obtain ⟨_, hended⟩ := hloyal.ended .first
    obtain ⟨hplain, hjournal, htally⟩ := hdecided.trans hended
    exact ⟨⟨[], by simp, rfl, rfl⟩, _, hplain, hjournal, htally⟩
  | @consulted _ name h =>
    obtain ⟨_, hjudged⟩ := (tells_judge (plain_logged s line) name t).told
    obtain ⟨_, hended⟩ := hloyal.ended h.reached
    exact ⟨h.told, _, hjudged.trans hended⟩
  | decided h => exact ⟨h.told, hloyal.ended h⟩
  | acting h hstarts hcomes =>
    obtain ⟨_, hdecided⟩ := h.told
    obtain ⟨_, hacted⟩ := hcomes.told fun q t => hloyal.heard.program _ _ q t h hstarts
    obtain ⟨_, hsettled⟩ := hloyal.settled h hstarts hcomes
    obtain ⟨_, hfinished⟩ := h.finished
    exact ⟨⟨_, hdecided.trans hacted⟩, _, hsettled.trans hfinished⟩
  | enacted h =>
    obtain ⟨_, hdecided⟩ := h.told
    obtain ⟨_, henacted⟩ := hloyal.enacted h
    exact ⟨⟨_, hdecided.trans henacted⟩, h.finished⟩

end Loyal

/-- A line whose handler is loyal is answered exactly. The log of the line is a list of plain
events: but for the listing of all commands and what the handler records itself, all that is written
is a message of the line. The answer is negative exactly if one of these messages has a severity
that counts as an error. The events and the answer are the same in every shell that differs only in
its journal and in what earlier lines have left in the context; so they do not change with what has
been evicted or cleared. At every moment the severities remembered are those of the messages logged
in the line until then. -/
theorem dispatch_exact (hloyal : s.Loyal line) :
    ∃ es answer after, s.dispatch line = (answer, after) ∧
      Told s line es s.renewed.context after.context ∧
      (answer = false ↔ ∃ m, .logged m ∈ es ∧ m.severity ∈ s.context.errorSeverities) ∧
      (∀ u : Shell, u.renewed = onto s.renewed u.context.journal →
        u.dispatch line = (answer, onto after (u.context.journal.follow es))) ∧
      ∀ t, s.Moment line t → ∃ es₁ es₂, Told s line es₁ s.renewed.context t.context ∧
        Told s line es₂ t.context after.context ∧
        ∀ x, x ∈ t.context.severities ↔ ∃ m, .logged m ∈ es₁ ∧ m.severity = x := by
  have htells := tells_runLine (plain_logged s line) (s := s.renewed) (.inl rfl)
    hloyal.heard.renewed
  obtain ⟨es, hplain, honto, hjournal, htally⟩ := htells.events
  have hrenewed : Shell.runLine Shell.reenter line s.renewed = s.dispatch line :=
    dispatch_renewed s line
  rw [hrenewed] at honto hjournal htally
  have htold : Told s line es s.renewed.context (s.dispatch line).2.context :=
    ⟨hplain, hjournal, htally⟩
  refine ⟨es, _, _, (Prod.eta (s.dispatch line)).symm, htold, ?_, fun u hu => ?_, ?_⟩
  · rw [← htold.hasErrors_iff, dispatch_eq, Bool.not_eq_false']
  · rw [← dispatch_renewed u, hu]
    exact honto _
  · intro t ht
    obtain ⟨⟨es₁, hbefore⟩, es₂, hafter⟩ := ht.told hloyal
    exact ⟨es₁, es₂, hbefore, hafter, hbefore.mem_severities⟩

/-- A program that hands over no line and puts no query that may be disloyal. -/
inductive Program.Faithful : Program → Prop
  | done : Faithful .done
  | raise (r : Raised) : Faithful (.raise r)
  | ask {q : Query} {next : Except Failure Value → Program} (hq : ∀ c, q.Loyal c)
      (h : ∀ answer, (next answer).Faithful) : Faithful (.ask q next)
  | note (v : Value) {next : Program} (h : next.Faithful) : Faithful (.note v next)
  | register (made : Except Failure (Option Command)) {next : Except Failure Unit → Program}
      (h : ∀ answer, (next answer).Faithful) : Faithful (.register made next)
  | listing {next : Except Failure String → Program} (h : ∀ answer, (next answer).Faithful) :
      Faithful (.listing next)

theorem Program.Faithful.loyal (h : p.Faithful) (t : Shell) : p.Loyal t := by
  cases h with
  | ask hq _ =>
    refine ⟨fun a next ha => ?_, by simp⟩
    obtain ⟨rfl, _⟩ := Program.ask.inj ha
    exact hq t.context
  | done | raise | note | register | listing => exact ⟨by simp, by simp⟩

theorem Program.Faithful.step (h : p.Faithful) (hstep : p.step reenter s = (.ok q, t)) :
    q.Faithful := by
  cases h with
  | done =>
    cases hstep
    exact .done
  | raise => cases hstep
  | ask _ h | register _ h | listing h =>
    cases hstep
    exact h _
  | note v h =>
    cases hstep
    exact h

theorem Program.Faithful.comes (h : p.Faithful) (hcomes : p.Comes reenter s m) :
    ∀ q, m.1 = .ok q → q.Faithful := by
  induction hcomes with
  | start =>
    rintro q ⟨⟩
    exact h
  | @step q t _ ih => exact fun r hr => (ih q rfl).step (Prod.ext hr rfl)

/-- A line is answered exactly if every command of the shell runs faithful programs. -/
theorem loyal_of_faithful (h : ∀ name command p, s.find? name = some command →
    command.handler.Runs p → p.Faithful) : s.Loyal line := by
  intro n p q t hreached hstarts hcomes
  obtain ⟨name, command, hfind, hruns⟩ := hreached.runs_of_starts hstarts
  exact ((h name command p hfind hruns).comes hcomes q rfl).loyal t

/-- A command whose handler logs an error and then clears the journal. -/
def covering : Command where
  name := "cover"
  arity := Builtin.echo.arity
  help := "Log an error and clear the journal"
  extended := .ofText ""
  tolerant := false
  handler := .plain "cover"
    (.ask (.log (.text "lost") .error) <| .onward fun _ => .ask .clearJournal fun _ => .done)

/-- A shell that keeps one message only. -/
def Shell.covering : Shell :=
  { Shell.bare (.empty 1 (by decide)) ⟨0, 0⟩ with
    commands := NameMap.empty.insert "cover" LineShell.covering }

theorem dispatch_exact_cleared : Shell.covering.Loyal "cover" ∧ ∃ after,
    Shell.covering.dispatch "cover" = (false, after) ∧ after.context.journal.messages = [] := by
  have hloyal : Shell.covering.Loyal "cover" := by
    refine loyal_of_faithful fun name command p hfind hruns => ?_
    have hmem : (normalize name, command) ∈ Shell.covering.commands.entries :=
      NameMap.mem_of_lookup hfind
    obtain rfl : command = LineShell.covering := congrArg Prod.snd (List.mem_singleton.mp hmem)
    cases hruns
    have hlog : ∀ c, (Query.log (.text "lost") .error).Loyal c :=
      fun c => ⟨by simp, rfl, fun text severity h => ⟨"lost", by cases h; rfl⟩, by simp⟩
    have hclear : ∀ c, Query.clearJournal.Loyal c :=
      fun c => ⟨by simp, rfl, by simp, by simp⟩
    refine .ask hlog fun answer => ?_
    cases answer with
    | ok v => exact .ask hclear fun _ => .done
    | error f => exact .raise _
  obtain ⟨es, answer, after, hdispatch, htold, hanswer, _⟩ := dispatch_exact hloyal
  have hafter : (Shell.covering.dispatch "cover").2.context.journal.messages = [] ∧
      (Shell.covering.dispatch "cover").2.context.severities = [.error] := by decide +kernel
  rw [hdispatch] at hafter
  obtain ⟨hmessages, hseverities⟩ := hafter
  obtain ⟨m, hlogged, herror⟩ : ∃ m, .logged m ∈ es ∧ m.severity = .error := by
    rw [← htold.mem_severities, hseverities]
    decide
  have hnegative : answer = false := hanswer.mpr ⟨m, hlogged, by rw [herror]; decide⟩
  exact ⟨hloyal, after, hdispatch.trans (by rw [hnegative]), hmessages⟩

end LineShell
