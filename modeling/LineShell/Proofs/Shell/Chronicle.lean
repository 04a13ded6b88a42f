import LineShell.Proofs.Context.Chronicle
import LineShell.Proofs.Shell.Session

/-! What the run of a line tells the log. The reading of the line, the built-in commands, the timing
of other commands and the messages on what a handler breaks off with are told as messages of the
line. Past them, what is told is what queries of handlers do, the listing that `help` writes beside
the messages of the line, and that `clear` empties the journal. -/
namespace LineShell

open LineShell.Line LineShell.Text
open Logging (onto tally)

instance : Logging Shell where
  journal s := s.context.journal
  onto s j := { s with context := onto s.context j }
  tally s := tally s.context
  journal_onto _ _ := rfl
  onto_journal _ := rfl
  onto_onto _ _ _ := rfl
  tally_onto _ _ := rfl

variable {α : Type} {K : LogEvent → Prop} {s t u : Shell} {line name : String} {command : Command}
  {n : Verdict × Shell} {p q : Program} {reenter : Dispatcher} {m : Except Raised Program × Shell}

/-- An operation on the context of a shell. -/
theorem Tells.lift {f : Context → α × Context} (h : Tells K f s.context) :
    Tells K (fun s : Shell => ((f s.context).1, { s with context := (f s.context).2 })) s := by
  obtain ⟨es, a, c, hes, hf, hc⟩ := h
  refine ⟨es, a, { s with context := c }, hes, fun j => ?_, hc⟩
  have hj := hf j
  change ((f (onto s.context j)).1, { s with context := (f (onto s.context j)).2 }) = _
  rw [hj]
  rfl

/-- The shell after the command of a name has been run and the time it took has been logged. -/
def Shell.measure (reenter : Dispatcher) (name : String) (s : Shell) : Shell :=
  let started := s.readClock
  let ended := (started.2.runNamed reenter name).readClock
  ended.2.logTiming name started.1 ended.1

theorem runTimer_eq (reenter : Dispatcher) (s : Shell) : s.runTimer reenter =
    if s.rewind.1 then s.rewind.2.measure reenter (s.rewind.2.context.commandName.getD "")
    else s.rewind.2 := by
  unfold Shell.runTimer
  generalize s.rewind = r
  obtain ⟨_ | _, u⟩ := r <;> rfl

section Messages

variable (hK : ∀ m, K (.logged m))

include hK

theorem tells_mapWrite (m : Message) (s : Shell) :
    Tells K (fun s : Shell => ((), s.mapContext (·.write m))) s :=
  (tells_write hK m s.context).lift

theorem tells_judge (name : String) (s : Shell) : Tells K (·.judge name) s := by
  cases hfind : s.find? name with
  | none =>
    have hwrite := tells_mapWrite hK (Shell.notFound name (s.adviceFor name)).entry s
    refine (hwrite.done (b := fun _ => Verdict.stop)).congr fun j => ?_
    have hfind' : (onto s j).find? name = none := hfind
    simp only [Shell.judge, hfind']
    rfl
  | some command =>
    cases hraw : command.handler.isIntercepting with
    | true =>
      refine .idle (.intercept command) s (fun j => ?_) rfl
      have hfind' : (onto s j).find? name = some command := hfind
      simp only [Shell.judge, hfind', hraw, if_true]
    | false =>
      refine (tells_examine hK command s.context).lift.congr fun j => ?_
      have hfind' : (onto s j).find? name = some command := hfind
      simp only [Shell.judge, hfind', hraw]
      rfl

/-- What is decided on a line once its command name has been read. -/
theorem tells_decide (found : Bool) (s : Shell) : Tells K (fun s : Shell =>
    if found then s.judge (s.context.commandName.getD "") else (.stop, s)) s := by
  cases found with
  | false => exact .idle .stop s (fun _ => rfl) rfl
  | true => exact (tells_judge hK (s.context.commandName.getD "") s).congr fun _ => rfl

theorem tells_gate (h : tally s.context.reset = tally s.context ∨ K .restarted) (line : String) :
    Tells K (·.gate line) s :=
  (tells_start hK h line).lift.bind (g := fun found s =>
    if found then s.judge (s.context.commandName.getD "") else (.stop, s)) (tells_decide hK _ _)

theorem tells_rewind (s : Shell) : Tells K (·.rewind) s := by
  let c := { s.context with arguments := [], options := .empty }
  have hread := tells_readLine hK s.context.remainder c
  exact (hread.lift (s := { s with context := c })).of_eq (fun _ => rfl) rfl

omit hK in
theorem tells_readClock (s : Shell) : Tells K (·.readClock) s :=
  .idle s.readClock.1 s.readClock.2 (fun _ => rfl) rfl

theorem tells_logTiming (name : String) (started ended : Float) (s : Shell) :
    Tells K (fun s => ((), s.logTiming name started ended)) s :=
  tells_mapWrite hK _ s

omit hK in
theorem listing_onto (s : Shell) (j : Journal) :
    (onto s j).listing = (s.listing.1, onto s.listing.2 j) := by
  have hcache : (onto s j).listingCache = s.listingCache := rfl
  have hfresh : (onto s j).freshListing = s.freshListing := by
    unfold Shell.freshListing
    rfl
  unfold Shell.listing
  rw [hcache, hfresh]
  cases s.listingCache with
  | some listing => rfl
  | none =>
    dsimp only
    generalize s.freshListing = listing
    rfl

omit hK in
theorem tally_listing (s : Shell) : tally s.listing.2 = tally s :=
  congrArg (tally (σ := Context)) (listing_kept s).1

omit hK in
theorem tells_listing (s : Shell) : Tells K (·.listing) s :=
  .idle s.listing.1 s.listing.2 (listing_onto s) (tally_listing s)

omit hK in
theorem tells_logCommands (h : K (.recorded { text := s.listing.1, severity := .shell })) :
    Tells K (fun s => ((), s.logCommands)) s := by
  refine ⟨[.recorded { text := s.listing.1, severity := .shell }], (), s.listing.2,
    by simpa using h, fun j => ?_, tally_listing s⟩
  dsimp only
  rw [Shell.logCommands, listing_onto]
  rfl

/-- What a built-in command does to the log past the messages of its line is of a kind: the listing
that is written beside them, and that the journal is emptied. -/
structure Builtin.Heard (K : LogEvent → Prop) (b : Builtin) (s : Shell) : Prop where
  help : b = .help → s.context.arguments = [] →
    K (.recorded { text := s.listing.1, severity := .shell })
  clear : b = .clear → K .cleared

theorem tells_showHelp (hheard : Builtin.Heard K .help s) :
    Tells K (fun s => ((), s.showHelp)) s := by
  have hargs : ∀ j, (onto s j).context.arguments = s.context.arguments := fun _ => rfl
  cases h : s.context.arguments with
  | nil =>
    refine (tells_logCommands (hheard.help rfl h)).congr fun j => ?_
    simp only [Shell.showHelp, hargs, h]
  | cons name rest =>
    have hfound : ∀ j, (onto s j).find? name = s.find? name := fun _ => rfl
    cases hfind : s.find? name with
    | none =>
      refine (tells_mapWrite hK (Shell.notFound name).entry s).congr fun j => ?_
      simp only [Shell.showHelp, Shell.logHelp, hargs, h, hfound, hfind]
      rfl
    | some command =>
      refine (tells_mapWrite hK { text := command.extendedText } s).congr fun j => ?_
      simp only [Shell.showHelp, Shell.logHelp, hargs, h, hfound, hfind]
      rfl

theorem tells_runBuiltin {b : Builtin} (hheard : b.Heard K s) : Tells K (·.runBuiltin b) s := by
  cases b with
  | clear =>
    exact ⟨[.cleared], .ok (), s, by simpa using hheard.clear rfl, fun _ => rfl, rfl⟩
  | set =>
    have hassign := (tells_assign hK s.context).lift
    exact hassign.done (b := fun _ => Except.ok ())
  | help => exact (tells_showHelp hK hheard).done (b := fun _ => Except.ok ())
  | log => exact (tells_logArgument hK s.context).lift
  | time | noop | echo => exact .idle (.ok ()) s (fun _ => rfl) rfl

theorem tells_settle (r : Except Raised Unit) (s : Shell) :
    Tells K (fun s => ((), Shell.settle (r, s))) s := by
  rcases r with (f | f) | _
  · exact tells_mapWrite hK f.entry s
  · exact tells_mapWrite hK f.wrapped.entry s
  · exact .idle () s (fun _ => rfl) rfl

omit hK in
theorem registerAny_onto (made : Except Failure (Option Command)) (s : Shell) (j : Journal) :
    made.bind (onto s j).registerAny = (made.bind s.registerAny).map (onto · j) := by
  have hcontains : ∀ name, (onto s j).commands.contains name = s.commands.contains name :=
    fun _ => rfl
  cases made with
  | error f => rfl
  | ok made =>
    cases made with
    | none => rfl
    | some c =>
      change (onto s j).register c = (s.register c).map (onto · j)
      unfold Shell.register
      rw [hcontains]
      split <;> rfl

omit hK in
theorem tells_registerMade (made : Except Failure (Option Command)) (s : Shell) :
    Tells K (·.registerMade made) s := by
  have htally : tally (s.registerMade made).2 = tally s :=
    congrArg (tally (σ := Context)) (registerMade_context s made)
  refine .idle (s.registerMade made).1 (s.registerMade made).2 (fun j => ?_) htally
  unfold Shell.registerMade
  rw [registerAny_onto]
  cases made.bind s.registerAny <;> rfl

/-- At a point of a program, its query is heard, and the line it hands over is run with events of a
kind. -/
structure Program.Heard (K : LogEvent → Prop) (reenter : Dispatcher) (q : Program) (t : Shell) :
    Prop where
  ask : ∀ a next, q = .ask a next → a.Heard K t.context
  dispatch : ∀ line next, q = .dispatch line next → Tells K (reenter line) t

theorem tells_step (h : p.Heard K reenter s) : Tells K (p.step reenter) s := by
  cases p with
  | done => exact .idle (.ok .done) s (fun _ => rfl) rfl
  | raise r => exact .idle (.error r) s (fun _ => rfl) rfl
  | ask q next =>
    have hquery := (tells_query hK q (h.ask q next rfl)).lift
    exact hquery.done (b := fun answer => Except.ok (next answer))
  | note v next => exact .idle (.ok next) (s.note v) (fun _ => rfl) rfl
  | dispatch line next =>
    have hline := h.dispatch line next rfl
    exact hline.done (b := fun answer => Except.ok (next answer))
  | register made next =>
    exact (tells_registerMade made s).done (b := fun answer => Except.ok (next answer))
  | listing next => exact (tells_listing s).done (b := fun text => Except.ok (next (.ok text)))

/-- A program tells the log what it does at each of its points. -/
theorem tells_run (hpoints : ∀ q t, p.Comes reenter s (.ok q, t) → q.Heard K reenter t) :
    Tells K (p.run reenter) s := by
  induction p, s using step_induction reenter with
  | hdone s => exact .idle (.ok ()) s (fun _ => rfl) rfl
  | hstep p s ih =>
    have hresume : Tells K (fun t => Program.resume reenter ((p.step reenter s).1, t))
        (p.step reenter s).2 := by
      cases hfirst : (p.step reenter s).1 with
      | error r => exact .idle (.error r) _ (fun _ => rfl) rfl
      | ok q =>
        have hstep : p.step reenter s = (.ok q, (p.step reenter s).2) := Prod.ext hfirst rfl
        exact ih q _ hstep fun q' t' hcomes => hpoints q' t' (hcomes.after hstep)
    have hall := (tells_step hK (hpoints p s .start)).bind
      (g := fun a t => Program.resume reenter (a, t)) hresume
    exact hall.congr fun j => run_eq_resume reenter p (onto s j)

/-- Whatever handler a line comes to is heard: a host's at each of its points. -/
structure Shell.Heard (K : LogEvent → Prop) (reenter : Dispatcher) (s : Shell) (line : String) :
    Prop where
  program : ∀ n p q t, s.Reached line n → Shell.Starts n p → p.Comes reenter n.2 (.ok q, t) →
    q.Heard K reenter t
  builtin : ∀ command b t, s.Reached line (.call command, t) → command.handler = .builtin b →
    b.Heard K t

theorem tells_named (hnamed : Tells K (fun t => ((), Shell.enact reenter ((s.judge name).1, t)))
    (s.judge name).2) : Tells K (fun s => ((), s.runNamed reenter name)) s := by
  have hall := (tells_judge hK name s).bind
    (g := fun verdict t => ((), Shell.enact reenter (verdict, t))) hnamed
  exact hall.congr fun j => by rw [runNamed_eq]

theorem tells_measure (hnamed : Tells K (fun s => ((), s.runNamed reenter name)) s.readClock.2) :
    Tells K (fun s => ((), s.measure reenter name)) s := by
  have hended : ∀ started t, Tells K (fun t : Shell =>
      ((), t.readClock.2.logTiming name started t.readClock.1)) t := fun started t =>
    (tells_readClock t).bind (g := fun ended t => ((), t.logTiming name started ended))
      (tells_logTiming hK name started _ _)
  exact (tells_readClock s).bind
    (g := fun started t => ((), (t.runNamed reenter name).readClock.2.logTiming name started
      (t.runNamed reenter name).readClock.1))
    (hnamed.bind (g := fun _ t => ((), t.readClock.2.logTiming name s.readClock.1 t.readClock.1))
      (hended _ _))

theorem tells_program (hheard : s.Heard K reenter line) (hreached : s.Reached line n)
    (hstarts : Shell.Starts n p) : Tells K (fun t => ((), Shell.settle (p.run reenter t))) n.2 := by
  have hrun := tells_run hK fun q t hcomes => hheard.program n p q t hreached hstarts hcomes
  exact hrun.bind (g := fun r t => ((), Shell.settle (r, t))) (tells_settle hK _ _)

/-- Whatever is decided on, carrying it out tells the log events of a kind if handlers are heard. -/
theorem tells_enact (hheard : s.Heard K reenter line) (h : s.Reached line n) :
    Tells K (fun t => ((), Shell.enact reenter (n.1, t))) n.2 := by
  induction hlength : n.2.context.remainder.length using Nat.strong_induction_on generalizing n with
  | _ k ih =>
    obtain ⟨verdict, t⟩ := n
    cases verdict with
    | stop => exact .idle () t (fun _ => rfl) rfl
    | intercept command =>
      cases hhandler : command.handler with
      | builtin b | plain name program =>
        refine (tells_mapWrite hK { text := t.context.remainder } t).congr fun j => ?_
        simp only [Shell.enact, hhandler]
        rfl
      | intercepting name program =>
        have hprogram := tells_program hK hheard h (.intercepting hhandler)
        refine hprogram.congr fun j => ?_
        simp only [Shell.enact, hhandler]
        rfl
    | call command =>
      cases htimer : command.handler.isTimer with
      | true =>
        have htimed : Tells K (fun u => ((), if t.rewind.1 then
            u.measure reenter (u.context.commandName.getD "") else u)) t.rewind.2 := by
          cases hfound : t.rewind.1 with
          | false => exact .idle () t.rewind.2 (fun _ => rfl) rfl
          | true =>
            have hagain := h.again htimer (Prod.ext hfound rfl)
            have hnamed := tells_named hK (ih _ ?_ hagain rfl)
            · exact (tells_measure hK hnamed).congr fun _ => rfl
            · rw [Shell.judge_remainder, Shell.readClock_context]
              exact hlength ▸ Shell.length_remainder_of_rewind hfound
        have hall := (tells_rewind hK t).bind (g := fun found u =>
          ((), if found then u.measure reenter (u.context.commandName.getD "") else u)) htimed
        refine hall.congr fun j => ?_
        simp only [Shell.enact, htimer, if_true, runTimer_eq]
      | false =>
        cases hhandler : command.handler with
        | builtin b =>
          have hbuiltin := (tells_runBuiltin hK (hheard.builtin command b t h hhandler)).bind
            (g := fun r t => ((), Shell.settle (r.mapError .failure, t))) (tells_settle hK _ _)
          refine hbuiltin.congr fun j => ?_
          rw [Shell.enact, htimer, hhandler]
          rfl
        | plain name program =>
          have hprogram := tells_program hK hheard h (.plain hhandler)
          refine hprogram.congr fun j => ?_
          rw [Shell.enact, htimer, hhandler]
          rfl
        | intercepting name program =>
          have hplain := h.plain
          rw [hhandler] at hplain
          cases hplain

/-- A line tells the log events of a kind after its beginning, if handlers are heard. -/
theorem tells_runLine (h : tally s.context.reset = tally s.context ∨ K .restarted)
    (hheard : s.Heard K reenter line) : Tells K (Shell.runLine reenter line) s := by
  have henact := tells_enact hK hheard .first
  have hanswer : ∀ t, Tells K (fun t : Shell => (!t.context.hasErrors, t)) t :=
    fun t => .idle (!t.context.hasErrors) t (fun _ => rfl) rfl
  have hall := (tells_gate hK h line).bind (g := fun verdict t =>
    (!(Shell.enact reenter (verdict, t)).context.hasErrors, Shell.enact reenter (verdict, t)))
    (henact.bind (g := fun _ t => (!t.context.hasErrors, t)) (hanswer _))
  exact hall.congr fun j => runLine_eq reenter _ _

end Messages

/-- Whatever handlers do, all that is done to the log is told. -/
theorem tells_any (hreenter : ∀ line s, Tells (fun _ => True) (reenter line) s) (line : String)
    (s : Shell) : Tells (fun _ => True) (Shell.runLine reenter line) s :=
  tells_runLine (fun _ => trivial) (.inr trivial)
    { program := fun _ _ _ _ _ _ _ =>
        ⟨fun _ _ _ => ⟨.inr fun _ => trivial, fun _ _ _ _ _ => trivial, fun _ => trivial⟩,
          fun line _ _ => hreenter line _⟩
      builtin := fun _ _ _ _ _ => ⟨fun _ _ => trivial, fun _ => trivial⟩ }

/-- So it is where lines are handed over, to whatever depth. -/
theorem tells_dispatcher (depth : Nat) (line : Value) (s : Shell) :
    Tells (fun _ => True) (Shell.dispatcher depth line) s := by
  induction depth generalizing line s with
  | zero => exact .idle (.error Shell.tooDeep) s (fun _ => rfl) rfl
  | succ depth ih =>
    cases line with
    | text line => exact (tells_any ih line s).done (b := Except.ok)
    | _ =>
      have hreset := tells_reset (K := fun _ => True) (c := s.context) (.inr trivial)
      exact hreset.lift.done (b := fun _ => Except.error Line.Scanner.notALine)

end LineShell
