import LineShell.Proofs.Shell.Descent
import LineShell.Proofs.Shell.Isolation
import LineShell.Proofs.Shell.Misreading

/-! The steps of a line. A program goes step by step, and a line goes from decision to decision up to
a last one, which a handler carries out; handlers may hand over further lines. Main statement: if
every step in the course of lines of a kind puts the states before and after it into a relation,
then what a line of the kind leaves is in that relation to what it found. -/
namespace LineShell

open LineShell.Line LineShell.Text

variable {s t u : Shell} {line name : String} {command : Command} {n : Verdict × Shell}
  {p q : Program} {reenter : Dispatcher} {m : Except Raised Program × Shell}

/-- One step of a program: what is left of it, or what it breaks off with. -/
def Program.step (reenter : Dispatcher) : Program → Shell → Except Raised Program × Shell
  | .done, s => (.ok .done, s)
  | .raise r, s => (.error r, s)
  | .ask q next, s => (.ok (next (q.run s.context).1), { s with context := (q.run s.context).2 })
  | .note v next, s => (.ok next, s.note v)
  | .dispatch line next, s => (.ok (next (reenter line s).1), (reenter line s).2)
  | .register made next, s => (.ok (next (s.registerMade made).1), (s.registerMade made).2)
  | .listing next, s => (.ok (next (.ok s.listing.1)), s.listing.2)

/-- What the run of a program comes to: what is left of it and the state, after some of its
steps. -/
inductive Program.Comes (reenter : Dispatcher) (p : Program) (s : Shell) :
    Except Raised Program × Shell → Prop
  | start : p.Comes reenter s (.ok p, s)
  | step {q : Program} {t : Shell} (h : p.Comes reenter s (.ok q, t)) :
      p.Comes reenter s (q.step reenter t)

theorem Program.Comes.trans (h : p.Comes reenter s (.ok q, t)) (h' : q.Comes reenter t m) :
    p.Comes reenter s m := by
  induction h' with
  | start => exact h
  | step _ ih => exact .step ih

/-- Runs what is left of a program. -/
def Program.resume (reenter : Dispatcher) :
    Except Raised Program × Shell → Except Raised Unit × Shell
  | (.ok p, s) => p.run reenter s
  | (.error r, s) => (.error r, s)

theorem run_eq_resume (reenter : Dispatcher) (p : Program) (s : Shell) :
    p.run reenter s = Program.resume reenter (p.step reenter s) := by
  cases p <;> rfl

/-- From wherever the run of a program comes to, it goes on to the same end. -/
theorem Program.Comes.resume (h : p.Comes reenter s m) :
    p.run reenter s = Program.resume reenter m := by
  induction h with
  | start => rfl
  | step _ ih => rw [ih, ← run_eq_resume, Program.resume]

/-- The first step of a program, and what is left after it. -/
theorem Program.Comes.after (hstep : p.step reenter s = (.ok q, t)) (h : q.Comes reenter t m) :
    p.Comes reenter s m := by
  have hfirst : p.Comes reenter s (p.step reenter s) := .step .start
  rw [hstep] at hfirst
  exact hfirst.trans h

/-- What holds of a program that is done, and of any program if it holds of what its first step
leaves, holds of every program. -/
theorem step_induction (reenter : Dispatcher) {P : Program → Shell → Prop}
    (hdone : ∀ s, P .done s)
    (hstep : ∀ p s, (∀ q t, p.step reenter s = (.ok q, t) → P q t) → P p s) (p : Program)
    (s : Shell) : P p s := by
  have hgoes : ∀ {p s q t}, Program.step reenter p s = (.ok q, t) → P q t → P p s := by
    intro p s q t h ih
    refine hstep p s fun q' t' hok => ?_
    rw [h] at hok
    cases hok
    exact ih
  fun_induction Program.run reenter p s with
  | case1 s => exact hdone s
  | case2 r s => exact hstep (.raise r) s fun _ _ hok => nomatch hok
  | case3 q next s answer c h ih => exact hgoes (by rw [Program.step, h]) ih
  | case4 v next s ih => exact hgoes rfl ih
  | case5 line next s answer t h ih => exact hgoes (by rw [Program.step, h]) ih
  | case6 made next s answer t h ih => exact hgoes (by rw [Program.step, h]) ih
  | case7 next s text t h ih => exact hgoes (by rw [Program.step, h]) ih

/-- A program is run to its end. -/
theorem comes_run (reenter : Dispatcher) (p : Program) (s : Shell) :
    p.Comes reenter s
      ((p.run reenter s).1.map fun _ => Program.done, (p.run reenter s).2) := by
  induction p, s using step_induction reenter with
  | hdone s => exact .start
  | hstep p s ih =>
    rw [run_eq_resume]
    cases hstep : p.step reenter s with
    | mk left t =>
      cases left with
      | error r =>
        have hfirst : p.Comes reenter s (p.step reenter s) := .step .start
        rw [hstep] at hfirst
        exact hfirst
      | ok q => exact (ih q t hstep).after hstep

/-- What a shell keeps from line to line besides its log: the commands, their listing and the
variables. -/
def Shell.lasting (s : Shell) : NameMap Command × Option String × NameMap String :=
  (s.commands, s.listingCache, s.context.bindings)

theorem Shell.bindings_of_lasting (h : t.lasting = s.lasting) :
    t.context.bindings = s.context.bindings :=
  congrArg (·.2.2) h

theorem Shell.commands_of_lasting (h : t.lasting = s.lasting) : t.commands = s.commands :=
  congrArg (·.1) h

theorem lasting_start (s : Shell) (line : String) :
    { s with context := (s.context.start line).2 }.lasting = s.lasting := by
  have hbindings := readName_bindings (s.context.reset.setInput line)
    (Scanner.ofLine line).skipBlanks
  exact congrArg (fun b => (s.commands, s.listingCache, b)) hbindings

theorem lasting_judge (s : Shell) (name : String) : (s.judge name).2.lasting = s.lasting := by
  have hbindings := framed_bindings.judge s name
  have hshell : (s.judge name).2 = { s with context := (s.judge name).2.context } := by
    unfold Shell.judge
    split
    · rfl
    · split <;> rfl
  rw [hshell]
  exact congrArg (fun b => (s.commands, s.listingCache, b)) hbindings

theorem lasting_gate (s : Shell) (line : String) : (s.gate line).2.lasting = s.lasting := by
  unfold Shell.gate
  dsimp only
  split
  · exact (lasting_judge _ _).trans (lasting_start s line)
  · exact lasting_start s line

theorem lasting_rewind (s : Shell) : s.rewind.2.lasting = s.lasting := by
  have hbindings := readName_bindings
    ({ s.context with arguments := [], options := .empty }.setInput s.context.remainder)
    (Scanner.ofLine s.context.remainder).skipBlanks
  exact congrArg (fun b => (s.commands, s.listingCache, b)) hbindings

theorem lasting_timed (s : Shell) (ms : List Message) : (s.timed ms).lasting = s.lasting := by
  have hbindings := foldl_write_keeps Context.bindings (fun _ _ => rfl) ms s.context
  exact congrArg (fun b => (s.commands, s.listingCache, b)) hbindings

/-- Whatever is decided in the course of running a line, no handler has run before it. -/
theorem Shell.Reached.lasting (h : s.Reached line n) : n.2.lasting = s.lasting := by
  induction h with
  | first => exact lasting_gate s line
  | @again command t u _ _ hrewind ih =>
    have hrewound := lasting_rewind t
    rw [hrewind] at hrewound
    exact (lasting_judge _ _).trans (hrewound.trans ih)

theorem weigh_verdict (c : Context) (command : Command) :
    (c.weigh command).1 = .stop ∨ (c.weigh command).1 = .call command := by
  unfold Context.weigh
  dsimp only
  split
  · exact .inl rfl
  · split
    · exact .inl rfl
    · exact .inr rfl

theorem settled_verdict (c : Context) (command : Command) :
    (c.settled command).1 = .stop ∨ (c.settled command).1 = .call command := by
  unfold Context.settled
  split
  · exact .inl rfl
  · split
    · exact .inl rfl
    · exact weigh_verdict _ command

theorem examine_verdict (c : Context) (command : Command) :
    (c.examine command).1 = .stop ∨ (c.examine command).1 = .call command := by
  cases hu : c.scanner with
  | none =>
    rw [examine_idle hu]
    split
    · exact .inl rfl
    · exact settled_verdict c command
  | some u =>
    rw [examine_phases hu]
    dsimp only
    split
    · exact .inl rfl
    · split
      · exact .inl rfl
      · exact settled_verdict _ command

/-- A command that a name comes to is the one that is found under it, and it is handed the rest of
the line exactly if it takes that as it stands. -/
theorem judge_verdict (s : Shell) (name : String) : (s.judge name).1 = .stop ∨
    ∃ command, s.find? name = some command ∧
      (s.judge name).1 =
        if command.handler.isIntercepting then .intercept command else .call command := by
  unfold Shell.judge
  split
  · exact .inl rfl
  · next command hfind =>
    split
    · next hraw => exact .inr ⟨command, hfind, by rw [if_pos hraw]⟩
    · next hplain =>
      rcases examine_verdict s.context command with hstop | hcall
      · exact .inl hstop
      · exact .inr ⟨command, hfind, by rw [if_neg hplain]; exact hcall⟩

/-- So is a command that a line comes to. -/
theorem Shell.Reached.verdict (h : s.Reached line n) : n.1 = .stop ∨
    ∃ name command, s.find? name = some command ∧
      n.1 = if command.handler.isIntercepting then .intercept command else .call command := by
  rcases h.judged with hstop | ⟨u, name, _, rfl⟩
  · exact .inl hstop
  · have hcommands : u.commands = s.commands :=
      commands_of_lasting ((lasting_judge u name).symm.trans h.lasting)
    rcases judge_verdict u name with hstop | ⟨command, hfind, hverdict⟩
    · exact .inl hstop
    · refine .inr ⟨name, command, ?_, hverdict⟩
      unfold Shell.find? at hfind ⊢
      rw [← hcommands, hfind]

/-- A command that is to find what was read of its line is none that takes it as it stands. -/
theorem Shell.Reached.plain (h : s.Reached line (.call command, t)) :
    command.handler.isIntercepting = false := by
  rcases h.verdict with hstop | ⟨name, found, _, hverdict⟩
  · cases hstop
  · dsimp only at hverdict
    split at hverdict
    · cases hverdict
    · next hplain =>
      obtain rfl := Verdict.call.inj hverdict
      exact Bool.eq_false_iff.mpr hplain

/-- The programs of a host that a handler may run. -/
inductive Handler.Runs : Handler → Program → Prop
  | plain {name : String} {program : Program} : Runs (.plain name program) program
  | intercepting {name : String} {program : String → Program} (rest : String) :
      Runs (.intercepting name program) (program rest)

/-- A program that starts in the course of a line is one of a command of the shell. -/
theorem Shell.Reached.runs_of_starts (h : s.Reached line n) (hstarts : Shell.Starts n p) :
    ∃ name command, s.find? name = some command ∧ command.handler.Runs p := by
  rcases h.verdict with hstop | ⟨name, found, hfind, hverdict⟩
  · cases hstarts <;> cases hstop
  · refine ⟨name, found, hfind, ?_⟩
    cases hstarts with
    | plain hhandler =>
      dsimp only at hverdict
      split at hverdict
      · cases hverdict
      · obtain rfl := Verdict.call.inj hverdict
        exact hhandler ▸ .plain
    | intercepting hhandler =>
      dsimp only at hverdict
      split at hverdict
      · obtain rfl := Verdict.intercept.inj hverdict
        exact hhandler ▸ .intercepting _
      · cases hverdict

/-- What comes of a last decision: a program of the host runs, a built-in handler does, or no handler
at all. -/
inductive Shell.Ends (n : Verdict × Shell) : Prop
  | program {p : Program} (hstarts : Shell.Starts n p)
  | builtin {command : Command} {b : Builtin} {t : Shell} (hcall : n = (.call command, t))
      (hhandler : command.handler = .builtin b)
      (henact : ∀ reenter, Shell.enact reenter n =
        Shell.settle ((t.runBuiltin b).1.mapError .failure, (t.runBuiltin b).2))
  | idle {t : Shell} (hlasting : t.lasting = n.2.lasting)
      (henact : ∀ reenter, Shell.enact reenter n = t)

theorem Shell.Reached.ends (hreached : s.Reached line n) (hfinal : Shell.Final n) :
    Shell.Ends n := by
  obtain ⟨verdict, t⟩ := n
  cases verdict with
  | stop => exact .idle rfl fun _ => rfl
  | intercept command =>
    cases hhandler : command.handler with
    | builtin b | plain name program =>
      refine .idle (t := t.mapContext (·.logText t.context.remainder)) rfl fun reenter => ?_
      rw [Shell.enact, hhandler]
      rfl
    | intercepting name program => exact .program (.intercepting hhandler)
  | call command =>
    cases hhandler : command.handler with
    | builtin b =>
      cases htimer : command.handler.isTimer with
      | true =>
        refine .idle (lasting_rewind t) fun reenter => ?_
        rw [Shell.enact, if_pos htimer, Shell.runTimer, ← Prod.eta t.rewind, hfinal htimer]
      | false =>
        refine .builtin rfl hhandler fun reenter => ?_
        rw [Shell.enact, htimer, hhandler]
        rfl
    | plain name program => exact .program (.plain hhandler)
    | intercepting name program =>
      have hplain := hreached.plain
      rw [hhandler] at hplain
      cases hplain

/-- In a line of a kind, which begins in a given state, the handler has come to a point of its
program. The kind tells how deep handlers may hand over further lines. -/
inductive Handling (begins : Nat → Shell → String → Prop) (depth : Nat) (s : Shell) :
    Except Raised Program × Shell → Prop
  | intro {line : String} {n : Verdict × Shell} {p : Program} {m : Except Raised Program × Shell}
      (h : begins depth s line) (hreached : s.Reached line n) (hstarts : Shell.Starts n p)
      (hcomes : p.Comes (Shell.dispatcher depth) n.2 m) : Handling begins depth s m

theorem Handling.comes {begins : Nat → Shell → String → Prop} {depth : Nat}
    (h : Handling begins depth s (.ok q, t)) (hcomes : q.Comes (Shell.dispatcher depth) t m) :
    Handling begins depth s m := by
  obtain ⟨hbegin, hreached, hstarts, hbefore⟩ := h
  exact ⟨hbegin, hreached, hstarts, hbefore.trans hcomes⟩

/-- Every step in the course of lines of a kind relates the state before it to the one after it, and
what a handler hands over is of the kind again. -/
structure Steps (begins : Nat → Shell → String → Prop) (R : Shell → Shell → Prop) : Prop where
  trans : ∀ {s t u : Shell}, R s t → R t u → R s u
  lasting : ∀ {s t : Shell}, t.lasting = s.lasting → R s t
  builtin : ∀ {depth : Nat} {s t : Shell} {line : String} {command : Command} {b : Builtin},
    begins depth s line → s.Reached line (.call command, t) → command.handler = .builtin b →
      R t (t.runBuiltin b).2
  ask : ∀ {depth : Nat} {s t : Shell} {q : Query} {next : Except Failure Value → Program},
    Handling begins depth s (.ok (.ask q next), t) → R t { t with context := (q.run t.context).2 }
  register : ∀ {depth : Nat} {s t : Shell} {made : Except Failure (Option Command)}
    {next : Except Failure Unit → Program},
    Handling begins depth s (.ok (.register made next), t) → R t (t.registerMade made).2
  listing : ∀ t : Shell, R t t.listing.2
  handed : ∀ {depth : Nat} {s t : Shell} {line : String} {next : Except Failure Bool → Program},
    Handling begins (depth + 1) s (.ok (.dispatch (.text line) next), t) → R s t →
      begins depth t line

namespace Steps

variable {begins : Nat → Shell → String → Prop} {R : Shell → Shell → Prop} {depth : Nat}
  (h : Steps begins R)

include h in
theorem settles (r : Except Raised Unit × Shell) : R r.2 (Shell.settle r) := by
  obtain ⟨_ | _, t⟩ := r
  · rw [settle_error]
    exact h.lasting rfl
  · exact h.lasting rfl

section Handlers

variable (hnested : ∀ {s line next t}, Handling begins depth s (.ok (.dispatch line next), t) →
  R s t → R t (Shell.dispatcher depth line t).2)

include h hnested

theorem comes (hpoint : Handling begins depth s (.ok q, t)) (ht : R s t)
    (hcomes : q.Comes (Shell.dispatcher depth) t m) : R t m.2 := by
  induction hcomes with
  | start => exact h.lasting rfl
  | @step q u hcomes ih =>
    have hnext := hpoint.comes hcomes
    refine h.trans ih ?_
    cases q with
    | done | raise | note => exact h.lasting rfl
    | ask q next => exact h.ask hnext
    | dispatch line next => exact hnested hnext (h.trans ht ih)
    | register made next => exact h.register hnext
    | listing next => exact h.listing u

/-- What a handler has left when it has come to a point of its program. -/
theorem acted (hpoint : Handling begins depth s m) : R s m.2 := by
  obtain ⟨hbegin, hreached, hstarts, hcomes⟩ := hpoint
  have hdecided : R s _ := h.lasting hreached.lasting
  exact h.trans hdecided (h.comes hnested ⟨hbegin, hreached, hstarts, .start⟩ hdecided hcomes)

/-- What a handler leaves, from any point of its program on. -/
theorem settled (hpoint : Handling begins depth s m) :
    R m.2 (Shell.settle (Program.resume (Shell.dispatcher depth) m)) := by
  have hm := h.acted hnested hpoint
  obtain ⟨r | q, t⟩ := m
  · exact h.settles (.error r, t)
  · exact h.trans (h.comes hnested hpoint hm (comes_run _ q t)) (h.settles _)

theorem enacted (hbegin : begins depth s line) (hreached : s.Reached line n)
    (hfinal : Shell.Final n) : R n.2 (Shell.enact (Shell.dispatcher depth) n) := by
  cases hreached.ends hfinal with
  | program hstarts =>
    rw [enact_of_starts _ hstarts]
    exact h.settled hnested ⟨hbegin, hreached, hstarts, .start⟩
  | builtin hcall hhandler henact =>
    rw [henact]
    subst hcall
    exact h.trans (h.builtin hbegin hreached hhandler) (h.settles (_, _))
  | idle hlasting henact =>
    rw [henact]
    exact h.lasting hlasting

theorem ran (hbegin : begins depth s line) :
    R s (s.runLine (Shell.dispatcher depth) line).2 := by
  obtain ⟨m, hreached, hfinal⟩ := Shell.Reached.last (.first : s.Reached line (s.gate line))
  obtain ⟨ms, _, henact⟩ := hreached.runs (Shell.dispatcher depth)
  rw [runLine_eq, henact]
  have hbefore : R s m.2 := h.lasting hreached.lasting
  have hafter := h.enacted hnested hbegin hreached hfinal
  exact h.trans (h.trans hbefore hafter) (h.lasting (lasting_timed _ ms))

/-- From any point of its handler a line is run to its end. -/
theorem finished (hbegin : begins depth s line) (hreached : s.Reached line n)
    (hstarts : Shell.Starts n p) (hcomes : p.Comes (Shell.dispatcher depth) n.2 m) :
    R m.2 (s.runLine (Shell.dispatcher depth) line).2 := by
  obtain ⟨ms, _, henact⟩ := hreached.runs (Shell.dispatcher depth)
  have hend := h.settled hnested ⟨hbegin, hreached, hstarts, hcomes⟩
  rw [← hcomes.resume, ← enact_of_starts _ hstarts] at hend
  rw [runLine_eq, henact]
  exact h.trans hend (h.lasting (lasting_timed _ ms))

end Handlers

include h

/-- A line that a handler hands over is run with one less to go. -/
theorem nested (depth : Nat) : ∀ {s line next t},
    Handling begins depth s (.ok (.dispatch line next), t) → R s t →
      R t (Shell.dispatcher depth line t).2 := by
  induction depth with
  | zero => exact fun _ _ => h.lasting rfl
  | succ depth ih =>
    intro s line next t hpoint ht
    cases line with
    | text line => exact h.ran ih (h.handed hpoint ht)
    | _ => exact h.lasting rfl

end Steps

end LineShell
