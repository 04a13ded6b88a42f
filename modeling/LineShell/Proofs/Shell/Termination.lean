import LineShell.Proofs.NameMap.Dictionary
import LineShell.Proofs.Shell.Session

/-! Every line comes to an end. What times commands reads less of the line each time, and where no
handler hands a line to the shell nothing else begins anew; the program of a handler ends of
itself. -/
namespace LineShell

open LineShell.Line LineShell.Text

variable {s t u : Shell} {line rest : String} {n m : Verdict × Shell} {rests : List String}
  {p : Program} {reenter : Dispatcher}

/-- No handler that a line comes to hands a line to the shell. -/
def Shell.Contained (s : Shell) (line : String) : Prop :=
  ∀ n p handed next t, s.Reached line n → Shell.Starts n p →
    ¬ p.Comes Shell.reenter n.2 (.ok (.dispatch handed next), t)

/-- A program that hands no line to the shell does not depend on how that would be run. -/
theorem run_of_contained (reenter' : Dispatcher)
    (h : ∀ handed next t, ¬ p.Comes reenter s (.ok (.dispatch handed next), t)) :
    p.run reenter' s = p.run reenter s := by
  induction p, s using step_induction reenter with
  | hdone s => rfl
  | hstep p s ih =>
    have hsame : p.step reenter' s = p.step reenter s := by
      cases p with
      | dispatch handed next => exact absurd .start (h handed next s)
      | done | raise | ask | note | register | listing => rfl
    rw [run_eq_resume reenter', run_eq_resume reenter, hsame]
    cases hstep : p.step reenter s with
    | mk left t =>
      cases left with
      | error r => rfl
      | ok q => exact ih q t hstep fun handed next u hcomes => h handed next u (hcomes.after hstep)

theorem enact_of_contained (reenter : Dispatcher) (h : s.Contained line)
    (hreached : s.Reached line n) (hfinal : Shell.Final n) :
    Shell.enact reenter n = Shell.enact Shell.reenter n := by
  cases hreached.ends hfinal with
  | program hstarts =>
    rw [enact_of_starts reenter hstarts, enact_of_starts Shell.reenter hstarts]
    rw [run_of_contained reenter fun handed next t => h n _ handed next t hreached hstarts]
  | builtin _ _ henact | idle _ henact => rw [henact, henact]

theorem isTimer_of_isIntercepting {h : Handler} (hraw : h.isIntercepting = true) :
    h.isTimer = false := by
  cases h with
  | builtin b =>
    obtain rfl : b = .echo := of_decide_eq_true hraw
    rfl
  | plain | intercepting => rfl

/-- A command that is selected is one of the shell and times no other. -/
theorem selected_found {command : Command} (h : s.Reached line n)
    (hselected : n.1.selected = some command) :
    command.handler.isTimer = false ∧ ∃ name, s.find? name = some command := by
  rcases h.verdict with hstop | ⟨name, found, hfind, hverdict⟩
  · rw [hstop] at hselected
    cases hselected
  · rw [hverdict] at hselected
    by_cases hraw : found.handler.isIntercepting = true
    · rw [if_pos hraw] at hselected
      obtain rfl := Option.some.inj hselected
      exact ⟨isTimer_of_isIntercepting hraw, name, hfind⟩
    · rw [if_neg hraw, Verdict.selected] at hselected
      by_cases htimer : found.handler.isTimer = true
      · rw [if_pos htimer] at hselected
        cases hselected
      · rw [if_neg htimer] at hselected
        obtain rfl := Option.some.inj hselected
        exact ⟨Bool.eq_false_iff.mpr htimer, name, hfind⟩

theorem Program.BreaksOff.step {q : Program} {qs : List Query} {r : Raised} {v : Shell}
    (h : p.BreaksOff s qs r v) (hstep : p.step reenter s = (.ok q, t)) :
    ∃ qs', q.BreaksOff t qs' r v := by
  cases h with
  | raise => cases hstep
  | ask hanswer hnext | register hanswer hnext | listing hanswer hnext =>
    rw [Program.step, hanswer] at hstep
    cases hstep
    exact ⟨_, hnext⟩
  | note hnext =>
    cases hstep
    exact ⟨_, hnext⟩

/-- A program that breaks off comes only to programs that do. -/
theorem Program.BreaksOff.comes {qs : List Query} {r : Raised} {v : Shell}
    {o : Except Raised Program × Shell} (h : p.BreaksOff s qs r v) (hcomes : p.Comes reenter s o) :
    ∀ q, o.1 = .ok q → ∃ qs', q.BreaksOff o.2 qs' r v := by
  induction hcomes with
  | start =>
    rintro q ⟨⟩
    exact ⟨qs, h⟩
  | @step q t _ ih =>
    intro q' hq'
    obtain ⟨_, hbreaks⟩ := ih q rfl
    exact hbreaks.step (Prod.ext hq' rfl)

/-- A shell that times commands and has one that breaks off. -/
def Shell.timekeeping : Shell :=
  { Shell.bare (.empty 1 Nat.one_pos) ⟨0, 0⟩ with
    commands := (NameMap.empty.insert "time" Builtin.time.command).insert "break" breakingCommand }

/-- A line comes to an end, where no handler hands another one to the shell. Each command that times
another one reads a shorter rest of the line than what was read before it. There are no more of them
than the line has tokens, and behind them at most one command is selected that times no other. What
the line leaves is what that one does, and a message for each of the others that found a name. -/
theorem nested_timings_end (hcontained : s.Contained line) :
    ∃ rests m ts after, Shell.Descends (s.gate line) rests m ∧
      (∀ rests' m', Shell.Descends (s.gate line) rests' m' → rests' = rests ∧ m' = m) ∧
      (line :: rests).IsChain Shrinks ∧
      TokenRun NameAt ts line.toList after ∧ rests.length ≤ ts.length ∧
      (∀ n, s.Reached line n → n = m ∨ n.1.selected = none) ∧
      (∀ command, m.1.selected = some command →
        command.handler.isTimer = false ∧ ∃ name, s.find? name = some command) ∧
      (∀ reenter, s.runLine reenter line = s.dispatch line) ∧
      ∃ ms, Timings ms ∧ ms.length + m.1.isTimer.toNat = rests.length ∧
        (s.dispatch line).2 = (Shell.enact Shell.reenter m).timed ms := by
  obtain ⟨rests, m, h⟩ := Shell.Descends.ends (s.gate line)
  obtain ⟨hshrinks, us, mid, hus, hlength⟩ := gate_descends h
  obtain ⟨ts, after, hrun⟩ := tokenRun_exists nameAt_shorter line.toList
  obtain ⟨more, hmore, _⟩ := hrun.split nameAt_kind hus
  have hlast := h.reached .first
  obtain ⟨ms, hms, hcount, henact⟩ := h.runs Shell.reenter
  refine ⟨rests, m, ts, after, h, fun rests' m' h' => h'.unique h, hshrinks, hrun, ?_, ?_,
    fun command => selected_found hlast, ?_, ms, hms, hcount, ?_⟩
  · rw [hmore, List.length_append]
    exact Nat.le_add_right_of_le hlength
  · intro n hn
    obtain ⟨rests', hrest⟩ := h.of_reached hn
    cases hrest with
    | settled | nameless => exact .inl rfl
    | again htimer =>
      obtain ⟨command, hcall, htimer⟩ := call_of_isTimer htimer
      rw [hcall]
      exact .inr (if_pos htimer)
  · intro reenter
    have hsame := h.enact_congr (enact_of_contained reenter hcontained hlast h.final)
    rw [Shell.dispatch, runLine_eq, runLine_eq, hsame]
  · rw [Shell.dispatch, runLine_eq, henact]

theorem nested_timings_end_break : Shell.timekeeping.Contained "time time break" ∧
    ∃ rests m, Shell.Descends (Shell.timekeeping.gate "time time break") rests m ∧
      rests = ["time break", "break"] ∧ m.1.selected.isSome ∧
      ∀ reenter, Shell.timekeeping.runLine reenter "time time break" =
        Shell.timekeeping.dispatch "time time break" := by
  have hcontained : Shell.timekeeping.Contained "time time break" := by
    intro n p handed next t hreached hstarts hcomes
    obtain ⟨name, command, hfind, hruns⟩ := hreached.runs_of_starts hstarts
    have hmem : (normalize name, command) ∈ Shell.timekeeping.commands.entries :=
      NameMap.mem_of_lookup hfind
    have hentries : Shell.timekeeping.commands.entries =
      [("time", Builtin.time.command), ("break", breakingCommand)] := rfl
    rw [hentries] at hmem
    simp only [List.mem_cons, Prod.mk.injEq, List.not_mem_nil, or_false] at hmem
    rcases hmem with ⟨_, rfl⟩ | ⟨_, rfl⟩
    · cases hruns
    · cases hruns with
      | plain =>
        obtain ⟨_, hbreaks⟩ := (breakingProgram_breaksOff n.2).comes hcomes _ rfl
        cases hbreaks
  have hpath : ∃ rests m, Shell.Descends (Shell.timekeeping.gate "time time break") rests m ∧
      rests = ["time break", "break"] ∧ m.1.selected.isSome :=
    ⟨_, _, .again (by decide +kernel) (Prod.ext (by decide +kernel) rfl)
      (.again (by decide +kernel) (Prod.ext (by decide +kernel) rfl)
        (.settled (by decide +kernel))), by decide +kernel, by decide +kernel⟩
  obtain ⟨_, _, hpath, hrests, hselected⟩ := hpath
  obtain ⟨rests, m, _, _, h, hunique, _, _, _, _, _, hsame, _⟩ := nested_timings_end hcontained
  obtain ⟨rfl, rfl⟩ := hunique _ _ hpath
  exact ⟨hcontained, _, _, h, hrests, hselected, hsame⟩

end LineShell
