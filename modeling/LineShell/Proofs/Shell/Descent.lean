import LineShell.Proofs.Shell.Course

/-! Commands that time other commands. Each of them reads the rest of the line that the one before
it was left with, so no more of them follow each other than the line has tokens, and behind the last
of them at most one command runs that times no other. -/
namespace LineShell

open LineShell.Line LineShell.Text

variable {s t u : Shell} {line rest : String} {n m m' : Verdict × Shell} {rests rests' : List String}
  {c : Context} {cs : List Char}

/-- Whether a decision lets a command run that times another one. -/
def Verdict.isTimer : Verdict → Bool
  | .call command => command.handler.isTimer
  | _ => false

/-- The command that a decision lets run, if that times no other one. -/
def Verdict.selected : Verdict → Option Command
  | .stop => none
  | .intercept command => some command
  | .call command => if command.handler.isTimer then none else some command

/-- Nothing further is decided on: no command is to be timed whose name can be read. -/
def Shell.Final : Verdict × Shell → Prop
  | (.call command, t) => command.handler.isTimer = true → t.rewind.1 = false
  | _ => True

/-- What becomes of a decision: what the commands that time another one read of the line, one after
the other, and the decision that is the last. -/
inductive Shell.Descends : Verdict × Shell → List String → Verdict × Shell → Prop
  | settled {n : Verdict × Shell} (hplain : n.1.isTimer = false) : Descends n [] n
  | nameless {n : Verdict × Shell} (htimer : n.1.isTimer = true) (hrewind : n.2.rewind.1 = false) :
      Descends n [n.2.context.remainder] n
  | again {n m : Verdict × Shell} {u : Shell} {rests : List String} (htimer : n.1.isTimer = true)
      (hrewind : n.2.rewind = (true, u))
      (hmore : Descends (u.readClock.2.judge (u.context.commandName.getD "")) rests m) :
      Descends n (n.2.context.remainder :: rests) m

/-- One rest is shorter than the one before it. -/
def Shrinks (before after : String) : Prop := after.length < before.length

theorem call_of_isTimer (h : n.1.isTimer = true) : ∃ command : Command,
    n = (.call command, n.2) ∧ command.handler.isTimer = true := by
  obtain ⟨verdict, t⟩ := n
  cases verdict with
  | stop | intercept => cases h
  | call command => exact ⟨command, rfl, h⟩

/-- A command name that is read comes first in the line, and what is left is what follows it. -/
theorem heads_of_readName (h : (c.readName (Scanner.ofLine line).skipBlanks).1 = true) :
    ∃ (name : Spaced Lexeme) (text : List Char), name.Heads line.toList text ∧
      (c.readName (Scanner.ofLine line).skipBlanks).2.remainder.toList = text.dropWhile isBlank := by
  have hreading := nameReading c line
  generalize c.readName (Scanner.ofLine line).skipBlanks = n at hreading h ⊢
  cases hreading with
  | read hname _ ht => exact ⟨_, _, hname, by simp [Context.named, Scanner.remaining, ht]⟩
  | blank | malformed | unbound => cases h

theorem heads_of_rewind (h : t.rewind = (true, u)) :
    ∃ (name : Spaced Lexeme) (text : List Char),
      name.Heads t.context.remainder.toList text ∧
      u.context.remainder.toList = text.dropWhile isBlank := by
  unfold Shell.rewind at h
  obtain ⟨hfound, rfl⟩ := Prod.mk.inj h
  exact heads_of_readName hfound

namespace Shell.Descends

theorem unique (h : Shell.Descends n rests m) (h' : Shell.Descends n rests' m') :
    rests = rests' ∧ m = m' := by
  induction h generalizing rests' m' with
  | settled hplain =>
    cases h' with
    | settled => exact ⟨rfl, rfl⟩
    | nameless htimer | again htimer =>
      rw [hplain] at htimer
      cases htimer
  | nameless htimer hrewind =>
    cases h' with
    | settled hplain =>
      rw [hplain] at htimer
      cases htimer
    | nameless => exact ⟨rfl, rfl⟩
    | again _ hrewind' =>
      rw [hrewind'] at hrewind
      cases hrewind
  | again htimer hrewind _ ih =>
    cases h' with
    | settled hplain =>
      rw [hplain] at htimer
      cases htimer
    | nameless _ hrewind' =>
      rw [hrewind] at hrewind'
      cases hrewind'
    | again _ hrewind' hmore' =>
      obtain rfl := (Prod.mk.inj (hrewind.symm.trans hrewind')).2
      obtain ⟨rfl, rfl⟩ := ih hmore'
      exact ⟨rfl, rfl⟩

/-- A command that times another one has less to read than was left when it was decided on. -/
theorem shorter (hrewind : t.rewind = (true, u)) :
    (u.readClock.2.judge (u.context.commandName.getD "")).2.context.remainder.length <
      t.context.remainder.length := by
  have hshorter := length_remainder_of_rewind (s := t) (by rw [hrewind])
  rw [hrewind] at hshorter
  rwa [judge_remainder, readClock_context]

/-- A last decision is come to, since there is less of the line to read each time. -/
theorem ends (n : Verdict × Shell) : ∃ rests m, Shell.Descends n rests m := by
  induction hlength : n.2.context.remainder.length using Nat.strong_induction_on generalizing n with
  | _ k ih =>
    cases htimer : n.1.isTimer with
    | false => exact ⟨[], n, .settled htimer⟩
    | true =>
      cases hrewind : n.2.rewind with
      | mk found u =>
        cases found with
        | false => exact ⟨_, n, .nameless htimer (by rw [hrewind])⟩
        | true =>
          obtain ⟨rests, m, hmore⟩ := ih _ (hlength ▸ shorter hrewind) _ rfl
          exact ⟨_, m, .again htimer hrewind hmore⟩

theorem final (h : Shell.Descends n rests m) : Shell.Final m := by
  induction h with
  | @settled n hplain =>
    obtain ⟨_ | _ | command, t⟩ := n
    · trivial
    · trivial
    · intro htimer
      rw [show command.handler.isTimer = false from hplain] at htimer
      cases htimer
  | @nameless n htimer hrewind =>
    obtain ⟨command, hn, _⟩ := call_of_isTimer htimer
    rw [hn]
    exact fun _ => hrewind
  | again _ _ _ ih => exact ih

/-- What is read gets shorter. -/
theorem shrinks (h : Shell.Descends n rests m)
    (hfirst : n.1.isTimer = true → Shrinks rest n.2.context.remainder) :
    (rest :: rests).IsChain Shrinks := by
  induction h generalizing rest with
  | settled => exact .singleton _
  | nameless htimer => exact .cons_cons (hfirst htimer) (.singleton _)
  | again htimer hrewind _ ih => exact .cons_cons (hfirst htimer) (ih fun _ => shorter hrewind)

/-- The token that each takes for a command name is one more token of the line. -/
theorem tokens (h : Shell.Descends n rests m)
    (hcs : n.2.context.remainder.toList = cs.dropWhile isBlank) :
    ∃ ts after, TokensAt NameAt ts cs after ∧ rests.length ≤ ts.length + 1 := by
  induction h generalizing cs with
  | settled | nameless => exact ⟨[], cs, .done, by simp⟩
  | @again n m u rests _ hrewind _ ih =>
    obtain ⟨name, text, hname, hrest⟩ := heads_of_rewind hrewind
    rw [hcs] at hname
    obtain ⟨name, hname⟩ := heads_of_dropWhile hname
    have hremainder : (u.readClock.2.judge (u.context.commandName.getD "")).2.context.remainder =
        u.context.remainder := by rw [judge_remainder, readClock_context]
    obtain ⟨ts, after, hts, hlength⟩ := ih (hremainder ▸ hrest)
    exact ⟨name :: ts, after, tokensAt_of_heads hname hts, Nat.succ_le_succ hlength⟩

/-- The last decision is one in the course of the line. -/
theorem reached (h : Shell.Descends n rests m) (hn : s.Reached line n) : s.Reached line m := by
  induction h with
  | settled | nameless => exact hn
  | again htimer hrewind _ ih =>
    obtain ⟨command, heq, htimer⟩ := call_of_isTimer htimer
    rw [heq] at hn
    exact ih (hn.again htimer hrewind)

/-- Every decision in the course of a line leads to the last one. -/
theorem of_reached (h : Shell.Descends (s.gate line) rests m) (hn : s.Reached line n) :
    ∃ rests', Shell.Descends n rests' m := by
  induction hn with
  | first => exact ⟨rests, h⟩
  | @again command t u _ htimer hrewind ih =>
    obtain ⟨rests', hmore⟩ := ih
    cases hmore with
    | settled hplain =>
      rw [show command.handler.isTimer = false from hplain] at htimer
      cases htimer
    | nameless _ hnone =>
      rw [hrewind] at hnone
      cases hnone
    | again _ hrewind' hmore =>
      obtain rfl := (Prod.mk.inj (hrewind.symm.trans hrewind')).2
      exact ⟨_, hmore⟩

/-- What was decided is carried out at the last decision, and each command that found another one to
time logs a message. -/
theorem runs (reenter : Dispatcher) (h : Shell.Descends n rests m) :
    ∃ ms, Timings ms ∧ ms.length + m.1.isTimer.toNat = rests.length ∧
      Shell.enact reenter n = (Shell.enact reenter m).timed ms := by
  induction h with
  | settled hplain => exact ⟨[], by simp [Timings], by rw [hplain]; rfl, (timed_nil _).symm⟩
  | nameless htimer => exact ⟨[], by simp [Timings], by rw [htimer]; rfl, (timed_nil _).symm⟩
  | @again n m u rests htimer hrewind _ ih =>
    obtain ⟨ms, hms, hlength, henact⟩ := ih
    obtain ⟨command, heq, htimer⟩ := call_of_isTimer htimer
    obtain ⟨duration, hinner⟩ := enact_timer reenter htimer hrewind
    refine ⟨ms ++ [timing (u.context.commandName.getD "") duration], ?_, ?_, ?_⟩
    · exact List.forall_mem_append.mpr ⟨hms, List.forall_mem_singleton.mpr ⟨_, duration, rfl⟩⟩
    · simp only [List.length_append, List.length_cons, List.length_nil]
      omega
    · rw [heq, hinner, ← timed_timed, ← henact]
      rfl

/-- How lines that handlers hand over are run matters only to the last decision. -/
theorem enact_congr {reenter reenter' : Dispatcher} (h : Shell.Descends n rests m)
    (hm : Shell.enact reenter m = Shell.enact reenter' m) :
    Shell.enact reenter n = Shell.enact reenter' n := by
  induction h with
  | settled | nameless => exact hm
  | again htimer hrewind _ ih =>
    obtain ⟨command, heq, htimer⟩ := call_of_isTimer htimer
    rw [heq, enact_again reenter htimer hrewind, enact_again reenter' htimer hrewind]
    dsimp only
    rw [ih hm]

end Shell.Descends

/-- What is left behind the command name is shorter than the line. -/
theorem shrinks_of_heads {name : Spaced Lexeme} {text : List Char}
    (hname : name.Heads line.toList text) (hrest : rest.toList = text.dropWhile isBlank) :
    Shrinks line rest := by
  obtain ⟨word, _, hline, htoken⟩ := heads_iff.mp hname
  have hword := nameAt_shorter htoken
  have hgap := congrArg List.length hline
  have hdrop := List.length_dropWhile_le isBlank text
  rw [← hrest] at hdrop
  rw [List.length_append] at hgap
  rw [String.length_toList] at hgap hdrop
  unfold Shrinks
  omega

/-- What is read of a line gets shorter from its beginning on, and there are no more commands that
read it than it has tokens. -/
theorem gate_descends (h : Shell.Descends (s.gate line) rests m) :
    (line :: rests).IsChain Shrinks ∧
      ∃ ts after, TokensAt NameAt ts line.toList after ∧ rests.length ≤ ts.length := by
  cases hstart : s.context.start line with
  | mk found c =>
    cases found with
    | false =>
      have hgate : s.gate line = (.stop, { s with context := c }) := by rw [Shell.gate, hstart]; rfl
      rw [hgate] at h
      cases h with
      | settled => exact ⟨.singleton _, [], _, .done, Nat.le_refl _⟩
      | nameless htimer | again htimer => cases htimer
    | true =>
      obtain ⟨name, text, hname, hrest⟩ := heads_of_readName (congrArg Prod.fst hstart)
      have hremainder : (s.gate line).2.context.remainder = (s.context.start line).2.remainder := by
        rw [gate_of_start hstart, Shell.judge_remainder, hstart]
      have hleft : (s.gate line).2.context.remainder.toList = text.dropWhile isBlank :=
        (congrArg String.toList hremainder).trans hrest
      refine ⟨h.shrinks fun _ => shrinks_of_heads hname hleft, ?_⟩
      obtain ⟨ts, after, hts, hlength⟩ := h.tokens hleft
      exact ⟨name :: ts, after, tokensAt_of_heads hname hts, hlength⟩

/-- There is a last decision in the course of running a line. -/
theorem Shell.Reached.last (h : s.Reached line n) : ∃ m, s.Reached line m ∧ Shell.Final m := by
  obtain ⟨rests, m, hdescends⟩ := Shell.Descends.ends n
  exact ⟨m, hdescends.reached h, hdescends.final⟩

end LineShell
