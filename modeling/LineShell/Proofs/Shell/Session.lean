import LineShell.Proofs.Shell.Steps

/-! Sessions: the states that a shell comes to while a host puts operations to it, those in the
midst of handlers included. Main statement: if every step of a session puts the states before and
after it into a relation, then each of its states is in that relation to those after it. -/
namespace LineShell

variable {s t u : Shell} {line : String} {n : Verdict × Shell} {p q : Program}
  {m : Except Raised Program × Shell}

/-- What a host may do with a shell between lines: register one command, which it may fail to hand
over, or several, and ask for the listing of all commands or have it logged. -/
inductive Shell.Operation
  | register (made : Option Command)
  | registerAll (items : List Registrable)
  | listing
  | logCommands

/-- The shell after an operation, also if that is refused. -/
def Shell.operate (s : Shell) : Operation → Shell
  | .register made => (s.registerAny made).toOption.getD s
  | .registerAll items => (s.registerAll items).2
  | .listing => s.listing.2
  | .logCommands => s.logCommands

/-- A host that registers a command leaves what a handler leaves that registers it. -/
theorem operate_register (s : Shell) (made : Option Command) :
    s.operate (.register made) = (s.registerMade (.ok made)).2 := by
  have hmade : (Except.ok made).bind s.registerAny = s.registerAny made := rfl
  rw [Shell.operate, Shell.registerMade, hmade]
  cases s.registerAny made <;> rfl

/-- The states in which a line may be run in a session that begins in a state, and how deep its
handlers may hand over further lines: at the beginning, after every operation of the host out of
those allowed and after every line, and wherever a handler stands in the midst of a line. -/
inductive Session (allowed : Shell.Operation → Prop) (s₀ : Shell) : Nat → Shell → Prop
  | opened : Session allowed s₀ Shell.depthLimit s₀
  | operated {s : Shell} {op : Shell.Operation} (h : Session allowed s₀ Shell.depthLimit s)
      (hop : allowed op) : Session allowed s₀ Shell.depthLimit (s.operate op)
  | dispatched {s : Shell} (h : Session allowed s₀ Shell.depthLimit s) (line : Value) :
      Session allowed s₀ Shell.depthLimit (Shell.runLineAny Shell.reenter line s).2
  | within {depth : Nat} {s t : Shell} {line : String} {n : Verdict × Shell} {p q : Program}
      (h : Session allowed s₀ (depth + 1) s) (hreached : s.Reached line n)
      (hstarts : Shell.Starts n p)
      (hcomes : p.Comes (Shell.dispatcher (depth + 1)) n.2 (.ok q, t)) :
      Session allowed s₀ depth t

/-- In a line that begins in one of certain states, a handler has come to a point of its program. -/
inductive Acting (begins : Nat → Shell → Prop) (depth : Nat) : Except Raised Program × Shell → Prop
  | intro {s : Shell} {line : String} {n : Verdict × Shell} {p : Program}
      {m : Except Raised Program × Shell} (h : begins depth s)
      (hreached : s.Reached line n) (hstarts : Shell.Starts n p)
      (hcomes : p.Comes (Shell.dispatcher depth) n.2 m) : Acting begins depth m

/-- The states that a session comes to: where a line may be run, where something is decided on one,
and at every point of a handler. -/
inductive Occurs (allowed : Shell.Operation → Prop) (s₀ : Shell) : Shell → Prop
  | session {depth : Nat} {s : Shell} (h : Session allowed s₀ depth s) : Occurs allowed s₀ s
  | decided {depth : Nat} {s : Shell} {line : String} {n : Verdict × Shell}
      (h : Session allowed s₀ depth s) (hreached : s.Reached line n) : Occurs allowed s₀ n.2
  | acting {depth : Nat} {m : Except Raised Program × Shell}
      (h : Acting (Session allowed s₀) depth m) : Occurs allowed s₀ m.2

/-- In a session, one state comes after another: the host goes on, a line is read up to a decision,
or a handler goes on or ends its line. -/
inductive Later (allowed : Shell.Operation → Prop) (s₀ : Shell) : Shell → Shell → Prop
  | refl {s : Shell} : Later allowed s₀ s s
  | trans {s t u : Shell} (h : Later allowed s₀ s t) (h' : Later allowed s₀ t u) :
      Later allowed s₀ s u
  | operated {s : Shell} {op : Shell.Operation} (h : Session allowed s₀ Shell.depthLimit s)
      (hop : allowed op) : Later allowed s₀ s (s.operate op)
  | dispatched {s : Shell} (h : Session allowed s₀ Shell.depthLimit s) (line : Value) :
      Later allowed s₀ s (Shell.runLineAny Shell.reenter line s).2
  | reached {depth : Nat} {s : Shell} {line : String} {n : Verdict × Shell}
      (h : Session allowed s₀ depth s) (hreached : s.Reached line n) : Later allowed s₀ s n.2
  | comes {depth : Nat} {q : Program} {t : Shell} {m : Except Raised Program × Shell}
      (h : Acting (Session allowed s₀) depth (.ok q, t))
      (hcomes : q.Comes (Shell.dispatcher depth) t m) :
      Later allowed s₀ t m.2
  | finished {depth : Nat} {s : Shell} {line : String} {n : Verdict × Shell} {p : Program}
      {m : Except Raised Program × Shell} (h : Session allowed s₀ depth s)
      (hreached : s.Reached line n) (hstarts : Shell.Starts n p)
      (hcomes : p.Comes (Shell.dispatcher depth) n.2 m) :
      Later allowed s₀ m.2 (s.runLine (Shell.dispatcher depth) line).2

theorem Session.later {allowed : Shell.Operation → Prop} {s₀ : Shell} {depth : Nat}
    (h : Session allowed s₀ depth s) : Later allowed s₀ s₀ s := by
  induction h with
  | opened => exact .refl
  | operated h hop ih => exact ih.trans (.operated h hop)
  | dispatched h line ih => exact ih.trans (.dispatched h line)
  | within h hreached hstarts hcomes ih =>
    exact ih.trans ((Later.reached h hreached).trans
      (.comes ⟨h, hreached, hstarts, .start⟩ hcomes))

/-- All that a session comes to comes after its beginning. -/
theorem Occurs.later {allowed : Shell.Operation → Prop} {s₀ : Shell}
    (h : Occurs allowed s₀ s) : Later allowed s₀ s₀ s := by
  cases h with
  | session h => exact h.later
  | decided h hreached => exact h.later.trans (.reached h hreached)
  | acting h =>
    obtain ⟨h, hreached, hstarts, hcomes⟩ := h
    exact h.later.trans ((Later.reached h hreached).trans
      (.comes ⟨h, hreached, hstarts, .start⟩ hcomes))

/-- A line may be run in a state of the session, and the beginning is related to that state. -/
def Related (allowed : Shell.Operation → Prop) (s₀ : Shell) (R : Shell → Shell → Prop)
    (depth : Nat) (s : Shell) : Prop :=
  Session allowed s₀ depth s ∧ R s₀ s

theorem Acting.of_related {allowed : Shell.Operation → Prop} {s₀ : Shell}
    {R : Shell → Shell → Prop} {depth : Nat} (h : Acting (Related allowed s₀ R) depth m) :
    Acting (Session allowed s₀) depth m := by
  obtain ⟨hs, hreached, hstarts, hcomes⟩ := h
  exact ⟨hs.1, hreached, hstarts, hcomes⟩

/-- Every step of a session relates the state before it to the one after it. What a handler does may
be judged knowing that the beginning is related to the state in which its line began. -/
structure Relates (allowed : Shell.Operation → Prop) (s₀ : Shell) (R : Shell → Shell → Prop) :
    Prop where
  trans : ∀ {s t u : Shell}, R s t → R t u → R s u
  lasting : ∀ {s t : Shell}, t.lasting = s.lasting → R s t
  operated : ∀ {s : Shell} {op : Shell.Operation}, allowed op → R s (s.operate op)
  builtin : ∀ {s t : Shell} {line : String} {command : Command} {b : Builtin},
    s.Reached line (.call command, t) → command.handler = .builtin b → R t (t.runBuiltin b).2
  ask : ∀ {depth : Nat} {q : Query} {next : Except Failure Value → Program} {t : Shell},
    Acting (Related allowed s₀ R) depth (.ok (.ask q next), t) →
      R t { t with context := (q.run t.context).2 }
  register : ∀ {depth : Nat} {made : Except Failure (Option Command)}
    {next : Except Failure Unit → Program} {t : Shell},
    Acting (Related allowed s₀ R) depth (.ok (.register made next), t) →
      R t (t.registerMade made).2
  listing : ∀ t : Shell, R t t.listing.2

namespace Relates

variable {allowed : Shell.Operation → Prop} {s₀ : Shell} {R : Shell → Shell → Prop} {depth : Nat}
  (h : Relates allowed s₀ R)

include h

/-- The lines of a session are those that begin in one of its states. -/
theorem steps : Steps (fun depth s _ => Related allowed s₀ R depth s) R where
  trans := h.trans
  lasting := h.lasting
  builtin _ := h.builtin
  ask := by
    rintro depth s t q next ⟨hs, hreached, hstarts, hcomes⟩
    exact h.ask ⟨hs, hreached, hstarts, hcomes⟩
  register := by
    rintro depth s t made next ⟨hs, hreached, hstarts, hcomes⟩
    exact h.register ⟨hs, hreached, hstarts, hcomes⟩
  listing := h.listing
  handed := by
    rintro depth s t line next ⟨hs, hreached, hstarts, hcomes⟩ ht
    exact ⟨.within hs.1 hreached hstarts hcomes, h.trans hs.2 ht⟩

theorem dispatched (hs : Related allowed s₀ R Shell.depthLimit s) (line : Value) :
    R s (Shell.runLineAny Shell.reenter line s).2 := by
  cases line with
  | text line => exact h.steps.ran (h.steps.nested _) hs
  | _ => exact h.lasting rfl

/-- The beginning of a session is related to every state in which a line may be run. -/
theorem session (hsession : Session allowed s₀ depth s) : Related allowed s₀ R depth s := by
  refine ⟨hsession, ?_⟩
  induction hsession with
  | opened => exact h.lasting rfl
  | operated _ hop ih => exact h.trans ih (h.operated hop)
  | dispatched hsession line ih => exact h.trans ih (h.dispatched ⟨hsession, ih⟩ line)
  | within hsession hreached hstarts hcomes ih =>
    exact h.trans ih
      (h.steps.acted (h.steps.nested _) ⟨⟨hsession, ih⟩, hreached, hstarts, hcomes⟩)

/-- What every step of a session keeps to relates each of its states to those after it. -/
theorem later (hlater : Later allowed s₀ s t) : R s t := by
  induction hlater with
  | refl => exact h.lasting rfl
  | trans _ _ ih ih' => exact h.trans ih ih'
  | operated _ hop => exact h.operated hop
  | dispatched hsession line => exact h.dispatched (h.session hsession) line
  | reached _ hreached => exact h.lasting hreached.lasting
  | comes hacting hcomes =>
    obtain ⟨hsession, hreached, hstarts, hbefore⟩ := hacting
    have hpoint : Handling (fun depth s _ => Related allowed s₀ R depth s) _ _ (.ok _, _) :=
      ⟨h.session hsession, hreached, hstarts, hbefore⟩
    have hacted := h.steps.acted (h.steps.nested _) hpoint
    exact h.steps.comes (h.steps.nested _) hpoint hacted hcomes
  | finished hsession hreached hstarts hcomes =>
    exact h.steps.finished (h.steps.nested _) (h.session hsession) hreached hstarts hcomes

end Relates

end LineShell
