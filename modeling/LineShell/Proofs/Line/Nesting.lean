import LineShell.Proofs.Line.Checkpoint

/-! Nested attempts. Which reads of a tree of steps take effect is known before it runs: those whose
attempts all commit, up to the first attempt that breaks off. A run moves the cursor by exactly
these reads, so it never goes back behind its start, and every attempt that is entered on the way
ends either where its own steps end or where it was entered. -/
namespace LineShell.Line

open LineShell.Text Scanner

variable {s t u : Scanner} {step x : Step} {steps inner : List Step} {commit breakOff : Bool}

mutual

/-- Whether a step breaks off: an attempt that does so by itself, or around one that does. -/
def Step.breaksOff : Step → Bool
  | .attempt steps _ breakOff => Step.anyBreaksOff steps || breakOff
  | _ => false

/-- Whether one of the steps breaks off, however deep inside. -/
def Step.anyBreaksOff : List Step → Bool
  | [] => false
  | step :: steps => step.breaksOff || Step.anyBreaksOff steps

end

mutual

/-- The reads of a step that take effect. An attempt commits if it is to and nothing inside it
breaks off before that. -/
def Step.kept : Step → List Step
  | .attempt steps commit _ =>
    if commit && !Step.anyBreaksOff steps then Step.keptAll steps else []
  | read => [read]

/-- The reads of several steps that take effect, up to the first step that breaks off. -/
def Step.keptAll : List Step → List Step
  | [] => []
  | step :: steps => step.kept ++ if step.breaksOff then [] else Step.keptAll steps

end

/-- The scanner after a step. -/
def Step.move (s : Scanner) (step : Step) : Scanner := (step.run s).2

/-- A step that is reached by a run, and the scanner that it is reached with. Steps after one that
breaks off are not reached. -/
inductive Enters : List Step → Scanner → Step → Scanner → Prop
  | head {step : Step} {steps : List Step} {s : Scanner} : Enters (step :: steps) s step s
  | tail {step x : Step} {steps : List Step} {s t u : Scanner} {a : Answer}
      (hrun : step.run s = (.ok a, t)) (h : Enters steps t x u) : Enters (step :: steps) s x u
  | inside {inner steps : List Step} {commit breakOff : Bool} {s u : Scanner} {x : Step}
      (h : Enters inner s x u) : Enters (.attempt inner commit breakOff :: steps) s x u

/-- A scanner of the same line that has not gone back, nor past the end of the line. -/
structure Forward (s t : Scanner) : Prop where
  source : t.source = s.source
  cursor : s.cursor ≤ t.cursor
  within : t.cursor ≤ s.source.length

theorem Forward.refl (s : Scanner) : Forward s s := ⟨rfl, Nat.le_refl _, s.cursor_le⟩

theorem Forward.trans (h : Forward s t) (h' : Forward t u) : Forward s u where
  source := h'.source.trans h.source
  cursor := Nat.le_trans h.cursor h'.cursor
  within := h.source ▸ h'.within

/-- Whether a step is no attempt. -/
def Step.isRead : Step → Bool
  | .attempt .. => false
  | _ => true

/-- The number of characters that make up what is read, if anything is. -/
def widthOf {ω : Type} (spelling : ω → List Char) (read : Option ω) : Nat :=
  (read.map fun l => (spelling l).length).getD 0

/-- The number of characters that a read takes. -/
def Step.width (s : Scanner) : Step → Nat
  | .skip => (s.rest.takeWhile isBlank).length
  | .name => widthOf Lexeme.spelling (readName? s.rest)
  | .bare => widthOf Lexeme.spelling (readBare? s.rest)
  | .string => widthOf Lexeme.spelling (readString? s.rest)
  | .option => widthOf OptionLexeme.spelling (readOption? s.rest)
  | .describe | .attempt .. => 0

theorem widthOf_le {ω : Type} {spelling : ω → List Char} {read : Option ω} {cs : List Char}
    (h : ∀ l, read = some l → ∃ rest, cs = spelling l ++ rest ∧ spelling l ≠ []) :
    widthOf spelling read ≤ cs.length := by
  cases read with
  | none => exact Nat.zero_le _
  | some l =>
    obtain ⟨rest, hrest, _⟩ := h l rfl
    rw [hrest, List.length_append]
    exact Nat.le_add_right _ _

/-- What a read takes is there to be read. -/
theorem width_le (step : Step) (s : Scanner) : step.width s ≤ s.rest.length := by
  cases step with
  | skip => exact (List.takeWhile_prefix _).length_le
  | name => exact widthOf_le fun _ => spelling_of_readName?
  | bare => exact widthOf_le fun _ => spelling_of_readBare?
  | string => exact widthOf_le fun _ => spelling_of_readString?
  | option => exact widthOf_le fun _ => spelling_of_readOption?
  | describe => exact Nat.zero_le _
  | attempt => exact Nat.zero_le _

theorem answer_eq_advance {α ω : Type} (wrap : α → Answer) (spelling : ω → List Char)
    (take : ω → α) (read : Option ω) :
    (s.answer wrap (read.map fun l => (take l, s.advance (spelling l).length))).2 =
      s.advance (widthOf spelling read) := by
  cases read with
  | none => exact s.advance_zero.symm
  | some l => rfl

theorem move_eq_advance (hread : step.isRead = true) (s : Scanner) :
    Step.move s step = s.advance (step.width s) := by
  cases step with
  | attempt => cases hread
  | skip => rfl
  | describe => exact s.advance_zero.symm
  | name => exact answer_eq_advance .text Lexeme.spelling _ _
  | bare => exact answer_eq_advance .text Lexeme.spelling _ _
  | string => exact answer_eq_advance .text Lexeme.spelling _ _
  | option => exact answer_eq_advance .option OptionLexeme.spelling _ _

/-- A read moves the cursor by the characters that it takes: it does not run into the end. -/
theorem cursor_move (hread : step.isRead = true) (s : Scanner) :
    (Step.move s step).cursor = s.cursor + step.width s := by
  rw [move_eq_advance hread]
  exact advance_cursor (width_le step s)

theorem forward_read (hread : step.isRead = true) (s : Scanner) :
    Forward s (Step.move s step) := by
  have hcursor := cursor_move hread s
  have hwidth := width_le step s
  rw [Scanner.rest, List.length_drop] at hwidth
  refine ⟨by rw [move_eq_advance hread, advance_source], by omega, ?_⟩
  have hle := s.cursor_le
  omega

theorem forward_foldl {reads : List Step} (hreads : ∀ read ∈ reads, read.isRead = true)
    (s : Scanner) : Forward s (reads.foldl Step.move s) := by
  induction reads generalizing s with
  | nil => exact Forward.refl s
  | cons read reads ih =>
    obtain ⟨hread, hreads⟩ := List.forall_mem_cons.mp hreads
    exact (forward_read hread s).trans (ih hreads _)

mutual

theorem isRead_of_mem_kept (step : Step) : ∀ read ∈ step.kept, read.isRead = true := by
  cases step with
  | attempt steps commit breakOff =>
    rw [Step.kept]
    split
    · exact isRead_of_mem_keptAll steps
    · exact fun _ hread => nomatch hread
  | _ => exact List.forall_mem_singleton.mpr rfl

theorem isRead_of_mem_keptAll (steps : List Step) :
    ∀ read ∈ Step.keptAll steps, read.isRead = true := by
  cases steps with
  | nil => exact fun _ hread => nomatch hread
  | cons step steps =>
    rw [Step.keptAll]
    refine List.forall_mem_append.mpr ⟨isRead_of_mem_kept step, ?_⟩
    split
    · exact fun _ hread => nomatch hread
    · exact isRead_of_mem_keptAll steps

end

/-- What a run does that breaks off or not and whose effect is that of some reads. -/
inductive Outcome {α : Type} (s : Scanner) (kept : List Step) :
    Bool → Except Failure α × Scanner → Prop
  | completed (a : α) : Outcome s kept false (.ok a, kept.foldl Step.move s)
  | brokenOff : Outcome s kept true (.error brokenOff, kept.foldl Step.move s)

-- The induction is on the tree. What carries it is that a scanner is known by the reads that led to
-- it, so that going back is forgetting reads.
mutual

theorem outcome_run (step : Step) (s : Scanner) :
    Outcome s step.kept step.breaksOff (step.run s) := by
  cases step with
  | attempt steps commit breakOff =>
    have hsteps := outcome_runAll steps s
    rw [Step.run, Step.breaksOff, Step.kept]
    generalize Step.anyBreaksOff steps = any, Step.runAll steps s = r at hsteps ⊢
    cases hsteps with
    | brokenOff =>
      rw [Bool.not_true, Bool.and_false]
      exact Outcome.brokenOff
    | completed answers => cases commit <;> cases breakOff <;> constructor
  | _ => exact Outcome.completed _

theorem outcome_runAll (steps : List Step) (s : Scanner) :
    Outcome s (Step.keptAll steps) (Step.anyBreaksOff steps) (Step.runAll steps s) := by
  cases steps with
  | nil => exact Outcome.completed _
  | cons step steps =>
    have hstep := outcome_run step s
    rw [Step.runAll, Step.anyBreaksOff, Step.keptAll]
    generalize step.breaksOff = breaks, step.run s = r at hstep ⊢
    cases hstep with
    | brokenOff =>
      rw [if_pos rfl, List.append_nil]
      exact Outcome.brokenOff
    | completed a =>
      have hsteps := outcome_runAll steps (step.kept.foldl Step.move s)
      rw [if_neg Bool.false_ne_true, Bool.false_or]
      simp only
      generalize Step.anyBreaksOff steps = any, Step.runAll steps _ = rest at hsteps ⊢
      cases hsteps with
      | brokenOff =>
        rw [← List.foldl_append]
        exact Outcome.brokenOff
      | completed as =>
        rw [← List.foldl_append]
        exact Outcome.completed _

end

theorem Outcome.error_iff {α : Type} {kept : List Step} {breaksOff : Bool}
    {r : Except Failure α × Scanner} (h : Outcome s kept breaksOff r) :
    (∃ e, r.1 = .error e) ↔ breaksOff = true := by
  cases h <;> simp

theorem Outcome.reached {α : Type} {kept : List Step} {breaksOff : Bool}
    {r : Except Failure α × Scanner} (h : Outcome s kept breaksOff r) :
    r.2 = kept.foldl Step.move s := by
  cases h <;> rfl

theorem forward_run (step : Step) (s : Scanner) : Forward s (step.run s).2 := by
  rw [(outcome_run step s).reached]
  exact forward_foldl (isRead_of_mem_kept step) s

theorem forward_runAll (steps : List Step) (s : Scanner) : Forward s (Step.runAll steps s).2 := by
  rw [(outcome_runAll steps s).reached]
  exact forward_foldl (isRead_of_mem_keptAll steps) s

theorem forward_enters (h : Enters steps s x u) : Forward s u := by
  induction h with
  | head => exact Forward.refl _
  | @tail step _ _ s _ _ _ hrun _ ih =>
    have hstep := forward_run step s
    rw [hrun] at hstep
    exact hstep.trans ih
  | inside _ ih => exact ih

/-- An attempt that does not commit, or inside which a step breaks off, goes back to where it was
entered, whatever the attempts inside it committed. -/
theorem run_attempt_undone (h : commit = false ∨ Step.anyBreaksOff inner = true) (u : Scanner) :
    ((Step.attempt inner commit breakOff).run u).2 = u := by
  have hkept : (Step.attempt inner commit breakOff).kept = [] := by
    rw [Step.kept, if_neg]
    rcases h with rfl | hany
    · simp
    · simp [hany]
  rw [(outcome_run _ u).reached, hkept]
  rfl

theorem run_attempt_kept (hany : Step.anyBreaksOff inner = false) (u : Scanner) :
    ((Step.attempt inner true breakOff).run u).2 = (Step.runAll inner u).2 := by
  rw [(outcome_run _ u).reached, (outcome_runAll inner u).reached, Step.kept, hany]
  rfl

/-- A run of any steps on any scanner, which is the run in which tokens open blocks of their own
too, keeps the line and ends where the reads lead that take effect, so not behind its start.
Wherever it comes on the way, it is not behind its start either, and a read there moves on by the
characters it takes. An attempt that it enters breaks off exactly if it or one inside it is to. It
ends where it was entered if it did not commit, and else where its steps ended. -/
theorem attempts_nest (steps : List Step) (s : Scanner) :
    ∃ result t, Step.runAll steps s = (result, t) ∧ Step.runAllBlocks steps s = (result, t) ∧
      ((∃ e, result = .error e) ↔ Step.anyBreaksOff steps = true) ∧
      t = (Step.keptAll steps).foldl Step.move s ∧ Forward s t ∧
      ∀ x u, Enters steps s x u → Forward s u ∧
        (x.isRead = true → (x.run u).2.cursor = u.cursor + x.width u) ∧
        ∀ inner commit breakOff, x = .attempt inner commit breakOff →
          ∃ outcome v, x.run u = (outcome, v) ∧ Forward u v ∧
            ((∃ e, outcome = .error e) ↔ Step.anyBreaksOff inner = true ∨ breakOff = true) ∧
            (commit = false ∨ Step.anyBreaksOff inner = true → v = u) ∧
            (commit = true ∧ Step.anyBreaksOff inner = false → v = (Step.runAll inner u).2) := by
  refine ⟨_, _, rfl, runAllBlocks_eq steps s, (outcome_runAll steps s).error_iff,
    (outcome_runAll steps s).reached, forward_runAll steps s,
    fun x u hx => ⟨forward_enters hx, fun hread => cursor_move hread u, ?_⟩⟩
  rintro inner commit breakOff rfl
  refine ⟨_, _, (Prod.eta _).symm, forward_run _ u, ?_, fun h => run_attempt_undone h u, ?_⟩
  · rw [(outcome_run _ u).error_iff, Step.breaksOff, Bool.or_eq_true]
  · rintro ⟨rfl, hany⟩
    exact run_attempt_kept hany u

example : (Step.runAll [.attempt [.attempt [.skip] true false, .name] false false, .skip]
    (Scanner.ofLine "  go  ")).2.cursor = 2 := by decide

end LineShell.Line
