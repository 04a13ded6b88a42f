import LineShell.Proofs.Completion.Candidates
import LineShell.Proofs.Operations
import Mathlib

/-! A completion over a whole run. What was found for an input is kept, however the shell changes
meanwhile, until the next input is begun. The candidates form a circle: moves add up, single moves in
either direction come to every candidate once, and one of these is the word that was typed. -/
namespace LineShell.Completion

/-- What happens to a completion and its shell. Between two uses of the completion the shell may
become any other one, as by registrations and changes of variables. -/
inductive Event
  | begin (input : String)
  | moveBy (steps : Int)
  | moveTo (position : Int)
  | stop
  | change (next : Shell)

variable {s : Shell} {c : Completion} {input : String} {p : Shell × Completion} {e : Event}
  {d : Int} {events : List Event}

/-- A move answers with the input at the new candidate. If it fails then nothing moves. -/
def moved (s : Shell) (c : Completion) :
    Except Failure Completion → Except Failure Value × Shell × Completion
  | .ok next => (next.current, s, next)
  | .error f => (.error f, s, c)

/-- What an event answers, and what it leaves. -/
def step (p : Shell × Completion) : Event → Except Failure Value × Shell × Completion
  | .begin input => (.ok .none, p.1, begin p.1 input)
  | .moveBy steps => moved p.1 p.2 (p.2.moveBy steps)
  | .moveTo position => moved p.1 p.2 (p.2.moveTo position)
  | .stop => (.ok .none, p.1, p.2.stop)
  | .change next => (.ok .none, next, p.2)

/-- The shell and the completion that a run of events leaves. -/
def after (p : Shell × Completion) (events : List Event) : Shell × Completion :=
  (runAll step p events).2

theorem after_cons (p : Shell × Completion) (e : Event) (events : List Event) :
    after p (e :: events) = after (step p e).2 events := rfl

theorem after_append (p : Shell × Completion) (events later : List Event) :
    after p (events ++ later) = after (after p events) later := by
  simp only [after, runAll_append]

/-- No input is begun. -/
def Continues (events : List Event) : Prop :=
  ∀ input, .begin input ∉ events

theorem continues_cons :
    Continues (e :: events) ↔ (∀ next, e ≠ .begin next) ∧ Continues events := by
  simp only [Continues, List.mem_cons, not_or, forall_and, ne_comm (a := e), ne_eq]

theorem step_moveBy (hactive : p.2.active) (n : Int) : step p (.moveBy n) =
    ((p.2.goTo (p.2.index + n)).current, p.1, p.2.goTo (p.2.index + n)) := by
  simp only [step, moveBy, if_pos hactive, moved]

theorem step_moveTo (hactive : p.2.active) (n : Int) :
    step p (.moveTo n) = ((p.2.goTo n).current, p.1, p.2.goTo n) := by
  simp only [step, moveTo, if_pos hactive, moved]

theorem step_moveBy_refused (hactive : ¬ p.2.active) (n : Int) :
    step p (.moveBy n) = (.error (notBegun "move_match"), p) := by
  simp only [step, moveBy, if_neg hactive, moved]

theorem step_moveTo_refused (hactive : ¬ p.2.active) (n : Int) :
    step p (.moveTo n) = (.error (notBegun "move_to"), p) := by
  simp only [step, moveTo, if_neg hactive, moved]

/-- An event that begins no input leaves the completion, or goes to a position, or ends it. -/
theorem step_cases (he : ∀ next, e ≠ .begin next) :
    (step p e).2.2 = p.2 ∧ e ≠ .stop ∨
      (∃ position, (step p e).2.2 = p.2.goTo position ∧ e ≠ .stop) ∨
      (step p e).2.2 = p.2.stop ∧ e = .stop := by
  cases e with
  | begin input => exact absurd rfl (he input)
  | moveBy steps =>
    by_cases hactive : p.2.active
    · rw [step_moveBy hactive]
      exact .inr (.inl ⟨_, rfl, nofun⟩)
    · rw [step_moveBy_refused hactive]
      exact .inl ⟨rfl, nofun⟩
  | moveTo position =>
    by_cases hactive : p.2.active
    · rw [step_moveTo hactive]
      exact .inr (.inl ⟨_, rfl, nofun⟩)
    · rw [step_moveTo_refused hactive]
      exact .inl ⟨rfl, nofun⟩
  | stop => exact .inr (.inr ⟨rfl, rfl⟩)
  | change next => exact .inl ⟨rfl, nofun⟩

theorem Completes.moves (h : c.Completes s input) (position : Int) :
    (c.goTo position).Completes s input where
  whole := h.whole
  solid := h.solid
  ended := h.ended
  words := h.words
  index := by
    have hpos : (0 : Int) < c.words.length := Int.natCast_pos.mpr (Nat.zero_lt_of_lt h.index)
    have hnonneg := Int.emod_nonneg position hpos.ne'
    have hlt := Int.emod_lt_of_pos position hpos
    simp only [Completion.goTo]
    omega

theorem Completes.ends (h : c.Completes s input) : c.stop.Completes s input :=
  ⟨h.whole, h.solid, h.ended, h.words, h.index⟩

/-- What was found for an input stays as long as no other input is begun. -/
theorem Completes.stays (h : p.2.Completes s input) (hcontinues : Continues events) :
    (after p events).2.Completes s input := by
  induction events generalizing p with
  | nil => exact h
  | cons e events ih =>
    obtain ⟨he, hevents⟩ := continues_cons.mp hcontinues
    rw [after_cons]
    refine ih ?_ hevents
    obtain ⟨hstep, _⟩ | ⟨position, hstep, _⟩ | ⟨hstep, _⟩ := step_cases (p := p) he
    · rwa [hstep]
    · exact hstep ▸ h.moves position
    · exact hstep ▸ h.ends

/-- A completion goes on until it is ended. -/
theorem active_after (hcontinues : Continues events) :
    (after p events).2.active ↔ p.2.active ∧ .stop ∉ events := by
  induction events generalizing p with
  | nil => simp [after, runAll]
  | cons e events ih =>
    obtain ⟨he, hevents⟩ := continues_cons.mp hcontinues
    rw [after_cons, ih hevents, List.mem_cons]
    obtain ⟨hstep, hother⟩ | ⟨position, hstep, hother⟩ | ⟨hstep, rfl⟩ := step_cases (p := p) he
    · simp [hstep, hother.symm]
    · simp [hstep, hother.symm, goTo]
    · simp [hstep, stop]

theorem goTo_index (h : c.index < c.words.length) : c.goTo c.index = c := by
  have hmod : (c.index : Int) % c.words.length = c.index :=
    Int.emod_eq_of_lt (Int.natCast_nonneg _) (Int.ofNat_lt.mpr h)
  simp only [goTo, hmod, Int.toNat_natCast]

/-- Going on from a position adds to it. -/
theorem goTo_goTo_add (hwords : c.words ≠ []) (position steps : Int) :
    (c.goTo position).goTo ((c.goTo position).index + steps) = c.goTo (position + steps) := by
  have hpos : (c.words.length : Int) ≠ 0 := by simpa using hwords
  simp only [goTo, Int.toNat_of_nonneg (Int.emod_nonneg position hpos), Int.emod_add_emod]

/-- Equal moves, one after the other, go as far as one move over all the steps. -/
theorem after_moves (hactive : c.active) (h : c.index < c.words.length) (d : Int) (k : Nat) :
    after (s, c) (List.replicate k (.moveBy d)) = (s, c.goTo (c.index + k * d)) := by
  induction k with
  | zero => simp [after, runAll, goTo_index h]
  | succ k ih =>
    have hwords : c.words ≠ [] := List.ne_nil_of_length_pos (Nat.zero_lt_of_lt h)
    have hnext : (s, c.goTo (c.index + k * d)).2.active := hactive
    rw [List.replicate_succ', after_append, ih]
    simp only [after, runAll, step_moveBy hnext, goTo_goTo_add hwords]
    congr 2
    push_cast
    ring

/-- On a circle every place is reached by just one number of single steps that goes not around. -/
theorem existsUnique_steps {n i : Nat} (index : Int) (hd : d * d = 1) (hi : i < n) :
    ∃! k : Nat, k < n ∧ (index + k * d) % n = i := by
  have hpos : (0 : Int) < n := Int.natCast_pos.mpr (Nat.zero_lt_of_lt hi)
  have hplace : (i : Int) % n = i := Int.emod_eq_of_lt (Int.natCast_nonneg _) (Int.ofNat_lt.mpr hi)
  have hnonneg := Int.emod_nonneg ((i - index) * d) hpos.ne'
  have hlt := Int.emod_lt_of_pos ((i - index) * d) hpos
  refine ⟨((i - index) * d % n).toNat, ⟨by omega, ?_⟩, ?_⟩
  · have hsteps : (i - index) * d % n ≡ (i - index) * d [ZMOD n] := Int.mod_modEq _ _
    rw [Int.toNat_of_nonneg hnonneg]
    calc (index + (i - index) * d % n * d) % n = (index + (i - index) * d * d) % n :=
          (hsteps.mul_right d).add_left index
      _ = i % n := by
          congr 1
          linear_combination (i - index) * hd
      _ = i := hplace
  · rintro k ⟨hk, hreached⟩
    have hindex : index + k * d ≡ i [ZMOD n] := hreached.trans hplace.symm
    have hk' : (k : Int) = (i - index) * d % n :=
      calc (k : Int) = k % n := (Int.emod_eq_of_lt (Int.natCast_nonneg _) (Int.ofNat_lt.mpr hk)).symm
        _ = (index + k * d - index) * d % n := by
          congr 1
          linear_combination -k * hd
        _ = (i - index) * d % n := (hindex.sub_right index).mul_right d
    omega

/-- A completion that goes on. It answers with one of its candidates and can be led to any other. -/
structure Cycles (p : Shell × Completion) (input : String) : Prop where
  current : ∃ word, p.2.words[p.2.index]? = some word ∧
    p.2.current = .ok (.text (p.2.fixedPart ++ word))
  answers : ∀ (n : Int) (e : Event), e = .moveBy n ∨ e = .moveTo n →
    ∃ word ∈ p.2.words, (step p e).1 = .ok (.text (p.2.fixedPart ++ word))
  adds : ∀ a b, step (step p (.moveBy a)).2 (.moveBy b) = step p (.moveBy (a + b))
  visits : ∀ d : Int, d = 1 ∨ d = -1 → ∀ i < p.2.words.length,
    ∃! k, k < p.2.words.length ∧ (after p (.replicate k (.moveBy d))).2.index = i
  returns : ∀ d : Int, d = 1 ∨ d = -1 → after p (.replicate p.2.words.length (.moveBy d)) = p
  back : ∃ k, (after p (.replicate k (.moveBy 1))).2.current = .ok (.text input)

/-- A completion that has ended. It answers with nothing and refuses to move. -/
structure Rests (p : Shell × Completion) : Prop where
  current : p.2.current = .ok .unset
  moveBy : ∀ n, step p (.moveBy n) = (.error (notBegun "move_match"), p)
  moveTo : ∀ n, step p (.moveTo n) = (.error (notBegun "move_to"), p)

theorem current_eq {word : String} (hactive : c.active) (hword : c.words[c.index]? = some word) :
    c.current = .ok (.text (c.fixedPart ++ word)) := by
  rw [current, if_pos hactive, hword]

theorem Completes.current_goTo (h : c.Completes s input) (hactive : c.active) (position : Int) :
    ∃ word ∈ c.words, (c.goTo position).current = .ok (.text (c.fixedPart ++ word)) := by
  have hnext : (c.goTo position).active := hactive
  have hword := List.getElem?_eq_getElem (h.moves position).index
  exact ⟨_, List.mem_of_getElem? hword, current_eq hnext hword⟩

theorem Completes.cycles (h : p.2.Completes s input) (hactive : p.2.active) : Cycles p input := by
  have hpos : (0 : Int) < p.2.words.length := Int.natCast_pos.mpr (Nat.zero_lt_of_lt h.index)
  -- after equal moves the completion is at the position that they add up to
  have hmoves (d : Int) (k : Nat) := after_moves (s := p.1) hactive h.index d k
  have hvisits {d : Int} (hd : d = 1 ∨ d = -1) {i : Nat} (hi : i < p.2.words.length) :
      ∃! k, k < p.2.words.length ∧ (after p (.replicate k (.moveBy d))).2.index = i := by
    have hunit : d * d = 1 := by
      obtain rfl | rfl := hd <;> rfl
    refine (existsUnique_congr fun k => and_congr_right fun _ => ?_).mp
      (existsUnique_steps p.2.index hunit hi)
    have hnonneg := Int.emod_nonneg (p.2.index + k * d) hpos.ne'
    simp only [hmoves, goTo]
    omega
  constructor
  case current =>
    have hword := List.getElem?_eq_getElem h.index
    exact ⟨_, hword, current_eq hactive hword⟩
  case answers =>
    rintro n e (rfl | rfl)
    · rw [step_moveBy hactive]
      exact h.current_goTo hactive _
    · rw [step_moveTo hactive]
      exact h.current_goTo hactive _
  case adds =>
    intro a b
    have hnext : (p.1, p.2.goTo (p.2.index + a)).2.active := hactive
    rw [step_moveBy hactive, step_moveBy hnext, step_moveBy hactive, goTo_goTo_add h.ne_nil,
      add_assoc]
  case visits => exact fun d hd i hi => hvisits hd hi
  case returns =>
    intro d _
    rw [hmoves, goTo, Int.add_mul_emod_self_left]
    exact Prod.ext rfl (goTo_index h.index)
  case back =>
    obtain ⟨i, hword⟩ := List.mem_iff_getElem?.mp h.mem
    obtain ⟨hi, _⟩ := List.getElem?_eq_some_iff.mp hword
    obtain ⟨k, ⟨_, hreached⟩, _⟩ := hvisits (.inl rfl) hi
    refine ⟨k, ?_⟩
    rw [hmoves] at hreached ⊢
    have hnext : (p.2.goTo (p.2.index + k * 1)).active := hactive
    rw [← hreached] at hword
    rw [current_eq hnext hword, ← h.whole]
    rfl

theorem rests_of_not_active (hactive : ¬ p.2.active) : Rests p :=
  ⟨if_neg hactive, step_moveBy_refused hactive, step_moveTo_refused hactive⟩

/-- Whatever happened before and whatever the shell becomes, a completion that was begun has sound
candidates and, until it is ended, leads back to the input; ended, it rests until the next one. -/
theorem leads_back (s : Shell) (c : Completion) (before later : List Event)
    (hlater : Continues later) :
    (∀ input : String,
      (after (s, c) (before ++ .begin input :: later)).2.Completes (after (s, c) before).1 input ∧
        (.stop ∉ later → Cycles (after (s, c) (before ++ .begin input :: later)) input)) ∧
      Rests (after (s, c) (before ++ .stop :: later)) := by
  constructor
  · intro input
    have hbegun := completes_begin (after (s, c) before).1 input
    rw [after_append, after_cons]
    have hstays := hbegun.stays (p := (step (after (s, c) before) (.begin input)).2) hlater
    refine ⟨hstays, fun hgoes => hstays.cycles ?_⟩
    exact (active_after hlater).mpr ⟨rfl, hgoes⟩
  · rw [after_append, after_cons]
    refine rests_of_not_active fun hactive => ?_
    exact absurd ((active_after hlater).mp hactive).1 Bool.false_ne_true

/-- Of three variables that a word may stand for, the shorter names come first and the word itself
last; a variable that is bound meanwhile is no candidate. -/
theorem leads_back_tell :
    let bound := NameMap.empty.insertAll [("alpha", "1"), ("ab", "2"), ("axe", "3")]
    let s := (Shell.bare (.empty 1 Nat.one_pos) ⟨0, 0⟩).mapContext ({ · with bindings := bound })
    let events := [.begin "tell $a", .change (s.mapContext (·.bindVariable "at" "4")), .moveBy (-3)]
    Continues (events.drop 1) ∧ .stop ∉ events.drop 1 ∧ Cycles (after (s, idle) events) "tell $a" ∧
      (after (s, idle) events).2.words = ["$ab", "$axe", "$alpha", "$a"] ∧
      (after (s, idle) events).2.current.toOption.map Value.plain = some "tell $axe" ∧
      Rests (after (s, idle) (.stop :: events.drop 1)) := by
  intro bound s events
  have hlater : Continues (events.drop 1) := by simp [Continues, events]
  have hgoes : .stop ∉ events.drop 1 := by simp [events]
  obtain ⟨hbegun, hended⟩ := leads_back s idle [] (events.drop 1) hlater
  exact ⟨hlater, hgoes, (hbegun "tell $a").2 hgoes, by cbv, by cbv, hended⟩

end LineShell.Completion
