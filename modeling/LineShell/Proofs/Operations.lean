/-! Runs of operations. An operation, put to a system in some state, gives an answer and leaves a
state. Main statement: if two systems answer every operation alike while their states are related,
and keep them related, then they answer every run of operations alike. -/
namespace LineShell

variable {σ τ ο ω ρ : Type} {f : σ → ο → ρ × σ} {g : τ → ο → ρ × τ}

/-- The answers of operations that are put one after the other, and the state after all of them. -/
def runAll (step : σ → ο → ρ × σ) (s : σ) : List ο → List ρ × σ
  | [] => ([], s)
  | op :: ops =>
    let (a, t) := step s op
    let (as, u) := runAll step t ops
    (a :: as, u)

theorem runAll_cons (f : σ → ο → ρ × σ) (s : σ) (op : ο) (ops : List ο) :
    (runAll f s (op :: ops)).2 = (runAll f (f s op).2 ops).2 := rfl

theorem runAll_append (f : σ → ο → ρ × σ) (s : σ) (ops later : List ο) :
    runAll f s (ops ++ later) =
      ((runAll f s ops).1 ++ (runAll f (runAll f s ops).2 later).1,
        (runAll f (runAll f s ops).2 later).2) := by
  induction ops generalizing s with
  | nil => rfl
  | cons op ops ih => simp only [List.cons_append, runAll, ih]

/-- What is left by a run is left by its last operation. -/
theorem runAll_concat (f : σ → ο → ρ × σ) (s : σ) (ops : List ο) (op : ο) :
    (runAll f s (ops ++ [op])).2 = (f (runAll f s ops).2 op).2 := by
  simp only [runAll_append, runAll]

theorem runAll_map (g : τ → ω → ρ × τ) (h : ο → ω) (t : τ) (ops : List ο) :
    runAll (fun t op => g t (h op)) t ops = runAll g t (ops.map h) := by
  induction ops generalizing t with
  | nil => rfl
  | cons op ops ih => simp only [List.map_cons, runAll, ih]

theorem runAll_alike {R : σ → τ → Prop}
    (hstep : ∀ s t op, R s t → (f s op).1 = (g t op).1 ∧ R (f s op).2 (g t op).2)
    {s : σ} {t : τ} (h : R s t) (ops : List ο) :
    (runAll f s ops).1 = (runAll g t ops).1 ∧ R (runAll f s ops).2 (runAll g t ops).2 := by
  induction ops generalizing s t with
  | nil => exact ⟨rfl, h⟩
  | cons op ops ih =>
    obtain ⟨hanswer, hnext⟩ := hstep s t op h
    obtain ⟨hanswers, hend⟩ := ih hnext
    refine ⟨?_, hend⟩
    simp only [runAll, hanswer, hanswers]

end LineShell
