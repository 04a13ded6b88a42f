import LineShell.Text.Case

/-! The lower case of the beginning of a text. It is the beginning of the lower case of the whole,
unless the beginning ends in a capital sigma that ends a word there and none in the whole text. -/
namespace LineShell.Text

variable {before after front rest : List Char} {c : Char}

/-- A text that follows `before`, which is given last character first, ends in a capital sigma that
closes a word: there is a cased character in front of the sigma, and what may still follow it does
not count. -/
def ClosesSigma (before front : List Char) : Prop :=
  ∃ word after, front = word ++ 'Σ' :: after ∧ casedAhead (word.reverse ++ before) = true ∧
    ∀ c ∈ after, isCaseIgnorable c = true

/-- A text is cut inside a word behind a capital sigma. -/
def CutBehindSigma (front rest : List Char) : Prop :=
  ClosesSigma [] front ∧ casedAhead rest = true

/-- The lower case of the beginning of a text as it stands in the text. -/
def lowerBefore (before : List Char) : List Char → List Char → List Char
  | [], _ => []
  | c :: after, rest => lowerAt before c (after ++ rest) ++ lowerBefore (c :: before) after rest

theorem lowerFrom_append (before front rest : List Char) :
    lowerFrom before (front ++ rest) =
      lowerBefore before front rest ++ lowerFrom (front.reverse ++ before) rest := by
  induction front generalizing before with
  | nil => rfl
  | cons c front ih => simp [lowerFrom, lowerBefore, ih]

theorem length_lowerBefore (before front rest : List Char) :
    (lowerBefore before front rest).length = (lowerFrom before front).length := by
  induction front generalizing before with
  | nil => rfl
  | cons c front ih => simp only [lowerFrom, lowerBefore, List.length_append, length_lowerAt, ih]

/-- What follows a text counts if the text decides nothing. -/
theorem casedAhead_append (after rest : List Char) : casedAhead (after ++ rest) =
    if after.all isCaseIgnorable then casedAhead rest else casedAhead after := by
  induction after with
  | nil => rfl
  | cons c after ih =>
    by_cases hc : isCaseIgnorable c = true
    · simpa [casedAhead, hc] using ih
    · simp [casedAhead, hc]

theorem casedAhead_of_ignorable (h : after.all isCaseIgnorable = true) : casedAhead after = false := by
  have hnone := casedAhead_append after []
  rw [List.append_nil, h, if_pos rfl] at hnone
  exact hnone

/-- What follows changes the lower case of a sigma only, and only if it closes a word without it. -/
theorem lowerAt_append_iff : lowerAt before c after = lowerAt before c (after ++ rest) ↔
    ¬ (c = 'Σ' ∧ casedAhead before = true ∧ after.all isCaseIgnorable = true ∧
      casedAhead rest = true) := by
  unfold lowerAt isFinalSigma
  rw [casedAhead_append]
  by_cases hsigma : c = 'Σ'
  · by_cases hignored : after.all isCaseIgnorable = true
    · rw [casedAhead_of_ignorable hignored]
      cases casedAhead before <;> cases casedAhead rest <;> simp [hsigma, hignored]
    · simp [hignored]
  · simp [hsigma]

theorem closesSigma_cons : ClosesSigma before (c :: front) ↔
    (c = 'Σ' ∧ casedAhead before = true ∧ front.all isCaseIgnorable = true) ∨
      ClosesSigma (c :: before) front := by
  rw [List.all_eq_true]
  constructor
  · rintro ⟨word, after, heq, hcased, hignored⟩
    cases word with
    | nil =>
      obtain ⟨rfl, rfl⟩ := List.cons.inj heq
      exact .inl ⟨rfl, hcased, hignored⟩
    | cons d word =>
      obtain ⟨rfl, rfl⟩ := List.cons.inj heq
      exact .inr ⟨word, after, rfl, by simpa using hcased, hignored⟩
  · rintro (⟨rfl, hcased, hignored⟩ | ⟨word, after, rfl, hcased, hignored⟩)
    · exact ⟨[], front, rfl, hcased, hignored⟩
    · exact ⟨c :: word, after, rfl, by simpa using hcased, hignored⟩

theorem not_closesSigma_nil : ¬ ClosesSigma before [] := by
  rintro ⟨word, after, heq, _⟩
  cases word <;> cases heq

instance decidableClosesSigma : (before front : List Char) → Decidable (ClosesSigma before front)
  | _, [] => .isFalse not_closesSigma_nil
  | before, c :: front =>
    have := decidableClosesSigma (c :: before) front
    decidable_of_iff _ closesSigma_cons.symm

instance (front rest : List Char) : Decidable (CutBehindSigma front rest) :=
  inferInstanceAs (Decidable (_ ∧ _))

theorem lowerFrom_eq_lowerBefore : lowerFrom before front = lowerBefore before front rest ↔
    ¬ (ClosesSigma before front ∧ casedAhead rest = true) := by
  induction front generalizing before with
  | nil => simp [lowerFrom, lowerBefore, not_closesSigma_nil]
  | cons c front ih =>
    have hlength : (lowerAt before c front).length = (lowerAt before c (front ++ rest)).length := by
      rw [length_lowerAt, length_lowerAt]
    have hparts : lowerFrom before (c :: front) = lowerBefore before (c :: front) rest ↔
        lowerAt before c front = lowerAt before c (front ++ rest) ∧
          lowerFrom (c :: before) front = lowerBefore (c :: before) front rest := by
      refine ⟨fun h => List.append_inj h hlength, fun h => ?_⟩
      rw [lowerFrom, lowerBefore, ← h.1, h.2]
    rw [hparts, ih, lowerAt_append_iff, closesSigma_cons, or_and_right, not_or]
    simp only [and_assoc]

/-- The lower case of a beginning is a beginning of the lower case exactly if the text is not cut
inside a word behind a capital sigma. -/
theorem lower_isPrefix_iff : lower front <+: lower (front ++ rest) ↔ ¬ CutBehindSigma front rest := by
  unfold CutBehindSigma
  rw [lower, lower, lowerFrom_append, ← lowerFrom_eq_lowerBefore]
  constructor
  · rintro ⟨more, h⟩
    exact (List.append_inj h (length_lowerBefore ..).symm).1
  · intro h
    rw [h]
    exact List.prefix_append _ _

end LineShell.Text
