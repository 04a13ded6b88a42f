import LineShell.Text.Letter
import LineShell.Value

/-! Whole numbers and their decimal texts. A number comes back from its text unless it has more
digits than are converted, and then a value that holds it has no text either. -/
namespace LineShell

open LineShell.Text

variable {n : Int} {c : Char} {cs : List Char}

namespace Text

/-- The digits of a whole number, without its sign. -/
def magnitude (n : Int) : List Char :=
  Nat.toDigits 10 n.natAbs

/-- A whole number has so few digits that it is converted from and to text. -/
def Convertible (n : Int) : Prop :=
  (magnitude n).length ≤ digitLimit

instance (n : Int) : Decidable (Convertible n) :=
  inferInstanceAs (Decidable (_ ≤ _))

theorem toList_toString (n : Int) :
    (toString n).toList = if n < 0 then '-' :: magnitude n else magnitude n := by
  cases n with
  | ofNat m =>
    rw [if_neg (Int.not_lt.mpr (Int.natCast_nonneg m) : ¬ Int.ofNat m < 0)]
    exact (congrArg String.toList Nat.repr_eq_ofList_toDigits).trans String.toList_ofList
  | negSucc m =>
    rw [if_pos (Int.negSucc_lt_zero m)]
    have hdigits : (Nat.repr m.succ).toList = magnitude (.negSucc m) :=
      (congrArg String.toList Nat.repr_eq_ofList_toDigits).trans String.toList_ofList
    exact String.toList_append.trans (congrArg (['-'] ++ ·) hdigits)

theorem isDigit_of_mem_magnitude (h : c ∈ magnitude n) : c.isDigit = true :=
  Nat.isDigit_of_mem_toDigits (by decide) (by decide) h

/-- A character of a decimal text: a minus sign or a digit. -/
def IsDecimal (c : Char) : Prop := c = '-' ∨ c.isDigit = true

theorem isDecimal_of_mem (h : c ∈ (toString n).toList) : IsDecimal c := by
  rw [toList_toString] at h
  split at h
  · exact (List.mem_cons.mp h).imp_right isDigit_of_mem_magnitude
  · exact .inr (isDigit_of_mem_magnitude h)

theorem toNat_of_isDigit (h : c.isDigit = true) : 48 ≤ c.toNat ∧ c.toNat ≤ 57 :=
  Char.isDigit_iff_toNat.mp h

/-- A test that all ten digits fail is failed by every digit. -/
theorem fails_of_isDigit {p : Char → Bool} (hdigits : ∀ k < 10, p (Char.ofNat (48 + k)) = false)
    (h : c.isDigit = true) : p c = false := by
  obtain ⟨hleast, hgreatest⟩ := toNat_of_isDigit h
  have hdigit := hdigits (c.toNat - 48) (by omega)
  rwa [Nat.add_sub_cancel' hleast, Char.ofNat_toNat] at hdigit

theorem IsDecimal.toNat (h : IsDecimal c) : c.toNat = 45 ∨ 48 ≤ c.toNat ∧ c.toNat ≤ 57 := by
  obtain rfl | h := h
  · exact .inl rfl
  · exact .inr (toNat_of_isDigit h)

theorem IsDecimal.isBlank (h : IsDecimal c) : isBlank c = false := by
  obtain rfl | h := h
  · decide
  · exact fails_of_isDigit (by decide) h

theorem isLetter_of_isDigit (h : c.isDigit = true) : isLetter c = false :=
  fails_of_isDigit (by decide) h

theorem IsDecimal.ne {d : Char} (h : IsDecimal c) (hd : ¬ IsDecimal d) : c ≠ d :=
  fun heq => hd (heq ▸ h)

theorem dropWhile_of_none {p : Char → Bool} (h : ∀ c ∈ cs, p c = false) : cs.dropWhile p = cs := by
  cases cs with
  | nil => rfl
  | cons c cs => rw [List.dropWhile_cons, h c List.mem_cons_self, if_neg Bool.false_ne_true]

theorem ungroup?_of_not_mem (h : '_' ∉ cs) (previous : Char) : ungroup? previous cs = some cs := by
  induction cs generalizing previous with
  | nil => rfl
  | cons c cs ih =>
    have hc : c ≠ '_' := fun heq => h (heq ▸ List.mem_cons_self)
    rw [ungroup?, ih (fun hmem => h (List.mem_cons_of_mem c hmem)), Option.map_some]
    exact fun heq => absurd heq hc

/-- Digits and minus signs stand for themselves. -/
theorem numeral?_of_isDecimal (h : ∀ c ∈ cs, IsDecimal c) : numeral? cs = some cs := by
  have hascii : cs.all (·.toNat < 128) = true := by
    refine List.all_eq_true.mpr fun c hc => decide_eq_true ?_
    have hcode := (h c hc).toNat
    omega
  have hblank : ∀ c ∈ cs, isNumeralBlank c = false := by
    intro c hc
    have hcode := (h c hc).toNat
    have hspace : c ≠ ' ' := (h c hc).ne (by simp [IsDecimal])
    simp only [isNumeralBlank, hspace, decide_false, Bool.false_or]
    simp only [Bool.and_eq_false_iff, decide_eq_false_iff_not]
    omega
  have hwhole : '_' ∉ cs := fun hmem => (h _ hmem).ne (by simp [IsDecimal]) rfl
  have hblank' : ∀ c ∈ cs.reverse, isNumeralBlank c = false := by simpa using hblank
  simp only [numeral?, plainDigits?, hascii, if_true, dropWhile_of_none hblank,
    dropWhile_of_none hblank', List.reverse_reverse, Option.bind_eq_bind, Option.bind_some]
  exact ungroup?_of_not_mem hwhole ' '

theorem magnitude_eq_cons (n : Int) : ∃ d digits, magnitude n = d :: digits ∧ d.isDigit = true := by
  have hsome : magnitude n ≠ [] := Nat.toDigits_ne_nil
  obtain ⟨d, digits, heq⟩ := List.exists_cons_of_ne_nil hsome
  have hmem : d ∈ magnitude n := heq ▸ List.mem_cons_self
  exact ⟨d, digits, heq, isDigit_of_mem_magnitude hmem⟩

theorem splitSign_toString (n : Int) :
    splitSign (toString n).toList = (decide (n < 0), magnitude n) := by
  rw [toList_toString]
  by_cases hn : n < 0
  · simp only [hn, if_true, decide_true, splitSign]
  · have hdigits : ∀ c ∈ magnitude n, c.isDigit = true := fun c => isDigit_of_mem_magnitude
    simp only [hn, if_false, decide_false]
    unfold splitSign
    split
    next heq => exact absurd (hdigits '-' (heq ▸ List.mem_cons_self)) (by decide)
    next heq => exact absurd (hdigits '+' (heq ▸ List.mem_cons_self)) (by decide)
    next => rfl

theorem digitsValue_magnitude (n : Int) : digitsValue (magnitude n) = n.natAbs :=
  Nat.ofDigitChars_eq_foldl.symm.trans Nat.ofDigitChars_ten_toDigits

/-- A whole number is read back from its decimal text, as long as it is converted at all. -/
theorem readInt?_toString (n : Int) :
    readInt? (toString n).toList = if Convertible n then some n else none := by
  have hdigits : (magnitude n).all Char.isDigit = true :=
    List.all_eq_true.mpr fun c => isDigit_of_mem_magnitude
  have hsome : (magnitude n).isEmpty = false := List.isEmpty_eq_false_iff.mpr Nat.toDigits_ne_nil
  have hsign : (if n < 0 then -(n.natAbs : Int) else n.natAbs) = n := by
    split <;> omega
  simp only [readInt?, numeral?_of_isDecimal fun c => isDecimal_of_mem, splitSign_toString, hdigits,
    hsome, digitsValue_magnitude, Option.bind_eq_bind, Option.bind_some, Bool.not_true,
    Bool.or_false, Bool.false_or, decide_eq_true_eq, hsign]
  by_cases hfits : Convertible n
  · rw [if_pos hfits, if_neg (Nat.not_lt.mpr hfits)]
  · rw [if_neg hfits, if_pos (Nat.lt_of_not_le hfits)]

end Text

theorem Value.tooLong_int (n : Int) : (Value.int n).tooLong = true ↔ ¬ Convertible n := by
  have hlength := Nat.length_toDigits_le_iff (n := n.natAbs) (k := digitLimit)
    (show 1 < 10 by decide) (by decide)
  rw [Convertible, magnitude, hlength, Nat.not_lt, tooLong, decide_eq_true_eq, Nat.pow_eq]

/-- A whole number has its decimal text, or it is refused. -/
theorem Value.render_int (n : Int) :
    (Value.int n).render = if Convertible n then .ok (toString n) else .error tooManyDigits := by
  by_cases hfits : Convertible n
  · rw [render, if_neg fun hlong => (tooLong_int n).mp hlong hfits, if_pos hfits]
    rfl
  · rw [render, if_pos ((tooLong_int n).mpr hfits), if_neg hfits]

end LineShell
