import LineShell.Text.Blank
import LineShell.Text.Case

/-! Lower case is reached at once: a text in lower case is its own lower case, whatever stands
around its characters. So a canonical name is its own canonical form. Low characters arise from no
others: a canonical name starts with a dollar sign only if the name does, it has quotes in it exactly
if the name has, and it is empty only if the name is. No character is lost either: a text and a
shorter stretch of it, such as the text without the white space around it, differ in lower case. -/
namespace LineShell

namespace Text

variable {r s : CaseRun} {n : Nat} {c d : Char} {before after cs ds : List Char}

theorem CaseRun.covers_iff :
    r.covers n = true ↔ r.first ≤ n ∧ n ≤ r.last ∧ (n - r.first) % r.step = 0 := by
  simp only [covers, Bool.and_eq_true, decide_eq_true_eq, beq_iff_eq, and_assoc]

/-- The images of a run are no code points that another run maps. They lie beside these, or between
them where the other run maps every second one. -/
def CaseRun.misses (r s : CaseRun) : Bool :=
  (r.image + (r.last - r.first)).blt s.first || s.last.blt r.image ||
    s.step == 2 && (r.step == 2 || r.last == r.first) && (r.image + s.first) % 2 == 1

theorem CaseRun.not_covers_apply (hmiss : r.misses s = true) (hcover : r.covers n = true) :
    ¬ s.covers (r.apply n) = true := by
  simp only [misses, Bool.or_eq_true, Bool.and_eq_true, Nat.blt_eq, beq_iff_eq] at hmiss
  obtain ⟨hfirst, hlast, hstep⟩ := covers_iff.mp hcover
  intro hcover'
  obtain ⟨hfirst', hlast', hstep'⟩ := covers_iff.mp hcover'
  unfold CaseRun.apply at hfirst' hlast' hstep'
  obtain (hbelow | habove) | ⟨⟨hs, hr⟩, hodd⟩ := hmiss
  · omega
  · omega
  · rw [hs] at hstep'
    obtain hr | hr := hr
    · rw [hr] at hstep
      omega
    · omega

/-- The run of the dotted capital I, of which only the code point matters. -/
def dottedRun : CaseRun := ⟨'İ'.toNat, 'İ'.toNat, 1, 'i'.toNat⟩

theorem lowerRuns_misses :
    (lowerRuns.all fun r => (dottedRun :: lowerRuns).all r.misses) = true := by
  decide +kernel

theorem applyRuns_eq_self {runs : List CaseRun} (h : ∀ r ∈ runs, ¬ r.covers n = true) :
    applyRuns runs n = n := by
  have hnone : runs.find? (·.covers n) = none := List.find?_eq_none.mpr h
  rw [applyRuns, hnone]
  rfl

/-- A code point that is its own lower case, and so is a character of it between any others. -/
def Lowered (n : Nat) : Prop := ∀ r ∈ dottedRun :: lowerRuns, ¬ r.covers n = true

instance (n : Nat) : Decidable (Lowered n) :=
  inferInstanceAs (Decidable (∀ r ∈ dottedRun :: lowerRuns, ¬ r.covers n = true))

theorem lowered_apply (hrun : r ∈ lowerRuns) (hcover : r.covers n = true) :
    Lowered (r.apply n) := by
  intro s hs
  exact r.not_covers_apply (List.all_eq_true.mp (List.all_eq_true.mp lowerRuns_misses r hrun) s hs)
    hcover

theorem lowered_applyRuns (hdotted : n ≠ 'İ'.toNat) : Lowered (applyRuns lowerRuns n) := by
  cases hfind : lowerRuns.find? (·.covers n) with
  | some r =>
    rw [applyRuns, hfind]
    have hcover := List.find?_some hfind
    exact lowered_apply (List.mem_of_find?_eq_some hfind) hcover
  | none =>
    rw [applyRuns, hfind]
    intro r hr
    rcases List.mem_cons.mp hr with rfl | hr
    · intro hcover
      obtain ⟨hfirst, hlast, _⟩ := CaseRun.covers_iff.mp hcover
      exact hdotted (Nat.le_antisymm hlast hfirst)
    · exact List.find?_eq_none.mp hfind r hr

theorem lowered_toNat_ofNat (h : Lowered n) : Lowered (Char.ofNat n).toNat := by
  by_cases hvalid : n.isValidChar
  · have hself : (Char.ofNat n).toNat = n := by rw [Char.ofNat, dif_pos hvalid]; rfl
    rwa [hself]
  · have hnull : Char.ofNat n = '\x00' := by rw [Char.ofNat, dif_neg hvalid]; rfl
    rw [hnull]
    decide +kernel

/-- The lower case of a character consists of characters that are their own lower case. -/
theorem lowered_of_mem_lowerAt (h : d ∈ lowerAt before c after) : Lowered d.toNat := by
  unfold lowerAt at h
  split at h
  · -- both forms of a small sigma
    split at h <;> rw [List.mem_singleton.mp h] <;> decide +kernel
  · unfold lowerChar at h
    split at h
    · rcases List.mem_cons.mp h with rfl | h
      · decide +kernel
      · rw [List.mem_singleton.mp h]
        decide +kernel
    · next hdotted =>
      rw [List.mem_singleton.mp h]
      have hcode : c.toNat ≠ 'İ'.toNat := fun hn => hdotted (Char.ext (UInt32.toNat.inj hn))
      exact lowered_toNat_ofNat (lowered_applyRuns hcode)

theorem lowerAt_of_lowered (h : Lowered c.toNat) : lowerAt before c after = [c] := by
  have hsigma : c ≠ 'Σ' := by
    rintro rfl
    exact absurd h (by decide +kernel)
  have hdotted : c ≠ 'İ' := by
    rintro rfl
    exact absurd h (by decide +kernel)
  have hself : applyRuns lowerRuns c.toNat = c.toNat :=
    applyRuns_eq_self fun r hr => h r (List.mem_cons_of_mem _ hr)
  rw [lowerAt, if_neg hsigma, lowerChar, if_neg hdotted, hself, Char.ofNat_toNat]

theorem lowered_of_mem_lowerFrom (h : d ∈ lowerFrom before cs) : Lowered d.toNat := by
  induction cs generalizing before with
  | nil => cases h
  | cons c cs ih =>
    rcases List.mem_append.mp h with h | h
    · exact lowered_of_mem_lowerAt h
    · exact ih h

theorem lowerFrom_of_lowered (h : ∀ c ∈ cs, Lowered c.toNat) : lowerFrom before cs = cs := by
  induction cs generalizing before with
  | nil => rfl
  | cons c cs ih =>
    rw [lowerFrom, lowerAt_of_lowered (h c List.mem_cons_self),
      ih fun d hd => h d (List.mem_cons_of_mem _ hd)]
    rfl

@[simp] theorem lower_lower (cs : List Char) : lower (lower cs) = lower cs :=
  lowerFrom_of_lowered fun _ h => lowered_of_mem_lowerFrom h

theorem ofNat_ne (hlt : d.toNat < n) (hd : d ≠ '\x00') : Char.ofNat n ≠ d := by
  rintro rfl
  by_cases hvalid : n.isValidChar
  · have hself : (Char.ofNat n).toNat = n := by rw [Char.ofNat, dif_pos hvalid]; rfl
    exact absurd hself (Nat.ne_of_lt hlt)
  · exact hd (by rw [Char.ofNat, dif_neg hvalid]; rfl)

theorem lowerRuns_images : (lowerRuns.all fun r => '$'.toNat < r.image) = true := by
  decide +kernel

/-- A character up to the dollar sign is in the lower case of no other one. -/
theorem of_mem_lowerAt (hlow : d.toNat ≤ '$'.toNat) (hd : d ≠ '\x00')
    (h : d ∈ lowerAt before c after) : c = d := by
  unfold lowerAt at h
  split at h
  · split at h <;> (obtain rfl := List.mem_singleton.mp h; exact absurd hlow (by decide))
  · unfold lowerChar at h
    split at h
    · rcases List.mem_cons.mp h with rfl | h
      · exact absurd hlow (by decide)
      · obtain rfl := List.mem_singleton.mp h
        exact absurd hlow (by decide)
    · have himage := List.mem_singleton.mp h
      cases hfind : lowerRuns.find? (·.covers c.toNat) with
      | none =>
        rw [applyRuns, hfind] at himage
        exact (himage.trans (Char.ofNat_toNat c)).symm
      | some r =>
        have habove := of_decide_eq_true
          (List.all_eq_true.mp lowerRuns_images r (List.mem_of_find?_eq_some hfind))
        have himage' : Char.ofNat (r.apply c.toNat) = d := by
          rw [himage, applyRuns, hfind]
          rfl
        have hlt : d.toNat < r.apply c.toNat :=
          Nat.lt_of_le_of_lt hlow (Nat.lt_of_lt_of_le habove (Nat.le_add_right _ _))
        exact absurd himage' (ofNat_ne hlt hd)

theorem mem_lowerFrom (hlow : d.toNat ≤ '$'.toNat) (hd : d ≠ '\x00') (hlowered : Lowered d.toNat) :
    d ∈ lowerFrom before cs ↔ d ∈ cs := by
  induction cs generalizing before with
  | nil => rfl
  | cons c cs ih =>
    rw [lowerFrom, List.mem_append, ih, List.mem_cons]
    refine or_congr_left ⟨fun h => (of_mem_lowerAt hlow hd h).symm, ?_⟩
    rintro rfl
    rw [lowerAt_of_lowered hlowered]
    exact List.mem_cons_self

theorem lowerAt_ne_nil : lowerAt before c after ≠ [] := by
  intro h
  have hpos := length_lowerChar_pos c
  rw [← length_lowerAt before c after, h] at hpos
  cases hpos

theorem head_of_lower (h : (lower cs).head? = some '$') : cs.head? = some '$' := by
  cases cs with
  | nil => exact h
  | cons c cs =>
    rw [lower, lowerFrom] at h
    cases hfirst : lowerAt [] c cs with
    | nil => exact absurd hfirst lowerAt_ne_nil
    | cons d ds =>
      rw [hfirst] at h
      obtain rfl : d = '$' := Option.some.inj h
      have hmem : '$' ∈ lowerAt [] c cs := hfirst ▸ List.mem_cons_self
      exact congrArg some (of_mem_lowerAt (Nat.le_refl _) (by decide) hmem)

theorem lower_eq_nil : lower cs = [] ↔ cs = [] := by
  refine ⟨fun h => ?_, fun h => by rw [h]; rfl⟩
  cases cs with
  | nil => rfl
  | cons c cs => exact absurd (List.append_eq_nil_iff.mp h).1 lowerAt_ne_nil

theorem length_lower_append (cs ds : List Char) :
    (lower (cs ++ ds)).length = (lower cs).length + (lower ds).length := by
  simp only [lower, length_lowerFrom, List.flatMap_append, List.length_append]

/-- A stretch of a text that has the lower case of the whole is the whole. -/
theorem eq_of_infix_of_lower_eq (hstretch : ds <:+: cs) (h : lower ds = lower cs) : ds = cs := by
  obtain ⟨front, back, rfl⟩ := hstretch
  have hlength := congrArg List.length h
  rw [length_lower_append, length_lower_append] at hlength
  have hfront : lower front = [] := List.length_eq_zero_iff.mp (by omega)
  have hback : lower back = [] := List.length_eq_zero_iff.mp (by omega)
  rw [lower_eq_nil.mp hfront, lower_eq_nil.mp hback, List.nil_append, List.append_nil]

theorem trim_isInfix (cs : List Char) : trim cs <:+: cs := by
  have hright : trim cs <+: trimLeft cs := by
    rw [← List.reverse_suffix, trim, trimRight, List.reverse_reverse]
    exact List.dropWhile_suffix isBlank
  have hleft : trimLeft cs <:+ cs := List.dropWhile_suffix isBlank
  exact hright.isInfix.trans hleft.isInfix

/-- White space at the ends of a text is seen in its lower case. -/
theorem lower_trim_eq_iff : lower (trim cs) = lower cs ↔ trim cs = cs :=
  ⟨eq_of_infix_of_lower_eq (trim_isInfix cs), fun h => by rw [h]⟩

end Text

/-- Only the empty name has an empty canonical form. -/
theorem normalize_eq_empty {name : String} : normalize name = "" ↔ name = "" := by
  rw [← String.toList_eq_nil_iff, toList_normalize, Text.lower_eq_nil, String.toList_eq_nil_iff]

/-- A canonical name has a quote in it exactly if the name has. -/
theorem quote_mem_normalize {name : String} :
    '"' ∈ (normalize name).toList ↔ '"' ∈ name.toList := by
  rw [toList_normalize]
  exact Text.mem_lowerFrom (by decide) (by decide) (by decide +kernel)

@[simp] theorem normalize_normalize (name : String) :
    normalize (normalize name) = normalize name := by
  rw [normalize, toList_normalize, Text.lower_lower, normalize]

end LineShell
