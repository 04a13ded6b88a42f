import LineShell.Completion
import LineShell.Proofs.Line.Grammar

/-! The beginning of a completion. An input is cut before its last word, and the candidates for this
are the words that the shell offers, the shorter ones first, with the word itself among them. -/
namespace LineShell

open LineShell.Line LineShell.Text

variable {offered sorted : List String} {word input : String} {s : Shell} {c : Completion}

/-- The same words, shorter ones first and words of one length in the order in which they came. -/
structure SortedByLength (offered sorted : List String) : Prop where
  perm : sorted.Perm offered
  ordered : sorted.Pairwise (·.length ≤ ·.length)
  stable : ∀ n, sorted.filter (·.length = n) = offered.filter (·.length = n)

namespace Completion

/-- The state of a completion of an input whose candidates a shell has offered. -/
structure Completes (s : Shell) (input : String) (c : Completion) : Prop where
  whole : c.fixedPart ++ c.partialWord = input
  solid : ∀ ch ∈ c.partialWord.toList, isBlank ch = false
  ended : ∀ ch ∈ c.fixedPart.toList.getLast?, isBlank ch = true
  words : ∃ sorted, SortedByLength (s.matchingWords c.partialWord) sorted ∧
    c.words = sorted ++
      if c.partialWord ∈ s.matchingWords c.partialWord then [] else [c.partialWord]
  index : c.index < c.words.length

theorem notLonger_trans (a b c : String) (h : notLonger a b = true) (h' : notLonger b c = true) :
    notLonger a c = true := by
  simp only [notLonger, decide_eq_true_eq] at h h' ⊢
  omega

theorem notLonger_total (a b : String) : (notLonger a b || notLonger b a) = true := by
  simp only [notLonger, Bool.or_eq_true, decide_eq_true_eq]
  omega

theorem sortedByLength_mergeSort (offered : List String) :
    SortedByLength offered (offered.mergeSort notLonger) where
  perm := List.mergeSort_perm offered notLonger
  ordered := (List.pairwise_mergeSort notLonger_trans notLonger_total offered).imp of_decide_eq_true
  stable n := by
    have hperm := (List.mergeSort_perm offered notLonger).filter (·.length = n)
    have hequal : (offered.filter (·.length = n)).Pairwise (notLonger · · = true) := by
      refine List.pairwise_of_forall_mem_list fun a ha b hb => ?_
      have hlengths := (of_decide_eq_true (List.mem_filter.mp ha).2).trans
        (of_decide_eq_true (List.mem_filter.mp hb).2).symm
      exact decide_eq_true hlengths.le
    -- words of one length come out in the order in which they went in, and no others are there
    have hkept := (List.sublist_mergeSort notLonger_trans notLonger_total hequal
      List.filter_sublist).filter (·.length = n)
    rw [List.filter_filter] at hkept
    simp only [Bool.and_self] at hkept
    exact (hkept.eq_of_length hperm.length_eq.symm).symm

theorem candidates_eq (offered : List String) (word : String) : candidates offered word =
    offered.mergeSort notLonger ++ if word ∈ offered then [] else [word] := by
  simp [candidates]

/-- What was typed is always among the candidates. -/
theorem mem_of_sortedByLength (h : SortedByLength offered sorted) (word : String) :
    word ∈ sorted ++ if word ∈ offered then [] else [word] := by
  by_cases hoffered : word ∈ offered
  · exact List.mem_append_left _ (h.perm.mem_iff.mpr hoffered)
  · simp [hoffered]

theorem beforeLastWord_eq (cs : List Char) :
    beforeLastWord cs = (cs.reverse.dropWhile (!isBlank ·)).reverse := by
  have hsplit := congrArg List.reverse (eq_takeWhile_append (!isBlank ·) cs.reverse)
  rw [List.reverse_reverse, List.reverse_append] at hsplit
  have hlength := congrArg List.length hsplit
  rw [List.length_append] at hlength
  unfold beforeLastWord lastWord
  rw [hlength, Nat.add_sub_cancel]
  exact (congrArg (List.take _) hsplit).trans List.take_left

theorem beforeLastWord_append (cs : List Char) : beforeLastWord cs ++ lastWord cs = cs := by
  rw [beforeLastWord_eq, lastWord, ← List.reverse_append, ← eq_takeWhile_append,
    List.reverse_reverse]

/-- Where a completion begins it is one of the input, at its first candidate. -/
theorem completes_begin (s : Shell) (input : String) : (begin s input).Completes s input where
  whole := by
    simp only [begin]
    rw [← String.ofList_append, beforeLastWord_append, String.ofList_toList]
  solid := by
    intro ch hch
    rw [begin, String.toList_ofList, lastWord, List.mem_reverse] at hch
    simpa using List.mem_takeWhile_imp hch
  ended := by
    intro ch hch
    rw [begin, String.toList_ofList, beforeLastWord_eq, List.getLast?_reverse] at hch
    simpa using stop_dropWhile _ _ ch hch
  words := ⟨_, sortedByLength_mergeSort _, candidates_eq _ _⟩
  index := by
    simp only [begin, candidates_eq]
    exact List.length_pos_of_mem (mem_of_sortedByLength (sortedByLength_mergeSort _) _)

theorem Completes.ne_nil (h : c.Completes s input) : c.words ≠ [] :=
  List.ne_nil_of_length_pos (Nat.zero_lt_of_lt h.index)

theorem Completes.mem (h : c.Completes s input) : c.partialWord ∈ c.words := by
  obtain ⟨sorted, hsorted, hwords⟩ := h.words
  rw [hwords]
  exact mem_of_sortedByLength hsorted c.partialWord

end Completion

end LineShell
