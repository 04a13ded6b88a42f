import LineShell.NameMap
import Mathlib.Data.List.Induction

/-! Many insertions into a map of names: each name stands where it first came, with the value that
came last. -/
namespace LineShell

/-- An item that comes last is new, or one of those before. -/
theorem eraseDups_concat {α : Type} [BEq α] [LawfulBEq α] (items : List α) (a : α)
    [Decidable (a ∈ items.eraseDups)] :
    (items ++ [a]).eraseDups =
      if a ∈ items.eraseDups then items.eraseDups else items.eraseDups ++ [a] := by
  rw [List.eraseDups_append]
  split
  next hmem => simp [List.removeAll, List.mem_eraseDups.mp hmem]
  next hnew =>
    have hnew' : a ∉ items := fun hmem => hnew (List.mem_eraseDups.mpr hmem)
    simp [List.removeAll, hnew', List.eraseDups_cons]

namespace NameMap

variable {α : Type} {pairs : List (String × α)} {name : String}

theorem contains_iff (m : NameMap α) (name : String) :
    m.contains name = true ↔ normalize name ∈ m.keys := by
  rw [contains, find?, ← Option.ne_none_iff_isSome, Ne, List.lookup_eq_none_iff]
  simp [keys]

/-- The last value that entries give to a name. -/
def lastUnder (pairs : List (String × α)) (name : String) : Option α :=
  (pairs.reverse.find? (normalize ·.1 = normalize name)).map (·.2)

/-- There is nothing to take out under a name that is not there. -/
theorem erase_of_find?_none {m : NameMap α} (h : m.find? name = none) : m.erase name = m := by
  obtain ⟨entries⟩ := m
  have hkeys := List.lookup_eq_none_iff.mp h
  have hkept : entries.filter (·.1 ≠ normalize name) = entries := by
    rw [List.filter_eq_self]
    intro entry hmem
    have hne : entry.1 ≠ normalize name := fun he => by simpa [he] using hkeys entry hmem
    simpa using hne
  rw [erase, hkept]

theorem insertAll_append (m : NameMap α) (pairs : List (String × α)) (pair : String × α) :
    m.insertAll (pairs ++ [pair]) = (m.insertAll pairs).insert pair.1 pair.2 := by
  simp [insertAll]

theorem keys_insertAll (pairs : List (String × α)) :
    (empty.insertAll pairs).keys = (pairs.map (normalize ·.1)).eraseDups := by
  induction pairs using List.reverseRecOn with
  | nil => rfl
  | append_singleton pairs pair ih =>
    rw [insertAll_append, keys_insert, ih, List.map_append, List.map_singleton, eraseDups_concat]

theorem find?_insertAll (pairs : List (String × α)) (name : String) :
    (empty.insertAll pairs).find? name = lastUnder pairs name := by
  induction pairs using List.reverseRecOn with
  | nil => rfl
  | append_singleton pairs pair ih =>
    rw [insertAll_append, lastUnder, List.reverse_append, List.reverse_singleton,
      List.singleton_append, List.find?_cons]
    by_cases h : normalize name = normalize pair.1
    · simp only [find?, insert, h, lookup_place_self, decide_true, Option.map_some]
    · have hne : decide (normalize pair.1 = normalize name) = false := by
        simpa using Ne.symm h
      rw [find?_insert_ne _ h, ih, hne, lastUnder]

end NameMap

end LineShell
