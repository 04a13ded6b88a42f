import LineShell.Proofs.NameMap.Insertion
import LineShell.Proofs.Parser.Registration
import Mathlib.Data.List.Find
import Mathlib.Data.List.Nodup

/-! What a registry answers, in terms of its history. Parsers are listed in the order in which their
places were first taken, a name is answered with what was registered last under it, and what is
registered in one place does not matter to questions about others. -/
namespace LineShell

namespace Registry

variable {r after : Registry} {p q : Parser} {k : Kind} {name : String} {h : List Registration}
  {parsers : List Parser} {asked : Option KindArgument} {d : Designator} {request : Request}

/-- The place in which a parser is registered: its name and its kind. -/
def slot (p : Parser) : String × Kind := (p.name, p.kind)

/-- A kind for which something has been registered under a name. -/
def Carries (h : List Registration) (name : String) (k : Kind) : Prop :=
  ∃ x ∈ h, isAt name k x.parser = true

/-- Nothing, or nothing definite, was found. -/
def NotFound (answer : Except Failure Parser) : Prop :=
  ∃ text, answer = .error ⟨.lookup, text⟩

/-- A question that is about the place of a parser: about its name, and its kind if one is given, or
about its kind alone. -/
def Asks (p : Parser) (asked : Option KindArgument) : Designator → Prop
  | .name name => answers (normalize name) asked p = true
  | .kind k => k = p.kind
  | .parser _ | .other _ => False

/-- At most one listed parser is in a place. -/
theorem filter_isAt (h : Distinct parsers) (name : String) (k : Kind) :
    parsers.filter (isAt name k) = (parsers.find? (isAt name k)).toList := by
  induction parsers with
  | nil => rfl
  | cons q rest ih =>
    obtain ⟨hfirst, hrest⟩ := List.pairwise_cons.mp h
    rw [List.filter_cons, List.find?_cons]
    cases hq : isAt name k q with
    | false => exact ih hrest
    | true =>
      obtain ⟨rfl, rfl⟩ := isAt_iff.mp hq
      have hnone : rest.filter (isAt q.name q.kind) = [] := by
        refine List.filter_eq_nil_iff.mpr fun s hs hsame => ?_
        have hother := hfirst s hs
        rw [isAt, isAt_iff.mp hsame |>.1, isAt_iff.mp hsame |>.2] at hother
        simp at hother
      rw [if_pos rfl, hnone]
      rfl

theorem latest?_eq_none : latest? h name k = none ↔ ¬ Carries h name k := by
  rw [latest?, Option.map_eq_none_iff, List.find?_eq_none, Carries]
  simp

/-- A name for a kind resolves to what was registered last in that place. -/
theorem resolve_name_kind (h : List Registration) (name : String) (k : Kind) :
    (∀ p, (empty.after h).resolve (.name name) (some (.kind k)) = .ok p ↔
      latest? h (normalize name) k = some p) ∧
    (NotFound ((empty.after h).resolve (.name name) (some (.kind k))) ↔
      ¬ Carries h (normalize name) k) := by
  have hfilter : (empty.after h).parsers.filter (answers (normalize name) (some (.kind k))) =
      (latest? h (normalize name) k).toList := by
    rw [← find?_after, ← filter_isAt (distinct_after h)]
    rfl
  rw [← latest?_eq_none, resolve, resolveName, hfilter]
  cases latest? h (normalize name) k with
  | none => simp [NotFound, kindSuffix, bind, Except.bind]
  | some q => simp [NotFound]

/-- What is found by other questions is the same whether or not a parser takes its place. -/
theorem filter_place (hother : answers name asked p = false) (parsers : List Parser) :
    (place p parsers).filter (answers name asked) = parsers.filter (answers name asked) := by
  induction parsers with
  | nil => simp [place, hother]
  | cons q rest ih =>
    rw [place, samePlace_eq]
    split
    next hplace =>
      obtain ⟨hname, hkind⟩ := isAt_iff.mp hplace
      have hsame : answers name asked q = false := by
        unfold answers at hother ⊢
        rw [hname, hkind]
        exact hother
      simp [hother, hsame]
    next => rw [List.filter_cons, List.filter_cons, ih]

/-- Registering a parser does not matter to questions that are about other places. -/
theorem resolve_register (r : Registry) (x : Registration) (hother : ¬ Asks x.parser asked d) :
    (r.register x.parser x.primary).resolve d asked = r.resolve d asked := by
  cases d with
  | parser | other => rfl
  | name name =>
    have hfilter := filter_place (Bool.not_eq_true _ ▸ hother) r.parsers
    rw [resolve, resolve, resolveName, resolveName, register, hfilter]
  | kind k =>
    have hkind : ¬ (x.parser.kind = k ∧ (x.primary = true ∨ r.primary? k = none)) :=
      fun h => hother h.1.symm
    have hprimary := primary?_register r x k
    rw [if_neg hkind] at hprimary
    rw [resolve, resolve, hprimary]

end Registry

end LineShell
