import LineShell.NameMap
import LineShell.Parser.Sample
import LineShell.Proofs.Operations
import Mathlib.Data.List.Induction

/-! The registry of parsers as the outcome of its history. A parser found by name is the one that
was registered last in its place. The primary parser of a kind is the one that was made primary
last; when another one takes its place without being made primary, it is listed no more and stays
the primary one. -/
namespace LineShell

namespace Registry

/-- A parser that is registered, perhaps to be the primary one of its kind. -/
structure Registration where
  parser : Parser
  primary : Bool

/-- A request of a host to register a parser: one that it has, or one of a function of its own. -/
inductive Request
  | register (d : Designator) (primary : Bool)
  | define (function : Option Conversion) (name : Value) (kind : KindArgument)
      (label default : Value) (primary : Bool)
  | converter (f : FunctionArgument) (name : Value) (kind : Option KindArgument)
      (label default : Value) (primary : Bool)

variable {r : Registry} {p q : Parser} {k : Kind} {name : String} {x : Registration}
  {h before later : List Registration} {request : Request}

/-- Whether the parser of a request is to be the primary one of its kind. -/
def Request.primary : Request → Bool
  | register _ primary => primary
  | define _ _ _ _ _ primary => primary
  | converter _ _ _ _ _ primary => primary

/-- Carries out a request. -/
def Request.apply (r : Registry) : Request → Except Failure (Parser × Registry)
  | register d primary => r.registerAny d primary
  | define function name kind label default primary =>
    r.define function name kind label default primary
  | converter f name kind label default primary => r.converter f name kind label default primary

/-- The answer to a request and the registry after it. One that fails changes nothing. -/
def Request.run (r : Registry) (request : Request) : Except Failure Parser × Registry :=
  match request.apply r with
  | .ok (p, after) => (.ok p, after)
  | .error e => (.error e, r)

/-- What a request registers, whatever is registered already. -/
def Request.registration? (request : Request) : Option Registration :=
  match request.apply empty with
  | .ok (p, _) => some ⟨p, request.primary⟩
  | .error _ => none

/-- The registry after registrations, oldest first. -/
def after (r : Registry) (h : List Registration) : Registry :=
  h.foldl (fun r x => r.register x.parser x.primary) r

/-- The registrations of the built-in parsers. -/
def builtins : List Registration :=
  [⟨.boolean, true⟩, ⟨.switch, false⟩, ⟨.integer, true⟩, ⟨.real, true⟩, ⟨.text, true⟩]

/-- All registrations up to those of the given requests. -/
def history (requests : List Request) : List Registration :=
  builtins ++ requests.filterMap Request.registration?

theorem apply_eq (r : Registry) (request : Request) :
    request.apply r =
      (request.apply empty).map fun (p, _) => (p, r.register p request.primary) := by
  cases request with
  | register d primary => cases d <;> rfl
  | define function name kind label default primary =>
    simp only [Request.apply, define]
    cases Parser.make function name kind label default <;> rfl
  | converter f name kind label default primary =>
    simp only [Request.apply, converter]
    split
    · rfl
    · split
      · rfl
      · simp only [define]
        cases Parser.make _ _ _ label default <;> rfl

theorem run_registered (h : request.registration? = some x) :
    (request.run r).2 = r.register x.parser x.primary := by
  unfold Request.registration? at h
  unfold Request.run
  rw [apply_eq]
  cases happly : request.apply empty with
  | error e => simp [happly] at h
  | ok made =>
    rw [happly] at h
    cases h
    rfl

theorem run_refused (h : request.registration? = none) : (request.run r).2 = r := by
  unfold Request.registration? at h
  unfold Request.run
  rw [apply_eq]
  cases happly : request.apply empty with
  | error e => rfl
  | ok made => simp [happly] at h

theorem runAll_requests (r : Registry) (requests : List Request) :
    (runAll Request.run r requests).2 = r.after (requests.filterMap Request.registration?) := by
  induction requests generalizing r with
  | nil => rfl
  | cons request requests ih =>
    rw [runAll_cons, ih]
    cases hx : request.registration? with
    | none => rw [List.filterMap_cons_none hx, run_refused hx]
    | some x => rw [List.filterMap_cons_some hx, run_registered hx, after, after, List.foldl_cons]

theorem runAll_builtin (requests : List Request) :
    (runAll Request.run builtin requests).2 = empty.after (history requests) := by
  rw [runAll_requests, history, after, after, List.foldl_append]
  rfl

theorem after_concat (r : Registry) (h : List Registration) (x : Registration) :
    r.after (h ++ [x]) = (r.after h).register x.parser x.primary := by
  rw [after, after, List.foldl_append]
  rfl

/-- Whether a parser is registered under a name and for a kind. -/
def isAt (name : String) (k : Kind) (p : Parser) : Bool :=
  p.name = name && p.kind = k

/-- The parser that was registered last under a name and for a kind. -/
def latest? (h : List Registration) (name : String) (k : Kind) : Option Parser :=
  (h.reverse.find? (isAt name k ·.parser)).map (·.parser)

theorem latest?_concat (h : List Registration) (x : Registration) (name : String) (k : Kind) :
    latest? (h ++ [x]) name k =
      if isAt name k x.parser then some x.parser else latest? h name k := by
  rw [latest?, List.reverse_append, List.reverse_singleton, List.singleton_append, List.find?_cons]
  cases isAt name k x.parser <;> rfl

theorem latest?_append (h later : List Registration) (name : String) (k : Kind) :
    latest? (h ++ later) name k = (latest? later name k).or (latest? h name k) := by
  rw [latest?, List.reverse_append, List.find?_append, latest?, latest?]
  cases later.reverse.find? (isAt name k ·.parser) <;> rfl

theorem isAt_iff : isAt name k p = true ↔ p.name = name ∧ p.kind = k := by
  simp [isAt]

theorem samePlace_eq (p q : Parser) : samePlace p q = isAt q.name q.kind p := rfl

/-- A parser takes the place of the one that was there; what is found elsewhere stays. -/
theorem find?_place (p : Parser) (parsers : List Parser) (name : String) (k : Kind) :
    (place p parsers).find? (isAt name k) =
      if isAt name k p then some p else parsers.find? (isAt name k) := by
  induction parsers with
  | nil => cases hp : isAt name k p <;> simp [place, hp]
  | cons q rest ih =>
    rw [place, samePlace_eq]
    by_cases hplace : isAt p.name p.kind q = true
    · rw [if_pos hplace, List.find?_cons, List.find?_cons]
      have hsame : isAt name k q = isAt name k p := by
        obtain ⟨hname, hkind⟩ := isAt_iff.mp hplace
        rw [isAt, isAt, hname, hkind]
      rw [hsame]
      cases isAt name k p <;> rfl
    · rw [if_neg hplace, List.find?_cons, List.find?_cons, ih]
      cases hq : isAt name k q with
      | false => rfl
      | true =>
        have hp : isAt name k p = false := by
          rw [← Bool.not_eq_true]
          intro hp
          obtain ⟨rfl, rfl⟩ := isAt_iff.mp hp
          exact hplace hq
        rw [hp]
        rfl

theorem find?_after (h : List Registration) (name : String) (k : Kind) :
    (empty.after h).parsers.find? (isAt name k) = latest? h name k := by
  induction h using List.reverseRecOn with
  | nil => rfl
  | append_singleton h x ih =>
    rw [after_concat, register, find?_place, latest?_concat, ih]

theorem mem_place {parsers : List Parser} (h : q ∈ place p parsers) : q = p ∨ q ∈ parsers := by
  induction parsers with
  | nil => exact .inl (List.mem_singleton.mp h)
  | cons s rest ih =>
    rw [place] at h
    split at h
    · exact (List.mem_cons.mp h).imp_right (List.mem_cons_of_mem s)
    · rcases List.mem_cons.mp h with rfl | h
      · exact .inr List.mem_cons_self
      · exact (ih h).imp_right (List.mem_cons_of_mem s)

/-- No two parsers are listed under one name for one kind. -/
def Distinct (parsers : List Parser) : Prop :=
  parsers.Pairwise fun p q => isAt q.name q.kind p = false

theorem distinct_place {parsers : List Parser} (h : Distinct parsers) (p : Parser) :
    Distinct (place p parsers) := by
  induction parsers with
  | nil => exact List.pairwise_singleton _ _
  | cons q rest ih =>
    obtain ⟨hfirst, hrest⟩ := List.pairwise_cons.mp h
    rw [place, samePlace_eq]
    by_cases hplace : isAt p.name p.kind q = true
    · rw [if_pos hplace]
      obtain ⟨hname, hkind⟩ := isAt_iff.mp hplace
      refine List.pairwise_cons.mpr ⟨fun s hs => ?_, hrest⟩
      rw [isAt, ← hname, ← hkind]
      exact hfirst s hs
    · rw [if_neg hplace]
      refine List.pairwise_cons.mpr ⟨fun s hs => ?_, ih hrest⟩
      rcases mem_place hs with rfl | hs
      · exact Bool.not_eq_true _ ▸ hplace
      · exact hfirst s hs

theorem distinct_after (h : List Registration) : Distinct (empty.after h).parsers := by
  induction h using List.reverseRecOn with
  | nil => exact List.Pairwise.nil
  | append_singleton h x ih =>
    rw [after_concat]
    exact distinct_place ih x.parser

theorem mem_iff_find? {parsers : List Parser} (h : Distinct parsers) :
    p ∈ parsers ↔ parsers.find? (isAt p.name p.kind) = some p := by
  refine ⟨fun hmem => ?_, List.mem_of_find?_eq_some⟩
  induction parsers with
  | nil => cases hmem
  | cons q rest ih =>
    obtain ⟨hfirst, hrest⟩ := List.pairwise_cons.mp h
    rw [List.find?_cons]
    rcases List.mem_cons.mp hmem with rfl | hmem
    · rw [isAt_iff.mpr ⟨rfl, rfl⟩]
    · rw [hfirst p hmem]
      exact ih hrest hmem

/-- The listed parsers are those that were registered last in their places. -/
theorem mem_after_iff (h : List Registration) :
    p ∈ (empty.after h).parsers ↔ latest? h p.name p.kind = some p := by
  rw [mem_iff_find? (distinct_after h), find?_after]

theorem primary?_register (r : Registry) (x : Registration) (k : Kind) :
    (r.register x.parser x.primary).primary? k =
      if x.parser.kind = k ∧ (x.primary = true ∨ r.primary? k = none) then some x.parser
      else r.primary? k := by
  by_cases hkind : x.parser.kind = k
  · subst hkind
    by_cases htaken : x.primary = true ∨ r.primary? x.parser.kind = none
    · rw [if_pos ⟨rfl, htaken⟩, primary?, register, if_pos (by simpa using htaken),
        List.lookup_cons_self]
    · rw [if_neg fun h => htaken h.2, primary?, register, if_neg (by simpa using htaken)]
      rfl
  · rw [if_neg fun h => hkind h.1, primary?, register]
    split
    · have hother : (k == x.parser.kind) = false := by simpa using Ne.symm hkind
      rw [List.lookup_cons, hother]
      exact NameMap.lookup_filter_ne (Ne.symm hkind) r.primaries
    · rfl

theorem primary?_after_eq_none (h : List Registration) (k : Kind) :
    (empty.after h).primary? k = none ↔ ∀ y ∈ h, y.parser.kind ≠ k := by
  induction h using List.reverseRecOn with
  | nil => exact ⟨fun _ _ hy => (nomatch hy), fun _ => rfl⟩
  | append_singleton h x ih =>
    rw [after_concat, primary?_register, List.forall_mem_append, List.forall_mem_singleton, ← ih]
    by_cases hkind : x.parser.kind = k
    · cases (empty.after h).primary? k <;> cases x.primary <;> simp [hkind]
    · simp [hkind]

/-- The registration by which a parser became the primary one of a kind and stayed it, with those
before it and those after it: it was asked for or the first one of the kind, and it was asked for no
more after that. -/
structure Chosen (h : List Registration) (k : Kind) (before : List Registration)
    (x : Registration) (later : List Registration) : Prop where
  split : h = before ++ x :: later
  kind : x.parser.kind = k
  taken : x.primary = true ∨ ∀ y ∈ before, y.parser.kind ≠ k
  kept : ∀ y ∈ later, y.parser.kind = k → y.primary = false

/-- Registrations that do not ask for it leave the primary parser of a kind what it is. -/
theorem primary?_after_kept (h : (empty.after before).primary? k = some p)
    (hkept : ∀ y ∈ later, y.parser.kind = k → y.primary = false) :
    (empty.after (before ++ later)).primary? k = some p := by
  induction later using List.reverseRecOn with
  | nil => rwa [List.append_nil]
  | append_singleton later y ih =>
    obtain ⟨hearlier, hlast⟩ := List.forall_mem_append.mp hkept
    rw [← List.append_assoc, after_concat, primary?_register, ih hearlier, if_neg]
    rintro ⟨hkind, hprimary | hnone⟩
    · exact Bool.false_ne_true ((hlast y List.mem_cons_self hkind).symm.trans hprimary)
    · cases hnone

theorem primary?_after_iff (h : List Registration) (k : Kind) (p : Parser) :
    (empty.after h).primary? k = some p ↔
      ∃ before x later, Chosen h k before x later ∧ x.parser = p := by
  constructor
  · intro hprimary
    induction h using List.reverseRecOn with
    | nil => cases hprimary
    | append_singleton h x ih =>
      rw [after_concat, primary?_register] at hprimary
      split at hprimary
      case isTrue hnow =>
        obtain ⟨hkind, htaken⟩ := hnow
        exact ⟨h, x, [], ⟨rfl, hkind, htaken.imp_right (primary?_after_eq_none h k).mp,
          fun _ hy => nomatch hy⟩, Option.some.inj hprimary⟩
      case isFalse hkept =>
        obtain ⟨before, y, later, hchosen, rfl⟩ := ih hprimary
        refine ⟨before, y, later ++ [x], ⟨?_, hchosen.kind, hchosen.taken, ?_⟩, rfl⟩
        · rw [hchosen.split, List.append_assoc, List.cons_append]
        · refine List.forall_mem_append.mpr ⟨hchosen.kept, fun z hz hkind => ?_⟩
          rw [List.mem_singleton.mp hz] at hkind ⊢
          exact Bool.not_eq_true _ ▸ fun hx => hkept ⟨hkind, .inl hx⟩
  · rintro ⟨before, x, later, ⟨rfl, hkind, htaken, hkept⟩, rfl⟩
    rw [← List.singleton_append, ← List.append_assoc]
    refine primary?_after_kept ?_ hkept
    rw [after_concat, primary?_register,
      if_pos ⟨hkind, htaken.imp_right (primary?_after_eq_none before k).mpr⟩]

/-- The chosen parser of a kind is listed unless another one took its place after that. -/
theorem Chosen.mem_iff (hchosen : Chosen h k before x later) :
    x.parser ∈ (empty.after h).parsers ↔
      ∀ q, latest? later x.parser.name k = some q → q = x.parser := by
  have hown : latest? [x] x.parser.name k = some x.parser := by
    rw [← hchosen.kind]
    exact (latest?_concat [] x _ _).trans (if_pos (isAt_iff.mpr ⟨rfl, rfl⟩))
  rw [mem_after_iff, hchosen.split, hchosen.kind, latest?_append, ← List.singleton_append,
    latest?_append, hown]
  cases latest? later x.parser.name k <;> simp

theorem resolveName_ok {asked : Option KindArgument} (h : r.resolveName name asked = .ok p) :
    p ∈ r.parsers ∧ answers (normalize name) asked p = true := by
  unfold resolveName at h
  split at h
  next hfound =>
    cases h
    exact List.mem_filter.mp (hfound ▸ List.mem_singleton_self p)
  next => cases asked with
    | none => cases h
    | some asked => cases asked <;> cases h
  next => cases h

/-- After any requests, a name resolves to a listed parser only, and the listed parsers are those
that were registered last in their places. A kind resolves to the parser that was made its primary
one last. That one has the kind, and it is listed unless another parser took its place without being
made the primary one. -/
theorem resolved_after_requests (requests : List Request) :
    ∃ replies r, runAll Request.run builtin requests = (replies, r) ∧
      (∀ p, p ∈ r.parsers ↔ latest? (history requests) p.name p.kind = some p) ∧
      (∀ name asked p, r.resolve (.name name) asked = .ok p →
        p ∈ r.parsers ∧ answers (normalize name) asked p = true) ∧
      ∀ k asked,
        (∀ p, r.resolve (.kind k) asked = .ok p ↔
          ∃ before x later, Chosen (history requests) k before x later ∧ x.parser = p) ∧
        ∀ before x later, Chosen (history requests) k before x later →
          x.parser.kind = k ∧ (x.parser ∈ r.parsers ↔
            ∀ q, latest? later x.parser.name k = some q → q = x.parser) := by
  refine ⟨_, _, rfl, ?_, fun name asked p => resolveName_ok, fun k asked => ⟨fun p => ?_, ?_⟩⟩
  · rw [runAll_builtin]
    exact fun p => mem_after_iff _
  · rw [← primary?_after_iff, ← runAll_builtin, resolve]
    cases (runAll Request.run builtin requests).2.primary? k <;> simp
  · rw [runAll_builtin]
    exact fun before x later hchosen => ⟨hchosen.kind, hchosen.mem_iff⟩

/-- A parser of whole numbers that takes the place of the one that is built in. -/
def relabelled : Parser :=
  { Parser.integer with label := .text "whole" }

/-- Whole numbers are still read by the parser that was replaced when only the kind is asked for. -/
theorem replaced_parser_resolved :
    ∃ reply r,
      runAll Request.run builtin [.register (.parser relabelled) false] = ([.ok reply], r) ∧
      r.parsers = [.boolean, .switch, relabelled, .real, .text] ∧
      r.resolve (.name "int") none = .ok relabelled ∧
      ∃ p, r.resolve (.kind .int) none = .ok p ∧ p ∉ r.parsers := by
  refine ⟨relabelled, _, rfl, rfl, rfl, .integer, rfl, fun hmem => ?_⟩
  -- Functions cannot be compared, but the labels tell the parsers apart.
  have hlabels : Parser.integer.label ∈
      [Parser.boolean, .switch, relabelled, .real, .text].map (·.label) := List.mem_map_of_mem hmem
  simp [Parser.integer, Parser.boolean, Parser.switch, Parser.switchLabel, relabelled, Parser.real,
    Parser.text] at hlabels

end Registry

end LineShell
