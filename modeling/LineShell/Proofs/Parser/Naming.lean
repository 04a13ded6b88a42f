import LineShell.Proofs.Parser.Lookup
import LineShell.Proofs.Text.Lowering

/-! The name under which a parser is found. White space around the name is dropped when the parser
is registered but not when it is looked up, so that the parser is found under every spelling of the
trimmed name, and under the name that was given only if that one is trimmed already. -/
namespace LineShell

open LineShell.Text

variable {name : String} {k : Kind} {label default : Value} {convert : Conversion}

namespace Parser

/-- A name is given if there is more to it than white space. -/
def Named (name : String) : Prop := trim name.toList ≠ []

instance (name : String) : Decidable (Named name) :=
  inferInstanceAs (Decidable (_ ≠ _))

/-- What a parser is made of, and that it is refused if no name is given. -/
theorem make_text (convert : Conversion) (name : String) (k : Kind) (label default : Value) :
    make (some convert) (.text name) (.kind k) label default =
      if Named name then
        .ok ⟨canonicalName name, k, coalesce label (.text k.name), coalesce default k.zero, convert⟩
      else .error ⟨.value, "Parser() name must be a non-empty string"⟩ := by
  by_cases hname : trim name.toList = [] <;> simp [make, Named, hname]

theorem name_kind_of_make {p : Parser}
    (hmade : make (some convert) (.text name) (.kind k) label default = .ok p) :
    p.name = canonicalName name ∧ p.kind = k := by
  rw [make_text] at hmade
  split at hmade
  · obtain rfl := Except.ok.inj hmade
    exact ⟨rfl, rfl⟩
  · exact nomatch hmade

/-- The canonical form of a name is the one under which its parser is registered exactly if the name
has no white space around it. -/
theorem normalize_eq_canonicalName_iff :
    normalize name = canonicalName name ↔ trim name.toList = name.toList := by
  rw [← String.toList_inj, canonicalName, toList_normalize, toList_normalize, String.toList_ofList,
    eq_comm, lower_trim_eq_iff]

end Parser

namespace Registry

open LineShell.Parser

variable {r : Registry} {request : Request}

/-- A request to register a function under a name for a kind, by any of the three ways: directly,
as a function that returns the value itself, or as a parser that has been made before. -/
inductive Request.Under (name : String) (k : Kind) : Request → Prop
  | define (convert : Conversion) (label default : Value) (primary : Bool) :
    Under name k (.define (some convert) (.text name) (.kind k) label default primary)
  | converter (f : HostFunction) (kind : Option KindArgument) (label default : Value)
      (primary : Bool) (hkind : kind.or (f.kind.map .kind) = some (.kind k)) :
    Under name k (.converter (.function f) (.text name) kind label default primary)
  | register (p : Parser) (convert : Conversion) (label default : Value) (primary : Bool)
      (hmade : Parser.make (some convert) (.text name) (.kind k) label default = .ok p) :
    Under name k (.register (.parser p) primary)

/-- A function is registered under the canonical form of a name that is given. -/
theorem define_of_named (hname : Named name) (r : Registry) (convert : Conversion) (k : Kind)
    (label default : Value) (primary : Bool) :
    ∃ p, r.define (some convert) (.text name) (.kind k) label default primary =
      .ok (p, r.register p primary) ∧ p.name = canonicalName name ∧ p.kind = k := by
  have hmade := make_text convert name k label default
  rw [if_pos hname] at hmade
  exact ⟨_, by rw [define, hmade]; rfl, name_kind_of_make hmade⟩

/-- Each of the three ways registers a parser under the canonical form of the name. -/
theorem Request.Under.run (h : request.Under name k) (hname : Named name) (r : Registry) :
    ∃ p, request.run r = (.ok p, r.register p request.primary) ∧ p.name = canonicalName name ∧
      p.kind = k := by
  cases h with
  | define convert label default primary =>
    obtain ⟨p, hdefine, hplace⟩ := define_of_named hname r convert k label default primary
    exact ⟨p, by rw [Request.run, Request.apply, hdefine]; rfl, hplace⟩
  | converter f kind label default primary hkind =>
    obtain ⟨p, hdefine, hplace⟩ :=
      define_of_named hname r (succeeding f.convert) k label default primary
    refine ⟨p, ?_, hplace⟩
    rw [Request.run, Request.apply, Registry.converter, FunctionArgument.kind?, hkind]
    dsimp only [coalesce]
    rw [hdefine]
    rfl
  | register p convert label default primary hmade =>
    exact ⟨p, rfl, name_kind_of_make hmade⟩

/-- A parser that was registered last in its place is found under every spelling of its name. What
is found under other names does not change. -/
theorem resolve_registered (h : List Registration) (x : Registration) (sought : String) :
    ((empty.after h).register x.parser x.primary).resolve (.name sought)
        (some (.kind x.parser.kind)) =
      if normalize sought = x.parser.name then .ok x.parser
      else (empty.after h).resolve (.name sought) (some (.kind x.parser.kind)) := by
  by_cases hname : normalize sought = x.parser.name
  · rw [if_pos hname, ← after_concat, (resolve_name_kind _ _ _).1, hname, latest?_concat,
      if_pos (isAt_iff.mpr ⟨rfl, rfl⟩)]
  · rw [if_neg hname, resolve_register]
    intro hasks
    simp only [Asks, answers, Bool.and_eq_true, decide_eq_true_eq] at hasks
    exact hname hasks.1.symm

/-- After any requests, one more that registers a function under a name for a kind is answered with
a parser of that kind, under the canonical form of the trimmed name. For the kind, every spelling of
the trimmed name resolves to this parser, and any other name to what it resolved to before. So the
name itself, in any case, resolves to the parser exactly if it has no white space around it. -/
theorem found_under_trimmed_name (requests : List Request) (hname : Named name)
    (hunder : request.Under name k) :
    ∃ replies r p after, runAll Request.run builtin requests = (replies, r) ∧
      request.run r = (.ok p, after) ∧ p.name = canonicalName name ∧ p.kind = k ∧
      (∀ sought, after.resolve (.name sought) (some (.kind k)) =
        if normalize sought = canonicalName name then .ok p
        else r.resolve (.name sought) (some (.kind k))) ∧
      ∀ sought, normalize sought = normalize name →
        (after.resolve (.name sought) (some (.kind k)) = .ok p ↔
          trim name.toList = name.toList) := by
  obtain ⟨p, hrun, hplace, rfl⟩ := hunder.run hname (runAll Request.run builtin requests).2
  have hfound (sought : String) := resolve_registered (history requests) ⟨p, request.primary⟩ sought
  rw [← runAll_builtin, hplace] at hfound
  refine ⟨_, _, p, _, rfl, hrun, hplace, rfl, hfound, fun sought hsame => ?_⟩
  rw [hfound, hsame, ← normalize_eq_canonicalName_iff]
  split
  next htrimmed => exact iff_of_true rfl htrimmed
  next hpadded =>
    refine iff_of_false (fun hbefore => hpadded ?_) hpadded
    -- What was found before under the name as it was given has that name.
    have hanswers := (resolveName_ok hbefore).2
    simp only [answers, Bool.and_eq_true, decide_eq_true_eq] at hanswers
    rw [← hplace, hanswers.1, hsame]

/-- A parser of whole numbers under another name, by a function that returns them. -/
def wholeAs (name : String) : Request :=
  .converter (.function (.ofValue "int" (some .int) toWhole)) (.text name) (some (.kind .int))
    .unset .unset false

theorem wholeAs_under (name : String) : (wholeAs name).Under name .int :=
  .converter _ _ _ _ _ rfl

theorem found_under_trimmed_name_level :
    Named "Level" ∧ (wholeAs "Level").Under "Level" .int ∧
      ∃ p after, (wholeAs "Level").run builtin = (.ok p, after) ∧
        after.resolve (.name "LEVEL") (some (.kind .int)) = .ok p := by
  refine ⟨by decide, wholeAs_under "Level", ?_⟩
  obtain ⟨_, _, p, after, hbefore, hrun, _, _, _, hfound⟩ :=
    found_under_trimmed_name [] (by decide) (wholeAs_under "Level")
  obtain ⟨rfl, rfl⟩ := Prod.mk.inj hbefore
  exact ⟨p, after, hrun, (hfound "LEVEL" (by decide)).mpr (by decide)⟩

/-- A parser that was registered under a name with white space around it is not found under it. -/
theorem padded_name_not_found :
    Named " level " ∧ (wholeAs " level ").Under " level " .int ∧
      ∃ p after, (wholeAs " level ").run builtin = (.ok p, after) ∧
        after.resolve (.name "level") (some (.kind .int)) = .ok p ∧
        NotFound (after.resolve (.name " level ") (some (.kind .int))) :=
  ⟨by decide, wholeAs_under _, _, _, rfl, rfl, _, rfl⟩

end Registry

end LineShell
