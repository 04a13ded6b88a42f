import LineShell.Proofs.Context.Delivery
import LineShell.Proofs.Operations

/-! Runs of calls that ask for options. Main statement: whatever calls are made, each option goes to
the first one that names it, and what no call names is reported when parsing ends. -/
namespace LineShell

open LineShell.Line (Scanner)

variable {c d : Context} {names : List String} {entries : List (String × Option String)}

namespace NameMap

variable {α : Type}

/-- The map without the values under several names. -/
def eraseAll (m : NameMap α) (names : List String) : NameMap α :=
  names.foldl erase m

theorem eraseAll_concat (m : NameMap α) (names : List String) (name : String) :
    m.eraseAll (names ++ [name]) = (m.eraseAll names).erase name := by
  simp [eraseAll]

theorem find?_eraseAll (m : NameMap α) (names : List String) (name : String) :
    (m.eraseAll names).find? name =
      if normalize name ∈ names.map normalize then none else m.find? name := by
  induction names using List.reverseRecOn with
  | nil => rfl
  | append_singleton names last ih =>
    rw [eraseAll_concat]
    by_cases h : normalize name = normalize last
    · have hgone := find?_erase_self (m.eraseAll names) last
      rw [find?, ← h] at hgone
      simpa [find?, h] using hgone
    · rw [find?_erase_ne _ h, ih]
      simp [h]

theorem keys_eraseAll (m : NameMap α) (names : List String) :
    (m.eraseAll names).keys = m.keys.filter (· ∉ names.map normalize) := by
  induction names using List.reverseRecOn with
  | nil => simp [eraseAll]
  | append_singleton names last ih =>
    rw [eraseAll_concat, keys_erase, ih, List.filter_filter]
    refine List.filter_congr fun key _ => ?_
    rw [Bool.eq_iff_iff]
    simp [not_or, and_comm]

end NameMap

/-- A call that asks for an option. -/
inductive OptionCall
  | option (name : String) (parser : Option Designator) (default : Value)
  | flag (name : String) (parser : Option Designator) (default flagValue : Value)

namespace OptionCall

def name : OptionCall → String
  | option name _ _ | flag name _ _ _ => name

def run (c : Context) : OptionCall → Except Failure Value × Context
  | option name parser default => c.option (.text name) parser default
  | flag name parser default flagValue => c.flag (.text name) parser default flagValue

/-- A call that designates a tame parser, or none. -/
def Sound (r : Registry) : OptionCall → Prop
  | option _ parser _ => ∀ d ∈ parser, ∃ p, r.resolve d none = .ok p ∧ p.Tame
  | flag _ parser _ _ =>
    ∃ p, r.resolve (parser.getD (.parser .boolean)) (some (.kind .bool)) = .ok p ∧ p.Tame

/-- The outcomes of a call under whose name something is found. -/
def Outcome (c : Context) (found : Option (Option String)) :
    OptionCall → Except Failure Value × Context → Prop
  | option name parser default, outcome => ∃ p, c.parserOf parser = .ok p ∧
      Delivers (c.without name) (OptionFault p name default found)
        (coalesce default (Context.standIn p)) (OptionValue p default found) outcome
  | flag name parser default flagValue, outcome => ∃ p,
      c.registry.resolve (parser.getD (.parser .boolean)) (some (.kind .bool)) = .ok p ∧
      Delivers (c.without name) (FlagFault p name found) default
        (FlagValue p default flagValue found) outcome

variable {call : OptionCall} {calls : List OptionCall}

theorem outcome_run (h : call.Sound c.registry) :
    call.Outcome c (c.options.find? call.name) (call.run c) := by
  cases call with
  | option name parser default =>
    cases parser with
    | none =>
      have hparser : c.parserOf none = .ok none := rfl
      exact ⟨none, hparser, Context.option_delivers hparser (by nofun) name default⟩
    | some designator =>
      obtain ⟨p, hresolve, htame⟩ := h designator rfl
      have hparser : c.parserOf (some designator) = .ok (some p) := by
        simp only [Context.parserOf, hresolve]
        rfl
      refine ⟨some p, hparser, Context.option_delivers hparser ?_ name default⟩
      rintro q ⟨⟩
      exact htame
  | flag name parser default flagValue =>
    obtain ⟨p, hresolve, htame⟩ := h
    exact ⟨p, hresolve, Context.flag_delivers hresolve htame name default flagValue⟩

end OptionCall

theorem Delivers.keeps {wrong : Fault → Prop} {fallback : Value} {right : Value → Prop}
    {n : Except Failure Value × Context} (h : Delivers d wrong fallback right n) :
    n.2.options = d.options ∧ n.2.registry = d.registry := by
  cases h with
  | fallback _ _ hgains =>
    rw [hgains.kept]
    exact ⟨rfl, rfl⟩
  | value => exact ⟨rfl, rfl⟩

namespace OptionCall

variable {call : OptionCall} {calls : List OptionCall}

theorem Outcome.keeps {found : Option (Option String)} {n : Except Failure Value × Context}
    (h : call.Outcome c found n) :
    n.2.options = c.options.erase call.name ∧ n.2.registry = c.registry := by
  cases call <;> exact h.choose_spec.2.keeps

theorem runAll_keeps (calls : List OptionCall) (h : ∀ call ∈ calls, call.Sound c.registry) :
    (runAll run c calls).2.options = c.options.eraseAll (calls.map name) ∧
      (runAll run c calls).2.registry = c.registry := by
  induction calls using List.reverseRecOn with
  | nil => exact ⟨rfl, rfl⟩
  | append_singleton calls last ih =>
    obtain ⟨hbefore, hlast⟩ := List.forall_mem_append.mp h
    obtain ⟨hoptions, hregistry⟩ := ih hbefore
    rw [runAll_concat, List.map_append, List.map_singleton, NameMap.eraseAll_concat]
    have hsound : last.Sound (runAll run c calls).2.registry :=
      hregistry ▸ hlast last (.head _)
    obtain ⟨hlater, hkept⟩ := (outcome_run hsound).keeps
    exact ⟨hlater.trans (by rw [hoptions]), hkept.trans hregistry⟩

/-- The names of scanned options that no call asks for, in the order in which they first came. -/
def leftover (entries : List (String × Option String)) (calls : List OptionCall) : List String :=
  (entries.map (normalize ·.1)).eraseDups.filter (· ∉ calls.map (normalize ·.name))

end OptionCall

theorem endParsing_eq (c : Context) :
    c.endParsing =
      (c.options.keys.map fun key => (Fault.unknownOption key).entry).foldl Context.write c := by
  rw [Context.endParsing, List.foldl_map]
  rfl

theorem options_endParsing (c : Context) : c.endParsing.options = c.options := by
  rw [endParsing_eq]
  exact foldl_write_keeps (·.options) (fun _ _ => rfl) _ c

/-- Scanning leaves the table of the options of a line, one after the other. -/
theorem options_readOptions (h : c.options = .empty) (s : Scanner) :
    (c.readOptions s).2.options =
      NameMap.empty.insertAll (scanOptions c.bindings s.skipBlanks).options := by
  rw [← h]
  unfold Context.readOptions
  dsimp only
  split
  · rfl
  · split <;> rfl

open OptionCall in
/-- For any table of options that was scanned and any calls with tame parsers that ask for some of
them, each call finds the value that came last on the line if it is the first one to name the option
in any case, and else finds nothing. Whoever ends parsing then logs one warning for each option that
no call named, in the order of the line, and nothing more; the table stays, so that ending it once
more logs the same. -/
theorem options_consumed_once (hscan : c.options = NameMap.empty.insertAll entries)
    {calls : List OptionCall} (hsound : ∀ call ∈ calls, call.Sound c.registry) :
    (∀ before call after, calls = before ++ call :: after →
      call.Outcome (runAll run c before).2
        (if normalize call.name ∈ before.map (normalize ·.name) then none
          else NameMap.lastUnder entries call.name)
        (call.run (runAll run c before).2)) ∧
    ∃ (t : Context) (warnings : List Message), t = (runAll run c calls).2 ∧
      warnings = (leftover entries calls).map (fun key => (Fault.unknownOption key).entry) ∧
      (∀ m ∈ warnings, m.severity = .warning ∧ m.code = some .unknownOption) ∧
      t.endParsing = warnings.foldl Context.write t ∧
      t.endParsing.logged = t.logged ++ warnings ∧
      t.endParsing.journal = warnings.foldl Journal.write t.journal ∧
      t.endParsing.options = t.options ∧
      t.endParsing.endParsing = warnings.foldl Context.write t.endParsing := by
  constructor
  · rintro before call after rfl
    obtain ⟨hbefore, hcall⟩ := List.forall_mem_append.mp hsound
    obtain ⟨hoptions, hregistry⟩ := runAll_keeps before hbefore
    have houtcome := outcome_run (hregistry ▸ hcall call (.head _) :
      call.Sound (runAll run c before).2.registry)
    rwa [hoptions, hscan, NameMap.find?_eraseAll, NameMap.find?_insertAll, List.map_map] at houtcome
  · obtain ⟨hoptions, -⟩ := runAll_keeps calls hsound
    have hkeys : (runAll run c calls).2.options.keys = leftover entries calls := by
      rw [hoptions, hscan, NameMap.keys_eraseAll, NameMap.keys_insertAll, List.map_map]
      rfl
    have hend := endParsing_eq (runAll run c calls).2
    have hagain := endParsing_eq (runAll run c calls).2.endParsing
    rw [options_endParsing, hkeys] at hagain
    rw [hkeys] at hend
    refine ⟨_, _, rfl, rfl, ?_, hend, ?_, ?_, options_endParsing _, hagain⟩
    · intro m hm
      obtain ⟨key, -, rfl⟩ := List.mem_map.mp hm
      exact ⟨rfl, rfl⟩
    · rw [hend, foldl_write_logged]
    · rw [hend, foldl_write_journal]

open OptionCall in
/-- An option that a line gives twice goes to the first call with the value that came last; the
second call, under another case, gets its default, and the option that no call names is reported. -/
theorem options_consumed_once_given_twice :
    ∃ c : Context, c = ((Context.fresh (.empty 1 Nat.one_pos)).readOptions
        (Scanner.ofLine "-a=1 -B -A=2")).2 ∧
      (option "A" (some (.kind .int)) .unset).Outcome c (some (some "2"))
        (run c (option "A" (some (.kind .int)) .unset)) ∧
      (flag "a" none (.bool false) (.bool true)).Outcome
        (run c (option "A" (some (.kind .int)) .unset)).2 none
        (run (run c (option "A" (some (.kind .int)) .unset)).2
          (flag "a" none (.bool false) (.bool true))) ∧
      ∃ t : Context, t = (runAll run c [option "A" (some (.kind .int)) .unset,
          flag "a" none (.bool false) (.bool true)]).2 ∧
        t.endParsing = t.trigger (.unknownOption "b") := by
  have hentries : (scanOptions .empty (Scanner.ofLine "-a=1 -B -A=2").skipBlanks).options =
      [("a", some "1"), ("B", none), ("A", some "2")] := by decide +kernel
  have hscan := options_readOptions (c := Context.fresh (.empty 1 Nat.one_pos)) rfl
    (Scanner.ofLine "-a=1 -B -A=2")
  rw [show (Context.fresh (.empty 1 Nat.one_pos)).bindings = .empty from rfl, hentries] at hscan
  have hregistry : ((Context.fresh (.empty 1 Nat.one_pos)).readOptions
      (Scanner.ofLine "-a=1 -B -A=2")).2.registry = .builtin :=
    Framed.readOptions (f := (·.registry)) ⟨fun _ _ => rfl, fun _ _ _ _ => rfl⟩ _ _
  generalize ((Context.fresh (.empty 1 Nat.one_pos)).readOptions
    (Scanner.ofLine "-a=1 -B -A=2")).2 = c at hscan hregistry
  have hsound : ∀ call ∈ [option "A" (some (.kind .int)) .unset,
      flag "a" none (.bool false) (.bool true)], call.Sound c.registry := by
    simp only [List.forall_mem_cons, List.not_mem_nil, false_implies, implies_true, and_true,
      hregistry]
    refine ⟨?_, .boolean, rfl, Parser.builtin_tame _ (by simp [Parser.builtin_parsers])⟩
    rintro d ⟨⟩
    exact ⟨.integer, rfl, Parser.builtin_tame _ (by simp [Parser.builtin_parsers])⟩
  obtain ⟨hcalls, t, _, rfl, rfl, -, hend, -⟩ := options_consumed_once hscan hsound
  refine ⟨c, rfl, ?_, ?_, _, rfl, ?_⟩
  · exact hcalls [] _ _ rfl
  · exact hcalls [_] _ [] rfl
  · rw [hend]
    rfl

end LineShell
