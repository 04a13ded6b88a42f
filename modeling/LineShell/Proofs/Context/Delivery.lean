import LineShell.Proofs.Context.Access
import LineShell.Proofs.NameMap.Insertion

/-! What a handler gets from typed access to a line. Main statement: an access delivers the value
that was asked for, or logs one error and answers a fallback; an option that is asked for is gone
afterwards. -/
namespace LineShell

variable {c d : Context} {p : Option Parser} {raw name problem : String} {v default : Value}

namespace Parser

/-- The function of the parser returns a value and a summary for a text. -/
def Pairs (p : Parser) (raw : String) (v : Value) (s : Summary) : Prop :=
  ∃ r, p.convert (.text raw) = .ok r ∧ r.parts? = some (v, .summary s)

/-- What the parser makes of a text that it can read. -/
def Yields (p : Parser) (raw : String) (v : Value) : Prop :=
  p.Pairs raw v .success

/-- The function of the parser fails over a text: over a wrong value or a wrong kind of value, or in
that it returns nothing of two parts. -/
inductive Fails (p : Parser) (raw : String) : Prop
  | raised {f : Failure} (h : p.convert (.text raw) = .error f) (hmismatch : isMismatch f)
  | unpaired {r : Returned} (h : p.convert (.text raw) = .ok r) (hparts : r.parts? = none)

/-- What is wrong with a text: the parser says so itself, or it fails over it. -/
inductive Rejects (p : Parser) (raw : String) : String → Prop
  | reported {v : Value} {problem : String} (h : p.Pairs raw v ⟨some problem⟩) :
      Rejects p raw problem
  | failed {problem : String} (h : p.Fails raw)
      (hmismatch : Summary.mismatch p.label (.text raw) = .ok ⟨some problem⟩) :
      Rejects p raw problem

/-- A parser whose function returns a value and a summary for any text or fails over it, and whose
label can be shown. -/
structure Tame (p : Parser) : Prop where
  label : ∃ shown, p.label.render = .ok shown
  convert : ∀ raw, (∃ v s, p.Pairs raw v s) ∨ p.Fails raw

theorem Pairs.of_convert {p : Parser} {s : Summary}
    (h : p.convert (.text raw) = .ok (.pair v s)) : p.Pairs raw v s :=
  ⟨_, h, rfl⟩

theorem Pairs.summary_eq {p : Parser} {w : Value} {s t : Summary} (h : p.Pairs raw v s)
    (h' : p.Pairs raw w t) : s = t := by
  obtain ⟨r, hr, hparts⟩ := h
  obtain ⟨r', hr', hparts'⟩ := h'
  obtain rfl := Except.ok.inj (hr.symm.trans hr')
  exact Value.summary.inj (Prod.mk.inj (Option.some.inj (hparts.symm.trans hparts'))).2

theorem Pairs.not_fails {p : Parser} {s : Summary} (h : p.Pairs raw v s) : ¬ p.Fails raw := by
  obtain ⟨r, hr, hparts⟩ := h
  rintro (⟨hfails, -⟩ | ⟨hother, hnone⟩)
  · cases hr.symm.trans hfails
  · obtain rfl := Except.ok.inj (hr.symm.trans hother)
    cases hparts.symm.trans hnone

/-- A summary of an error has the default stand in for the value. -/
theorem Pairs.run {p : Parser} {s : Summary} (h : p.Pairs raw v s) :
    p.run (.text raw) = .ok (if s.isError then p.default else v, s) := by
  obtain ⟨r, hr, hparts⟩ := h
  simp only [Parser.run, hr, hparts]
  cases s.isError <;> rfl

/-- What the function fails over is refused. -/
theorem Fails.run {p : Parser} (h : p.Fails raw) : p.run (.text raw) = p.refuse (.text raw) := by
  cases h with
  | raised h hmismatch => simp only [Parser.run, h, hmismatch, if_true]
  | unpaired h hparts => simp only [Parser.run, h, hparts]

theorem mismatch_of_label {label : Value} {shown : String} (h : label.render = .ok shown)
    (raw : String) : ∃ problem, Summary.mismatch label (.text raw) = .ok ⟨some problem⟩ := by
  simp only [Summary.mismatch, h, Value.render_text]
  exact ⟨_, rfl⟩

theorem Yields.not_rejects {p : Parser} (h : p.Yields raw v) : ¬ p.Rejects raw problem := by
  rintro (⟨hother⟩ | ⟨hfails, -⟩)
  · cases h.summary_eq hother
  · exact h.not_fails hfails

/-- What a tame parser has rejected it answers with its default. -/
theorem Tame.run {p : Parser} (h : p.Tame) (raw : String) :
    (∃ v, p.Yields raw v ∧ p.run (.text raw) = .ok (v, .success)) ∨
      ∃ problem, p.Rejects raw problem ∧ p.run (.text raw) = .ok (p.default, ⟨some problem⟩) := by
  obtain ⟨v, ⟨problem⟩, hpair⟩ | hfails := h.convert raw
  · cases problem with
    | none => exact .inl ⟨v, hpair, hpair.run⟩
    | some problem => exact .inr ⟨problem, .reported hpair, hpair.run⟩
  · obtain ⟨shown, hshown⟩ := h.label
    obtain ⟨problem, hproblem⟩ := mismatch_of_label hshown raw
    refine .inr ⟨problem, .failed hfails hproblem, ?_⟩
    rw [hfails.run, refuse, hproblem]
    rfl

theorem tame_of_total {p : Parser} {f : Value → Except Failure Value}
    (hlabel : ∃ shown, p.label.render = .ok shown)
    (hconvert : ∀ raw, p.convert (.text raw) = (f (.text raw)).map (.pair · .success))
    (hfails : ∀ raw e, f (.text raw) = .error e → isMismatch e) : p.Tame := by
  refine ⟨hlabel, fun raw => ?_⟩
  cases hf : f (.text raw) with
  | ok v => exact .inl ⟨v, .success, .of_convert (by rw [hconvert, hf]; rfl)⟩
  | error e => exact .inr (.raised (by rw [hconvert, hf]; rfl) (hfails raw e hf))

theorem vocabulary_tame (name yes no label : String) (kind : Kind) (default : Value) :
    (⟨name, kind, .text label, default, vocabulary yes no label⟩ : Parser).Tame := by
  refine ⟨⟨label, Value.render_text label⟩, fun raw => .inl ?_⟩
  obtain ⟨problem, hproblem⟩ := mismatch_of_label (Value.render_text label) raw
  have hpair : ∃ v s, vocabulary yes no label (.text raw) = .ok (.pair v s) := by
    simp only [vocabulary, withText]
    split
    · exact ⟨_, _, rfl⟩
    · split
      · exact ⟨_, _, rfl⟩
      · rw [hproblem]
        exact ⟨_, _, rfl⟩
  obtain ⟨v, s, hpair⟩ := hpair
  exact ⟨v, s, .of_convert hpair⟩

theorem builtin_parsers :
    Registry.builtin.parsers = [.boolean, .switch, .integer, .real, .text] := by
  simp [Registry.builtin, Registry.register, Registry.empty, Registry.place, Registry.samePlace,
    boolean, switch, integer, real, text]

theorem builtin_tame : ∀ p ∈ Registry.builtin.parsers, p.Tame := by
  simp only [builtin_parsers, List.forall_mem_cons, List.not_mem_nil, false_implies, implies_true,
    and_true]
  refine ⟨vocabulary_tame .., vocabulary_tame .., ?_, ?_, ?_⟩
  · refine tame_of_total (f := toWhole) ⟨_, Value.render_text _⟩ (fun _ => rfl) fun raw e h => ?_
    simp only [toWhole] at h
    split at h <;> cases h
    rfl
  · refine tame_of_total (f := toReal) ⟨_, Value.render_text _⟩ (fun _ => rfl) fun raw e h => ?_
    simp only [toReal] at h
    split at h <;> cases h
    rfl
  · refine tame_of_total (f := toText) ⟨_, Value.render_text _⟩ (fun _ => rfl) fun raw e h => ?_
    simp only [toText, Value.render_text] at h
    cases h

end Parser

/-- What a text is read as. Without a parser it stands for itself. -/
def ReadAs (p : Option Parser) (raw : String) (v : Value) : Prop :=
  match p with
  | none => v = .text raw
  | some p => p.Yields raw v

/-- What is wrong with a text. Without a parser nothing is. -/
def Rejected (p : Option Parser) (raw problem : String) : Prop :=
  ∃ q ∈ p, q.Rejects raw problem

theorem ReadAs.not_rejected (h : ReadAs p raw v) : ¬ Rejected p raw problem := by
  rintro ⟨q, rfl, hrejects⟩
  exact Parser.Yields.not_rejects h hrejects

theorem readRaw_of_tame (h : ∀ q ∈ p, q.Tame) (raw : String) :
    (∃ v, ReadAs p raw v ∧ Context.readRaw p raw = .ok (v, none)) ∨
      ∃ problem, Rejected p raw problem ∧
        Context.readRaw p raw = .ok (Context.standIn p, some problem) := by
  cases p with
  | none => exact .inl ⟨_, rfl, rfl⟩
  | some q =>
    obtain ⟨v, hyields, hrun⟩ | ⟨problem, hrejects, hrun⟩ := (h q rfl).run raw
    · exact .inl ⟨v, hyields, by simp only [Context.readRaw, hrun]; rfl⟩
    · exact .inr ⟨problem, ⟨q, rfl, hrejects⟩, by simp only [Context.readRaw, hrun]; rfl⟩

/-- What is wrong with the argument that is found at a position. -/
inductive ArgumentFault (p : Option Parser) (position : Int) (name : String) :
    Option String → Fault → Prop
  | missing : ArgumentFault p position name none (.missingArgument position name)
  | rejected {raw problem : String} (h : Rejected p raw problem) :
      ArgumentFault p position name (some raw) (.argumentMismatch position name problem)

/-- The value of the argument that is found at a position. -/
inductive ArgumentValue (p : Option Parser) : Option String → Value → Prop
  | read {raw : String} {v : Value} (h : ReadAs p raw v) : ArgumentValue p (some raw) v

/-- What is wrong with what is found under the name of an option. Without a default there must be
something, and it must not be a flag. -/
inductive OptionFault (p : Option Parser) (name : String) (default : Value) :
    Option (Option String) → Fault → Prop
  | missing (h : default = .unset) : OptionFault p name default none (.missingOption name)
  | misused : OptionFault p name default (some none) (.flagMisuse name)
  | rejected {raw problem : String} (h : Rejected p raw problem) :
      OptionFault p name default (some (some raw)) (.optionMismatch name problem)

/-- The value of what is found under the name of an option. -/
inductive OptionValue (p : Option Parser) (default : Value) : Option (Option String) → Value → Prop
  | absent : OptionValue p default none default
  | read {raw : String} {v : Value} (h : ReadAs p raw v) : OptionValue p default (some (some raw)) v

/-- What is wrong with what is found under the name of a flag. -/
inductive FlagFault (p : Parser) (name : String) : Option (Option String) → Fault → Prop
  | rejected {raw problem : String} (h : p.Rejects raw problem) :
      FlagFault p name (some (some raw)) (.flagMismatch name problem)

/-- The value of what is found under the name of a flag. -/
inductive FlagValue (p : Parser) (default flagValue : Value) :
    Option (Option String) → Value → Prop
  | absent : FlagValue p default flagValue none default
  | bare : FlagValue p default flagValue (some none) flagValue
  | read {raw : String} {v : Value} (h : p.Yields raw v) :
      FlagValue p default flagValue (some (some raw)) v

/-- The two outcomes of an access that leaves the context `d` but for what it logs: something is
wrong, one error tells so, and the fallback is answered; or nothing is, and a right value is. -/
inductive Delivers (d : Context) (wrong : Fault → Prop) (fallback : Value) (right : Value → Prop) :
    Except Failure Value × Context → Prop
  | fallback {f : Fault} {e : Context} (h : wrong f) (herror : f.entry.severity = .error)
      (hgains : d.Gains f.entry e) : Delivers d wrong fallback right (.ok fallback, e)
  | value {v : Value} (hnone : ∀ f, ¬ wrong f) (h : right v) :
      Delivers d wrong fallback right (.ok v, d)

namespace Context

/-- The context without an option. -/
def without (c : Context) (name : String) : Context :=
  { c with options := c.options.erase name }

theorem without_of_find?_none (h : c.options.find? name = none) : c.without name = c := by
  rw [without, NameMap.erase_of_find?_none h]

theorem find?_without (c : Context) (name other : String) :
    (c.without name).options.find? other =
      if normalize other = normalize name then none else c.options.find? other := by
  split
  next h => simpa only [without, NameMap.find?, h] using NameMap.find?_erase_self c.options name
  next h => exact NameMap.find?_erase_ne c.options h

theorem argumentAt_delivers (h : ∀ q ∈ p, q.Tame) (c : Context) (index : Nat) (name : String) :
    Delivers c (ArgumentFault p (index + 1) name c.arguments[index]?) (standIn p)
      (ArgumentValue p c.arguments[index]?) (c.argumentAt index name p) := by
  unfold argumentAt
  cases hfound : c.arguments[index]? with
  | none => exact .fallback .missing rfl (gains_trigger _ _)
  | some raw =>
    dsimp only
    obtain ⟨v, hread, hraw⟩ | ⟨problem, hrejected, hraw⟩ := readRaw_of_tame h raw
    · rw [hraw]
      refine .value (fun f hf => ?_) (.read hread)
      cases hf with
      | rejected hrejected => exact hread.not_rejected hrejected
    · rw [hraw]
      exact .fallback (.rejected hrejected) rfl (gains_trigger _ _)

theorem coalesce_of_given (h : default ≠ .unset) : coalesce default v = default := by
  cases default <;> first | rfl | exact absurd rfl h

/-- A default that is given is answered where there is no option. -/
theorem takeOption_of_given (hfound : c.options.find? name = none) (h : default ≠ .unset) :
    c.takeOption name p default = (.ok default, c) := by
  unfold takeOption NameMap.take?
  rw [hfound, coalesce_of_given h]
  cases default <;> first | rfl | exact absurd rfl h

theorem takeOption_delivers (h : ∀ q ∈ p, q.Tame) (c : Context) (name : String) (default : Value) :
    Delivers (c.without name) (OptionFault p name default (c.options.find? name))
      (coalesce default (standIn p)) (OptionValue p default (c.options.find? name))
      (c.takeOption name p default) := by
  cases hfound : c.options.find? name with
  | none =>
    rw [without_of_find?_none hfound]
    by_cases hdefault : default = .unset
    · subst hdefault
      unfold takeOption NameMap.take?
      rw [hfound]
      exact .fallback (.missing rfl) rfl (gains_trigger _ _)
    · rw [takeOption_of_given hfound hdefault]
      refine .value (fun f hf => ?_) .absent
      cases hf with
      | missing h => exact hdefault h
  | some value =>
    unfold takeOption NameMap.take?
    rw [hfound]
    cases value with
    | none => exact .fallback .misused rfl (gains_trigger _ _)
    | some raw =>
      dsimp only [Option.map_some]
      obtain ⟨v, hread, hraw⟩ | ⟨problem, hrejected, hraw⟩ := readRaw_of_tame h raw
      · rw [hraw]
        refine .value (fun f hf => ?_) (.read hread)
        cases hf with
        | rejected hrejected => exact hread.not_rejected hrejected
      · rw [hraw]
        exact .fallback (.rejected hrejected) rfl (gains_trigger _ _)

theorem takeFlag_delivers {p : Parser} (h : p.Tame) (c : Context) (name : String)
    (default flagValue : Value) :
    Delivers (c.without name) (FlagFault p name (c.options.find? name)) default
      (FlagValue p default flagValue (c.options.find? name))
      (c.takeFlag name p default flagValue) := by
  unfold takeFlag NameMap.take?
  cases hfound : c.options.find? name with
  | none =>
    rw [without_of_find?_none hfound]
    exact .value (fun _ hf => nomatch hf) .absent
  | some value =>
    cases value with
    | none => exact .value (fun _ hf => nomatch hf) .bare
    | some raw =>
      dsimp only [Option.map_some, readRaw]
      obtain ⟨v, hyields, hrun⟩ | ⟨problem, hrejects, hrun⟩ := h.run raw
      · rw [hrun]
        refine .value (fun f hf => ?_) (.read hyields)
        cases hf with
        | rejected hrejects => exact hyields.not_rejects hrejects
      · rw [hrun]
        exact .fallback (.rejected hrejects) rfl (gains_trigger _ _)

theorem option_delivers {parser : Option Designator} (hparser : c.parserOf parser = .ok p)
    (h : ∀ q ∈ p, q.Tame) (name : String) (default : Value) :
    Delivers (c.without name) (OptionFault p name default (c.options.find? name))
      (coalesce default (standIn p)) (OptionValue p default (c.options.find? name))
      (c.option (.text name) parser default) := by
  simp only [option, hparser, nameOf]
  exact takeOption_delivers h c name default

theorem flag_delivers {parser : Option Designator} {p : Parser}
    (hparser : c.registry.resolve (parser.getD (.parser .boolean)) (some (.kind .bool)) = .ok p)
    (h : p.Tame) (name : String) (default flagValue : Value) :
    Delivers (c.without name) (FlagFault p name (c.options.find? name)) default
      (FlagValue p default flagValue (c.options.find? name))
      (c.flag (.text name) parser default flagValue) := by
  simp only [flag, hparser, nameOf]
  exact takeFlag_delivers h c name default flagValue

/-- Whatever state a context is in, an access with a tame parser either delivers what was asked for
and logs nothing, or logs one error and answers the fallback: the default of the parser, which for
an option gives way to the default of the access, or for a flag that default alone. Beyond its
message an access changes nothing but that an option that was asked for, in any case, is gone. -/
theorem accessors_deliver (c : Context) :
    (∀ (index : Nat) (name : String) (parser : Option Designator) (p : Option Parser),
      c.parserOf parser = .ok p → (∀ q ∈ p, q.Tame) →
      Delivers c (ArgumentFault p (index + 1) name c.arguments[index]?) (standIn p)
        (ArgumentValue p c.arguments[index]?) (c.argument index (.text name) parser)) ∧
    (∀ (name : String) (parser : Option Designator) (default : Value) (p : Option Parser),
      c.parserOf parser = .ok p → (∀ q ∈ p, q.Tame) →
      Delivers (c.without name) (OptionFault p name default (c.options.find? name))
        (coalesce default (standIn p)) (OptionValue p default (c.options.find? name))
        (c.option (.text name) parser default)) ∧
    (∀ (name : String) (parser : Option Designator) (default flagValue : Value) (p : Parser),
      c.registry.resolve (parser.getD (.parser .boolean)) (some (.kind .bool)) = .ok p → p.Tame →
      Delivers (c.without name) (FlagFault p name (c.options.find? name)) default
        (FlagValue p default flagValue (c.options.find? name))
        (c.flag (.text name) parser default flagValue)) ∧
    (∀ name : String,
      (c.without name).options.keys = c.options.keys.filter (· ≠ normalize name) ∧
      ∀ other : String, (c.without name).options.find? other =
        if normalize other = normalize name then none else c.options.find? other) := by
  refine ⟨fun index name parser p hparser h => ?_, fun name parser default p hparser h =>
    option_delivers hparser h name default, fun name parser default flagValue p hparser h =>
    flag_delivers hparser h name default flagValue, fun name => ⟨NameMap.keys_erase _ _, ?_⟩⟩
  · have hindex : ¬ (index : Int) < 0 := by omega
    simp only [argument, hindex, if_false, hparser, Int.toNat_natCast]
    exact argumentAt_delivers h c index name
  · exact find?_without c name

/-- On a line with a text where a number is asked for, the number stands in, and a flag that is
asked for under another case is found and gone. -/
theorem accessors_deliver_numbers : ∃ c : Context,
    c.arguments = ["many"] ∧ c.options = NameMap.empty.insertAll [("Depth", some "7"), ("v", none)] ∧
      Delivers c (ArgumentFault (some .integer) 1 "count" (some "many")) (.int 0)
        (ArgumentValue (some .integer) (some "many"))
        (c.argument 0 (.text "count") (some (.kind .int))) ∧
      Delivers (c.without "depth")
        (OptionFault (some .integer) "depth" .unset (some (some "7"))) (.int 0)
        (OptionValue (some .integer) .unset (some (some "7")))
        (c.option (.text "depth") (some (.name "INT")) .unset) ∧
      Delivers (c.without "V") (FlagFault .boolean "V" (some none)) (.bool false)
        (FlagValue .boolean (.bool false) (.bool true) (some none))
        (c.flag (.text "V") none (.bool false) (.bool true)) := by
  let c : Context := { Context.fresh (.empty 1 Nat.one_pos) with
    arguments := ["many"]
    options := NameMap.empty.insertAll [("Depth", some "7"), ("v", none)] }
  obtain ⟨hargument, hoption, hflag, -⟩ := accessors_deliver c
  have htame : ∀ q ∈ some Parser.integer, q.Tame := by
    rintro q ⟨⟩
    exact Parser.builtin_tame _ (by simp [Parser.builtin_parsers])
  have hdepth : c.options.find? "depth" = some (some "7") := by decide +kernel
  have hv : c.options.find? "V" = some none := by decide +kernel
  refine ⟨c, rfl, rfl, hargument 0 "count" _ _ rfl htame, ?_, ?_⟩
  · rw [← hdepth]
    exact hoption "depth" (some (.name "INT")) .unset _ (by rfl) htame
  · rw [← hv]
    exact hflag "V" none (.bool false) (.bool true) _ rfl
      (Parser.builtin_tame _ (by simp [Parser.builtin_parsers]))

end Context

end LineShell
