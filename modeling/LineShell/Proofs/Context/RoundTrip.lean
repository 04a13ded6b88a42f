import LineShell.Proofs.Context.Reading
import LineShell.Proofs.Line.Printing

/-! Printed lines read back, and what a scanner returns can be printed. -/
namespace LineShell

open LineShell.Line

variable {bindings : NameMap String} {token name : String} {arguments : List String}
  {options : List (String × Option String)}

/-- A text that would be taken for a reference: a dollar sign and at least one more character. -/
def IsReference (token : String) : Prop := token.toList.head? = some '$' ∧ 2 ≤ token.length

/-- What a line can be printed from: its texts can be spelled, and none is a reference. -/
structure Printable (name : String) (arguments : List String)
    (options : List (String × Option String)) : Prop where
  name : NameText name ∧ ¬ IsReference name
  arguments : ∀ a ∈ arguments, StringText a ∧ ¬ IsReference a
  options : ∀ o ∈ options, OptionText o ∧ ∀ value ∈ o.2, ¬ IsReference value

instance (token : String) : Decidable (IsReference token) := inferInstanceAs (Decidable (_ ∧ _))

instance (name : String) (arguments : List String) (options : List (String × Option String)) :
    Decidable (Printable name arguments options) :=
  decidable_of_iff ((NameText name ∧ ¬ IsReference name) ∧
    (∀ a ∈ arguments, StringText a ∧ ¬ IsReference a) ∧
    ∀ o ∈ options, OptionText o ∧ ∀ value ∈ o.2, ¬ IsReference value)
    ⟨fun h => ⟨h.1, h.2.1, h.2.2⟩, fun h => ⟨h.name, h.arguments, h.options⟩⟩

theorem reference?_eq_none (h : ¬ IsReference token) : reference? token = none := by
  unfold reference?
  split
  · next c rest heq =>
    refine absurd ⟨by simp [heq], ?_⟩ h
    rw [← String.length_toList, heq]
    simp
  · rfl

theorem reference?_of_isReference (h : IsReference name) : ∃ x, reference? name = some x := by
  obtain ⟨hhead, hlength⟩ := h
  rw [← String.length_toList] at hlength
  unfold reference?
  cases hcs : name.toList with
  | nil => simp [hcs] at hhead
  | cons c tail =>
    obtain rfl : c = '$' := by simpa [hcs] using hhead
    cases tail with
    | nil => simp [hcs] at hlength
    | cons d rest => exact ⟨_, rfl⟩

theorem bound_of_plain (h : ¬ IsReference token) : Bound bindings token := by
  intro name href
  rw [reference?_eq_none h] at href
  cases href

theorem expand_of_plain (h : ¬ IsReference token) : expand bindings token = token := by
  rw [expand, reference?_eq_none h]

theorem Printable.cut (h : Printable name arguments options) :
    (segmentsOf name arguments options).Cut (printLine name arguments options).toList :=
  cut_printLine h.name.1 (fun a ha => (h.arguments a ha).1) fun o ho => (h.options o ho).1

theorem bound_segmentsOf (h : Printable name arguments options) :
    (segmentsOf name arguments options).Bound bindings := by
  refine ⟨?_, ?_, ?_⟩
  · simpa [segmentsOf, Spaced.Bound] using bound_of_plain h.name.2
  · intro t ht
    obtain ⟨a, ha, rfl⟩ := List.mem_map.mp ht
    simpa using bound_of_plain (h.arguments a ha).2
  · intro t ht assignment hassign
    obtain ⟨o, ho, rfl⟩ := List.mem_map.mp ht
    obtain ⟨value, hvalue, rfl⟩ := Option.map_eq_some_iff.mp hassign
    simpa using bound_of_plain ((h.options o ho).2 value hvalue)

theorem expanded_segmentsOf (h : Printable name arguments options) :
    (segmentsOf name arguments options).name.expanded bindings = name := by
  simpa [segmentsOf, Spaced.expanded] using expand_of_plain h.name.2

theorem texts_segmentsOf (h : Printable name arguments options) :
    (segmentsOf name arguments options).operands.texts bindings = arguments := by
  simp only [segmentsOf, Operands.texts, List.map_map]
  conv_rhs => rw [← List.map_id arguments]
  apply List.map_congr_left
  intro a ha
  simpa using expand_of_plain (h.arguments a ha).2

theorem entries_segmentsOf (h : Printable name arguments options) :
    (segmentsOf name arguments options).operands.entries bindings = options := by
  simp only [segmentsOf, Operands.entries, List.map_map]
  conv_rhs => rw [← List.map_id options]
  apply List.map_congr_left
  intro o ho
  have hvalues := (h.options o ho).2
  obtain ⟨name, value⟩ := o
  cases value with
  | none => simp [optionLexemeOf, OptionLexeme.entry]
  | some value =>
    simpa [optionLexemeOf, OptionLexeme.entry] using expand_of_plain (hvalues value rfl)

theorem readLine_printLine (c : Context) (h : Printable name arguments options) :
    ∃ r, c.reset.readLine (printLine name arguments options) = .ok r ∧ r.complete = true ∧
      r.context.commandName = some name ∧ r.context.arguments = arguments ∧
      r.context.options = NameMap.empty.insertAll options ∧ r.context.logged = [] ∧
      r.context.journal = c.journal := by
  obtain ⟨t, ht, _, htexts, hentries⟩ :=
    readLine_of_cut (c := c.reset) h.cut (bound_segmentsOf h)
  rw [texts_segmentsOf h] at htexts
  rw [entries_segmentsOf h] at hentries
  rw [expanded_segmentsOf h] at ht
  exact ⟨_, ht, rfl, rfl, htexts, congrArg NameMap.empty.insertAll hentries, rfl, rfl⟩

/-- What spells a text can be read as a command name. -/
theorem name?_spell (h : NameText token) :
    ∃ t, (Scanner.ofLine (spell token)).name? = some (token, t) := by
  have hname := nameAt_spell h atGap_nil
  rw [List.append_nil] at hname
  have hread := readName?_iff.mpr ⟨_, hname⟩
  exact ⟨_, by rw [Scanner.name?, rest_ofLine, hread, Option.map_some, Scanner.accept,
    lexemeOf_text, String.ofList_toList]⟩

/-- What spells a text can be read as an argument. -/
theorem string?_spell (h : StringText token) :
    ∃ t, (Scanner.ofLine (spell token)).string? = some (token, t) := by
  have hstring := stringAt_spell h atGap_nil
  rw [List.append_nil] at hstring
  have hread := readString?_iff.mpr ⟨_, hstring⟩
  exact ⟨_, by rw [Scanner.string?, rest_ofLine, hread, Option.map_some, Scanner.accept,
    lexemeOf_text, String.ofList_toList]⟩

/-- What spells an option can be read as one. -/
theorem option?_spell {o : OptionToken} (h : OptionText (o.name, o.value)) :
    ∃ t, (Scanner.ofLine (spellOption (o.name, o.value))).option? = some (o, t) := by
  have hoption := optionAt_spell h atGap_nil (by simp)
  rw [List.append_nil] at hoption
  have hread := readOption?_iff.mpr ⟨_, hoption⟩
  exact ⟨_, by rw [Scanner.option?, rest_ofLine, hread, Option.map_some, optionLexemeOf_token]⟩

/-- What is printed from a command name, arguments and options is read back as these, in the order
given, and nothing is logged. Conversely a scanner returns, as command names, arguments and options,
exactly what can be printed. -/
theorem print_read_identity :
    (∀ (c : Context) (name : String) (arguments : List String)
      (options : List (String × Option String)), Printable name arguments options →
      ∃ r, c.reset.readLine (printLine name arguments options) = .ok r ∧ r.complete = true ∧
        r.context.commandName = some name ∧ r.context.arguments = arguments ∧
        r.context.options = NameMap.empty.insertAll options ∧ r.context.logged = [] ∧
        r.context.journal = c.journal) ∧
    (∀ text, (∃ s t : Scanner, s.name? = some (text, t)) ↔ NameText text) ∧
    (∀ text, (∃ s t : Scanner, s.string? = some (text, t)) ↔ StringText text) ∧
    ∀ o : OptionToken, (∃ s t : Scanner, s.option? = some (o, t)) ↔ OptionText (o.name, o.value) := by
  refine ⟨fun c _ _ _ h => readLine_printLine c h, ?_, ?_, ?_⟩
  · intro text
    constructor
    · rintro ⟨s, t, h⟩
      obtain ⟨l, rfl, hl⟩ := nameAt_of_name? h
      exact nameText_of_nameAt hl
    · intro h
      exact ⟨_, name?_spell h⟩
  · intro text
    constructor
    · rintro ⟨s, t, h⟩
      obtain ⟨l, rfl, hl⟩ := stringAt_of_string? h
      exact stringText_of_stringAt hl
    · intro h
      exact ⟨_, string?_spell h⟩
  · intro o
    constructor
    · rintro ⟨s, t, h⟩
      obtain ⟨l, rfl, hl⟩ := optionAt_of_option? h
      exact optionText_of_optionAt hl
    · intro h
      exact ⟨_, option?_spell h⟩

theorem print_read_identity_quotes :
    Printable "say\"so" ["", "a b", "-5", "it\"s", "$"] [("x", some "-y"), ("X", none)] ∧
      ∃ r, (Context.fresh (.empty 1 Nat.one_pos)).reset.readLine
          (printLine "say\"so" ["", "a b", "-5", "it\"s", "$"] [("x", some "-y"), ("X", none)]) =
            .ok r ∧
        r.complete = true ∧ r.context.commandName = some "say\"so" ∧
        r.context.arguments = ["", "a b", "-5", "it\"s", "$"] ∧
        r.context.options.entries = [("x", none)] := by
  have hprintable :
      Printable "say\"so" ["", "a b", "-5", "it\"s", "$"] [("x", some "-y"), ("X", none)] := by
    decide
  obtain ⟨r, hr, hcomplete, hname, hargs, hopts, _⟩ := print_read_identity.1
    (Context.fresh (.empty 1 Nat.one_pos)) _ _ _ hprintable
  refine ⟨hprintable, r, hr, hcomplete, hname, hargs, ?_⟩
  rw [hopts]
  rfl

end LineShell
