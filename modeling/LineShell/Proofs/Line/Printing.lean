import LineShell.Line.Scanner
import LineShell.Proofs.Line.Segments

/-! Printed lines. A text is printed between quotes unless it holds one; the texts that can be
printed are exactly those that tokens stand for. -/
namespace LineShell.Line

open LineShell.Text

variable {cs rest run tail : List Char} {l : Lexeme} {o : OptionLexeme} {text name : String}
  {arguments : List String} {options : List (String × Option String)}

/-- A text that can stand without quotes. -/
structure Unquoted (cs : List Char) : Prop where
  nonempty : cs ≠ []
  solid : ∀ c ∈ cs, isBlank c = false
  unquoted : cs.head? ≠ some '"'

theorem unquoted_iff :
    Unquoted cs ↔ cs ≠ [] ∧ cs.all (!isBlank ·) = true ∧ cs.head? ≠ some '"' := by
  have hall : cs.all (!isBlank ·) = true ↔ ∀ c ∈ cs, isBlank c = false := by simp
  rw [hall]
  exact ⟨fun h => ⟨h.nonempty, h.solid, h.unquoted⟩, fun h => ⟨h.1, h.2.1, h.2.2⟩⟩

instance (cs : List Char) : Decidable (Unquoted cs) := decidable_of_iff _ unquoted_iff.symm

/-- A text that a command name can spell. -/
def NameText (text : String) : Prop := '"' ∉ text.toList ∨ Unquoted text.toList

/-- A text that an argument or the value of an option can spell. -/
def StringText (text : String) : Prop :=
  '"' ∉ text.toList ∨ (Unquoted text.toList ∧ ¬ OptionAhead text.toList)

/-- An option that a line can spell. -/
def OptionText (o : String × Option String) : Prop :=
  OptionName o.1.toList ∧ ∀ value ∈ o.2, StringText value

instance (text : String) : Decidable (NameText text) := inferInstanceAs (Decidable (_ ∨ _))

instance (text : String) : Decidable (StringText text) := inferInstanceAs (Decidable (_ ∨ _))

instance (o : String × Option String) : Decidable (OptionText o) :=
  inferInstanceAs (Decidable (_ ∧ _))

/-- A text as a line spells it: between quotes, or as it is if it holds a quote itself. -/
def spell (text : String) : String :=
  if '"' ∈ text.toList then text else "\"" ++ text ++ "\""

/-- An option as a line spells it. -/
def spellOption (o : String × Option String) : String :=
  match o.2 with
  | none => "-" ++ o.1
  | some value => "-" ++ o.1 ++ "=" ++ spell value

/-- A command name, arguments and options as one line, with a space between any two. -/
def printLine (name : String) (arguments : List String)
    (options : List (String × Option String)) : String :=
  " ".intercalate (spell name :: (arguments.map spell ++ options.map spellOption))

/-- The lexeme that spells a text. -/
def lexemeOf (text : String) : Lexeme :=
  if '"' ∈ text.toList then .bare text.toList else .quoted text.toList

/-- The lexeme that spells an option. -/
def optionLexemeOf (o : String × Option String) : OptionLexeme :=
  ⟨o.1.toList, o.2.map fun value => ⟨[], [], lexemeOf value⟩⟩

/-- Spelled tokens, each after a space. -/
def spaced (words : List String) : List Char := words.flatMap fun word => ' ' :: word.toList

@[simp] theorem lexemeOf_text (text : String) : (lexemeOf text).text = text.toList := by
  unfold lexemeOf
  split <;> rfl

@[simp] theorem optionLexemeOf_token (o : String × Option String) :
    (optionLexemeOf o).token = ⟨o.1, o.2⟩ := by
  obtain ⟨name, value⟩ := o
  cases value <;> simp [optionLexemeOf, OptionLexeme.token]

theorem toList_printLine (name : String) (arguments : List String)
    (options : List (String × Option String)) :
    (printLine name arguments options).toList =
      (spell name).toList ++ (spaced (arguments.map spell) ++ spaced (options.map spellOption)) := by
  have hspaced : ∀ (word : String) (words : List String),
      (" ".intercalate (word :: words)).toList = word.toList ++ spaced words := by
    intro word words
    induction words generalizing word with
    | nil => simp [spaced]
    | cons next words ih => simp [String.intercalate_cons_cons, ih, spaced]
  rw [printLine, hspaced]
  simp [spaced]

theorem atGap_spaced (words : List String) (h : AtGap rest) : AtGap (spaced words ++ rest) := by
  cases words with
  | nil => exact h
  | cons word words =>
    intro c hc
    obtain rfl : ' ' = c := by simpa [spaced] using hc
    decide

theorem atGap_spaced_end (words : List String) : AtGap (spaced words) := by
  simpa using atGap_spaced words atGap_nil

theorem nameAt_spell (h : NameText text) (hrest : AtGap rest) :
    NameAt (lexemeOf text) ((spell text).toList ++ rest) rest := by
  unfold lexemeOf spell
  split
  · next hquote =>
    obtain hnone | hbare := h
    · exact absurd hquote hnone
    · exact .bare hbare.nonempty hbare.unquoted hbare.solid hrest
  · next hquote =>
    have hquoted : NameAt _ _ rest := .quoted hquote
    simpa using hquoted

/-- A text that holds a quote further on has its first two characters in front of the rest. -/
theorem optionAhead_append (hquote : '"' ∈ run) (h : OptionAhead (run ++ rest)) :
    OptionAhead run := by
  obtain ⟨c, tail, heq, hletter⟩ := h
  match run, heq with
  | [d], heq =>
    obtain ⟨rfl, _⟩ := List.cons.inj heq
    simp at hquote
  | d :: e :: more, heq =>
    simp only [List.cons_append, List.cons.injEq] at heq
    obtain ⟨rfl, rfl, _⟩ := heq
    exact ⟨e, more, rfl, hletter⟩

theorem stringAt_spell (h : StringText text) (hrest : AtGap rest) :
    StringAt (lexemeOf text) ((spell text).toList ++ rest) rest := by
  constructor
  · obtain hnone | ⟨hbare, _⟩ := h
    · exact nameAt_spell (.inl hnone) hrest
    · exact nameAt_spell (.inr hbare) hrest
  · intro hahead
    unfold spell at hahead
    split at hahead
    · next hquote =>
      obtain hnone | ⟨_, hstring⟩ := h
      · exact hnone hquote
      · exact hstring (optionAhead_append hquote hahead)
    · obtain ⟨c, tail, heq, _⟩ := hahead
      simp at heq

theorem tokensAt_arguments (h : ∀ a ∈ arguments, StringText a) (hrest : AtGap rest) :
    TokensAt StringAt (arguments.map fun a => ⟨[' '], lexemeOf a⟩)
      (spaced (arguments.map spell) ++ rest) rest := by
  induction arguments with
  | nil => exact .done
  | cons a arguments ih =>
    have hmore := ih fun b hb => h b (by simp [hb])
    have htoken := stringAt_spell (h a (by simp)) (atGap_spaced (arguments.map spell) hrest)
    have hgap : Blank [' '] := by simp [Blank]; decide
    simpa [spaced] using TokensAt.next hgap htoken hmore

/-- After a printed flag there comes another option or nothing, and no equals sign. -/
theorem spaced_options_unassigned (options : List (String × Option String)) :
    ∀ gap tail, Blank gap → spaced (options.map spellOption) ≠ gap ++ '=' :: tail := by
  intro gap tail hgap heq
  have hdrop := congrArg (List.dropWhile isBlank) heq
  rw [dropWhile_run hgap solid_assign] at hdrop
  cases options with
  | nil => simp [spaced] at hdrop
  | cons o options =>
    have hhyphen : ∃ more, (spellOption o).toList = '-' :: more := by
      unfold spellOption
      split <;> simp
    obtain ⟨more, hmore⟩ := hhyphen
    have hspace : isBlank ' ' = true := by decide
    have hsolid : isBlank '-' = false := by decide
    simp [spaced, hmore, hspace, hsolid] at hdrop

theorem optionAt_spell {o : String × Option String} (h : OptionText o) (hrest : AtGap rest)
    (unassigned : ∀ gap tail, Blank gap → rest ≠ gap ++ '=' :: tail) :
    OptionAt (optionLexemeOf o) ((spellOption o).toList ++ rest) rest := by
  obtain ⟨hname, hvalue⟩ := h
  obtain ⟨name, value⟩ := o
  cases value with
  | none =>
    have hflag := OptionAt.flag hname hrest unassigned
    simpa [spellOption, optionLexemeOf] using hflag
  | some value =>
    have hblank : Blank [] := by simp [Blank]
    have hassigned := OptionAt.assigned hname hblank hblank
      (stringAt_spell (hvalue value rfl) hrest)
    simpa [spellOption, optionLexemeOf] using hassigned

theorem tokensAt_options (h : ∀ o ∈ options, OptionText o) :
    TokensAt OptionAt (options.map fun o => ⟨[' '], optionLexemeOf o⟩)
      (spaced (options.map spellOption)) [] := by
  induction options with
  | nil => exact .done
  | cons o options ih =>
    have hmore := ih fun p hp => h p (by simp [hp])
    have htoken := optionAt_spell (h o (by simp)) (atGap_spaced_end (options.map spellOption))
      (spaced_options_unassigned options)
    have hgap : Blank [' '] := by simp [Blank]; decide
    simpa [spaced] using TokensAt.next hgap htoken hmore

/-- The segments of a printed line. -/
def segmentsOf (name : String) (arguments : List String)
    (options : List (String × Option String)) : Segments where
  name := ⟨[], lexemeOf name⟩
  operands :=
    { arguments := arguments.map fun a => ⟨[' '], lexemeOf a⟩
      options := options.map fun o => ⟨[' '], optionLexemeOf o⟩
      tail := [] }

/-- A printed line is cut where it was put together. -/
theorem cut_printLine (hname : NameText name) (harguments : ∀ a ∈ arguments, StringText a)
    (hoptions : ∀ o ∈ options, OptionText o) :
    (segmentsOf name arguments options).Cut (printLine name arguments options).toList := by
  have hblank : Blank [] := by simp [Blank]
  have htail := atGap_spaced_end (options.map spellOption)
  rw [toList_printLine]
  refine ⟨_, heads_iff.mpr ⟨_, hblank, rfl, nameAt_spell hname (atGap_spaced _ htail)⟩, ?_⟩
  exact ⟨_, tokensAt_arguments harguments htail, tokensAt_options hoptions, hblank⟩

theorem nameText_of_nameAt (h : NameAt l cs rest) : NameText (String.ofList l.text) := by
  cases h with
  | quoted closed => exact .inl (by simpa [Lexeme.text] using closed)
  | bare nonempty unquoted solid _ =>
    exact .inr ⟨by simpa [Lexeme.text] using nonempty, by simpa [Lexeme.text] using solid,
      by simpa [Lexeme.text] using unquoted⟩

theorem stringText_of_stringAt (h : StringAt l cs rest) : StringText (String.ofList l.text) := by
  obtain ⟨hname, hstring⟩ := h
  obtain hnone | hbare := nameText_of_nameAt hname
  · exact .inl hnone
  · cases hname with
    | quoted closed => exact .inl (by simpa [Lexeme.text] using closed)
    | @bare run rest _ _ _ _ =>
      refine .inr ⟨hbare, ?_⟩
      rintro ⟨c, tail, heq, hletter⟩
      have hrun : run = '-' :: c :: tail := by simpa [Lexeme.text] using heq
      exact hstring ⟨c, tail ++ rest, by rw [hrun]; rfl, hletter⟩

theorem optionText_of_optionAt (h : OptionAt o cs rest) :
    OptionText (o.token.name, o.token.value) := by
  cases h with
  | flag named _ _ => exact ⟨by simpa [OptionLexeme.token] using named, by simp [OptionLexeme.token]⟩
  | assigned named _ _ hvalue =>
    refine ⟨by simpa [OptionLexeme.token] using named, ?_⟩
    intro value hmem
    obtain rfl : String.ofList _ = value := by simpa [OptionLexeme.token] using hmem
    exact stringText_of_stringAt hvalue

end LineShell.Line
