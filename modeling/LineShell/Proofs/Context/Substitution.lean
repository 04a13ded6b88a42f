import LineShell.Proofs.Context.RoundTrip

/-! References where they are read. A token that refers to a bound variable stands for the value as
a whole: the value is taken as the command name, as one argument or as the value of one option, and
reading goes on behind the token. -/
namespace LineShell

open LineShell.Line LineShell.Text

variable {bindings : NameMap String} {value name : String} {l : Lexeme} {rest : List Char}

theorem reference?_dollar (h : name ≠ "") : reference? ("$" ++ name) = some name := by
  obtain ⟨c, cs, hname⟩ := List.exists_cons_of_ne_nil (mt String.toList_eq_nil_iff.mp h)
  have htoken : ("$" ++ name).toList = '$' :: c :: cs := by rw [String.toList_append, hname]; rfl
  rw [reference?, htoken, ← String.ofList_toList (s := name), hname]
  rfl

theorem lookUp_dollar (h : name ≠ "") (hfind : bindings.find? name = some value) :
    lookUp bindings ("$" ++ name) = .ok value := by
  rw [lookUp, reference?_dollar h]
  dsimp only
  rw [hfind]

/-- A scanner stands on the same line as another one, behind what comes before a text and behind the
white space that the text starts with. -/
def Past (s : Scanner) (rest : List Char) (u : Scanner) : Prop :=
  u.source = s.source ∧ u.rest = rest.dropWhile isBlank

/-- Wherever a token comes next, a value is taken in its place, and reading goes on behind the
token: nothing of the value is read again. -/
structure TakenAs (bindings : NameMap String) (l : Lexeme) (value : String) : Prop where
  name : ∀ {c : Context} {s : Scanner} {rest : List Char}, c.bindings = bindings →
    NameAt l s.rest rest → ∃ u, Past s rest u ∧ c.readName s = (true, c.named u value)
  argument : ∀ {s : Scanner} {rest : List Char}, StringAt l s.rest rest → ∃ u, Past s rest u ∧
    scanArguments bindings s = { scanArguments bindings u with
      arguments := value :: (scanArguments bindings u).arguments }
  option : ∀ {s : Scanner} {o : OptionLexeme} {a : Assignment} {rest : List Char},
    OptionAt o s.rest rest → o.assignment = some a → a.value = l → ∃ u, Past s rest u ∧
      scanOptions bindings s = { scanOptions bindings u with
        options := (String.ofList o.name, some value) :: (scanOptions bindings u).options }

theorem past_skipBlanks {s : Scanner} {spelling : List Char} (h : s.rest = spelling ++ rest) :
    Past s rest (s.advance spelling.length).skipBlanks := by
  refine ⟨rfl, ?_⟩
  rw [Scanner.skipBlanks_rest, Scanner.advance_rest h]

theorem takenAs_of_lookUp (h : lookUp bindings (String.ofList l.text) = .ok value) :
    TakenAs bindings l value where
  name := by
    rintro c s rest rfl htoken
    have hread : s.name? = some (s.accept l) := by
      rw [Scanner.name?, readName?_iff.mpr ⟨rest, htoken⟩]
      rfl
    refine ⟨_, past_skipBlanks (nameAt_spelling htoken), ?_⟩
    simp only [Context.readName, hread, Scanner.accept, Context.substitute, h]
    rfl
  argument := by
    intro s rest htoken
    have hread : s.string? = some (s.accept l) := by
      rw [Scanner.string?, readString?_iff.mpr ⟨rest, htoken⟩]
      rfl
    refine ⟨_, past_skipBlanks (nameAt_spelling htoken.1), ?_⟩
    rw [scanArguments]
    split
    · next hnone => rw [hread] at hnone; cases hnone
    · next token t hsome =>
      obtain ⟨rfl, rfl⟩ := Prod.mk.inj (Option.some.inj (hsome.symm.trans hread))
      rw [h]
  option := by
    intro s o a rest htoken ha hvalue
    have hread : s.option? = some (o.token, s.advance o.spelling.length) := by
      rw [Scanner.option?, readOption?_iff.mpr ⟨rest, htoken⟩]
      rfl
    refine ⟨_, past_skipBlanks (optionAt_spelling htoken), ?_⟩
    rw [scanOptions]
    split
    · next hnone => rw [hread] at hnone; cases hnone
    · next token t hsome =>
      obtain ⟨rfl, rfl⟩ := Prod.mk.inj (Option.some.inj (hsome.symm.trans hread))
      simp only [optionOf, OptionLexeme.token, ha, hvalue, Option.map_some, h, Except.map]

theorem stringAt_quoted {body : List Char} (closed : '"' ∉ body) (rest : List Char) :
    StringAt (.quoted body) ('"' :: (body ++ '"' :: rest)) rest := by
  refine ⟨.quoted closed, ?_⟩
  rintro ⟨c, tail, heq, _⟩
  cases heq

/-- A word that starts with a dollar sign is read as it stands. -/
theorem stringAt_dollar {run : List Char} (solid : ∀ c ∈ run, isBlank c = false)
    (maximal : AtGap rest) : StringAt (.bare ('$' :: run)) ('$' :: (run ++ rest)) rest := by
  refine ⟨.bare (List.cons_ne_nil _ _) (by simp) ?_ maximal, ?_⟩
  · exact List.forall_mem_cons.mpr ⟨by decide, solid⟩
  · rintro ⟨c, tail, heq, _⟩
    cases heq

end LineShell
