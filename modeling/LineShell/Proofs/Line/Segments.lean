import LineShell.Proofs.Line.Grammar

/-! Lines cut into tokens: a command name, then arguments, then options, with white space before
each and after the last. No line can be cut in two ways. -/
namespace LineShell.Line

open LineShell.Text

/-- A token and the white space before it. -/
structure Spaced (α : Type) where
  gap : List Char
  token : α

section Tokens

variable {α : Type} {At : α → List Char → List Char → Prop} {a : α} {cs mid rest rest' : List Char}
  {ts ts' : List (Spaced α)}

/-- What is asked of a kind of token: it starts with no white space, and a text holds at most one
token at its front. -/
structure TokenKind (At : α → List Char → List Char → Prop) : Prop where
  starts : ∀ {a cs rest}, At a cs rest → ∃ c tail, cs = c :: tail ∧ isBlank c = false
  unique : ∀ {a a' cs rest rest'}, At a cs rest → At a' cs rest' → a = a' ∧ rest = rest'

/-- Tokens one after the other at the front of a text. -/
inductive TokensAt (At : α → List Char → List Char → Prop) :
    List (Spaced α) → List Char → List Char → Prop
  | done {cs : List Char} : TokensAt At [] cs cs
  | next {gap cs mid rest : List Char} {a : α} {ts : List (Spaced α)} (hgap : Blank gap)
      (htoken : At a cs mid) (hmore : TokensAt At ts mid rest) :
      TokensAt At (⟨gap, a⟩ :: ts) (gap ++ cs) rest

/-- A token comes next, perhaps after white space. -/
def TokenAhead (At : α → List Char → List Char → Prop) (cs : List Char) : Prop :=
  ∃ gap a text rest, Blank gap ∧ cs = gap ++ text ∧ At a text rest

/-- All tokens of a kind at the front of a text, as far as they go. -/
structure TokenRun (At : α → List Char → List Char → Prop) (ts : List (Spaced α))
    (cs rest : List Char) : Prop where
  tokens : TokensAt At ts cs rest
  maximal : ¬ TokenAhead At rest

theorem TokenKind.solid (hk : TokenKind At) (h : At a cs rest) :
    ∀ c ∈ cs.head?, isBlank c = false := by
  obtain ⟨c, tail, rfl, hc⟩ := hk.starts h
  intro d hd
  obtain rfl : c = d := by simpa using hd
  exact hc

theorem not_tokenAhead_of_blank (hk : TokenKind At) (hblank : Blank cs) : ¬ TokenAhead At cs := by
  rintro ⟨gap, a, text, rest, _, rfl, h⟩
  obtain ⟨c, tail, rfl, hc⟩ := hk.starts h
  have hb := hblank c (by simp)
  rw [hc] at hb
  cases hb

/-- As far as tokens go, they are the first of all tokens of their kind, and the others follow. -/
theorem TokenRun.split (hk : TokenKind At) (hrun : TokenRun At ts' cs rest')
    (h : TokensAt At ts cs rest) : ∃ more, ts' = ts ++ more ∧ TokenRun At more rest rest' := by
  induction h generalizing ts' with
  | done => exact ⟨ts', rfl, hrun⟩
  | @next gap cs mid rest a ts hgap htoken _ ih =>
    obtain ⟨htokens, hmaximal⟩ := hrun
    generalize hcs : gap ++ cs = text at htokens
    cases htokens with
    | done => exact absurd ⟨_, _, _, _, hgap, hcs.symm, htoken⟩ hmaximal
    | next hgap' htoken' hmore' =>
      obtain ⟨rfl, rfl⟩ :=
        blank_append_unique hgap hgap' (hk.solid htoken) (hk.solid htoken') hcs
      obtain ⟨rfl, rfl⟩ := hk.unique htoken htoken'
      obtain ⟨more, rfl, hmore⟩ := ih ⟨hmore', hmaximal⟩
      exact ⟨more, rfl, hmore⟩

/-- Tokens that no further token follows are determined by their text. -/
theorem TokenRun.unique (hk : TokenKind At) (h : TokenRun At ts cs rest)
    (h' : TokenRun At ts' cs rest') : ts = ts' ∧ rest = rest' := by
  obtain ⟨more, rfl, hmore⟩ := h'.split hk h.tokens
  cases hmore.tokens with
  | done => exact ⟨(List.append_nil ts).symm, rfl⟩
  | next hgap htoken _ => exact absurd ⟨_, _, _, _, hgap, rfl, htoken⟩ h.maximal

/-- Tokens that take up space come to an end. -/
theorem tokenRun_exists (hspace : ∀ {a cs rest}, At a cs rest → rest.length < cs.length)
    (cs : List Char) : ∃ ts rest, TokenRun At ts cs rest := by
  induction hlength : cs.length using Nat.strong_induction_on generalizing cs with
  | _ n ih =>
    by_cases hahead : TokenAhead At cs
    · obtain ⟨gap, a, text, mid, hgap, rfl, htoken⟩ := hahead
      have hshorter := hspace htoken
      rw [List.length_append] at hlength
      obtain ⟨ts, rest, hrun⟩ := ih mid.length (by omega) mid rfl
      exact ⟨_, rest, .next hgap htoken hrun.tokens, hrun.maximal⟩
    · exact ⟨[], cs, .done, hahead⟩

end Tokens

theorem nameAt_shorter {l : Lexeme} {cs rest : List Char} (h : NameAt l cs rest) :
    rest.length < cs.length := by
  cases h with
  | quoted =>
    simp only [List.length_cons, List.length_append]
    omega
  | bare nonempty =>
    rw [List.length_append]
    exact Nat.lt_add_of_pos_left (List.length_pos_iff.mpr nonempty)

theorem stringAt_shorter {l : Lexeme} {cs rest : List Char} (h : StringAt l cs rest) :
    rest.length < cs.length := nameAt_shorter h.1

theorem optionAt_shorter {o : OptionLexeme} {cs rest : List Char} (h : OptionAt o cs rest) :
    rest.length < cs.length := by
  rw [optionAt_spelling h, List.length_append]
  simp only [OptionLexeme.spelling, List.length_cons, List.length_append]
  omega

theorem nameAt_kind : TokenKind NameAt where
  starts := by
    intro l cs rest h
    cases hcs : cs with
    | nil => exact absurd hcs (nameAt_ne_nil h)
    | cons c tail => exact ⟨c, tail, rfl, nameAt_solid h c (by simp [hcs])⟩
  unique := nameAt_unique

theorem stringAt_kind : TokenKind StringAt where
  starts h := nameAt_kind.starts h.1
  unique h h' := nameAt_unique h.1 h'.1

theorem optionAt_kind : TokenKind OptionAt where
  starts := by
    intro o cs rest h
    obtain ⟨c, tail, rfl, _⟩ := optionAhead_of_optionAt h
    exact ⟨'-', c :: tail, rfl, rfl⟩
  unique := optionAt_unique

/-- What stands behind a command name: arguments, options, and white space at the end. -/
structure Operands where
  arguments : List (Spaced Lexeme)
  options : List (Spaced OptionLexeme)
  tail : List Char

/-- The operands make up a text. -/
def Operands.Cut (d : Operands) (text : List Char) : Prop :=
  ∃ mid, TokensAt StringAt d.arguments text mid ∧ TokensAt OptionAt d.options mid d.tail ∧
    Blank d.tail

/-- The tokens of a line. -/
structure Segments where
  name : Spaced Lexeme
  operands : Operands

/-- The command name of the segments starts a line, and a text follows it. -/
def Spaced.Heads (name : Spaced Lexeme) (line text : List Char) : Prop :=
  TokensAt NameAt [name] line text

/-- The segments make up a line. -/
def Segments.Cut (d : Segments) (line : List Char) : Prop :=
  ∃ text, d.name.Heads line text ∧ d.operands.Cut text

variable {cs text text' line : List Char} {os : List (Spaced OptionLexeme)}

/-- Where options end a text no argument comes next. -/
theorem not_stringAhead_of_options (h : TokensAt OptionAt os cs text) (hblank : Blank text) :
    ¬ TokenAhead StringAt cs := by
  cases h with
  | done => exact not_tokenAhead_of_blank stringAt_kind hblank
  | next hgap htoken _ =>
    rintro ⟨gap, l, text, rest, hgap', heq, hstring⟩
    obtain ⟨rfl, rfl⟩ := blank_append_unique hgap hgap' (optionAt_kind.solid htoken)
      (stringAt_kind.solid hstring) heq
    exact hstring.2 (optionAhead_of_optionAt htoken)

theorem Operands.Cut.unique {d d' : Operands} (h : d.Cut text) (h' : d'.Cut text) : d = d' := by
  obtain ⟨mid, hargs, hopts, hblank⟩ := h
  obtain ⟨mid', hargs', hopts', hblank'⟩ := h'
  obtain ⟨harguments, rfl⟩ := TokenRun.unique stringAt_kind
    ⟨hargs, not_stringAhead_of_options hopts hblank⟩
    ⟨hargs', not_stringAhead_of_options hopts' hblank'⟩
  obtain ⟨hoptions, htail⟩ := TokenRun.unique optionAt_kind
    ⟨hopts, not_tokenAhead_of_blank optionAt_kind hblank⟩
    ⟨hopts', not_tokenAhead_of_blank optionAt_kind hblank'⟩
  cases d
  cases d'
  simp_all

theorem heads_iff {name : Spaced Lexeme} : name.Heads line text ↔
    ∃ cs, Blank name.gap ∧ line = name.gap ++ cs ∧ NameAt name.token cs text := by
  constructor
  · intro h
    cases h with
    | next hgap htoken hmore =>
      cases hmore with
      | done => exact ⟨_, hgap, rfl, htoken⟩
  · rintro ⟨cs, hgap, rfl, htoken⟩
    exact .next hgap htoken .done

theorem tokensAt_of_heads {name : Spaced Lexeme} {ts : List (Spaced Lexeme)} {rest : List Char}
    (h : name.Heads line text) (hmore : TokensAt NameAt ts text rest) :
    TokensAt NameAt (name :: ts) line rest := by
  obtain ⟨cs, hgap, rfl, htoken⟩ := heads_iff.mp h
  exact .next hgap htoken hmore

/-- Leading white space does not matter to what heads a line. -/
theorem heads_of_dropWhile {name : Spaced Lexeme} (h : name.Heads (cs.dropWhile isBlank) text) :
    ∃ name' : Spaced Lexeme, name'.Heads cs text := by
  obtain ⟨word, hgap, hword, htoken⟩ := heads_iff.mp h
  refine ⟨⟨cs.takeWhile isBlank ++ name.gap, name.token⟩, heads_iff.mpr ⟨word, ?_, ?_, htoken⟩⟩
  · intro c hc
    exact (List.mem_append.mp hc).elim (blank_takeWhile cs c) (hgap c)
  · rw [List.append_assoc, ← hword]
    exact eq_takeWhile_append _ cs

theorem heads_unique {name name' : Spaced Lexeme} (h : name.Heads line text)
    (h' : name'.Heads line text') : name = name' ∧ text = text' := by
  obtain ⟨cs, hgap, rfl, htoken⟩ := heads_iff.mp h
  obtain ⟨cs', hgap', heq, htoken'⟩ := heads_iff.mp h'
  obtain ⟨hgaps, rfl⟩ := blank_append_unique hgap hgap' (nameAt_solid htoken)
    (nameAt_solid htoken') heq
  obtain ⟨htokens, rfl⟩ := nameAt_unique htoken htoken'
  cases name
  cases name'
  simp_all

theorem Segments.Cut.unique {d d' : Segments} (h : d.Cut line) (h' : d'.Cut line) : d = d' := by
  obtain ⟨text, hname, hoperands⟩ := h
  obtain ⟨text', hname', hoperands'⟩ := h'
  obtain ⟨heq, rfl⟩ := heads_unique hname hname'
  have := hoperands.unique hoperands'
  cases d
  cases d'
  simp_all

end LineShell.Line
