import LineShell.Proofs.Line.Segments
import Mathlib.Data.List.Chain

/-! White space between tokens. Two tokens stand apart if there is white space between them, or if a
closing quote ends the first. Main statement: tokens each of which could stand alone make up a line
exactly if any two that follow one another stand apart. -/
namespace LineShell.Line

open LineShell.Text

variable {α β : Type} {At : α → List Char → List Char → Prop} {AtB : β → List Char → List Char → Prop}
  {cs mid rest tail : List Char} {l : Lexeme} {o : OptionLexeme} {t : Token} {d : Segments}

/-- A token of a line: a string, which is its command name or an argument, or an option. -/
inductive Token
  | string (l : Lexeme)
  | option (o : OptionLexeme)

/-- The characters of the line that make up a token. -/
def Token.spelling : Token → List Char
  | string l => l.spelling
  | option o => o.spelling

/-- Whether a closing quote ends a token. -/
def Token.isClosed : Token → Bool
  | string (.quoted _) => true
  | option ⟨_, some ⟨_, _, .quoted _⟩⟩ => true
  | _ => false

/-- A token at the front of a text, and what follows it. -/
def TokenAt : Token → List Char → List Char → Prop
  | .string l => NameAt l
  | .option o => OptionAt o

/-- Another token after the same white space. -/
def Spaced.map (f : α → β) (t : Spaced α) : Spaced β := ⟨t.gap, f t.token⟩

/-- White space stands between two tokens, or a closing quote ends the first. -/
def Apart (t u : Spaced Token) : Prop := u.gap ≠ [] ∨ t.token.isClosed = true

instance (t u : Spaced Token) : Decidable (Apart t u) := inferInstanceAs (Decidable (_ ∨ _))

/-- The tokens behind a command name in order. -/
def Operands.tokens (d : Operands) : List (Spaced Token) :=
  d.arguments.map (Spaced.map .string) ++ d.options.map (Spaced.map .option)

/-- The tokens of a line in order. -/
def Segments.tokens (d : Segments) : List (Spaced Token) :=
  d.name.map .string :: d.operands.tokens

/-- What tokens spell, each after its white space, in front of a text. -/
def spellTokens (ts : List (Spaced Token)) (rest : List Char) : List Char :=
  ts.foldr (fun t more => t.gap ++ (t.token.spelling ++ more)) rest

/-- The line that the segments spell. -/
def Segments.spelling (d : Segments) : List Char := spellTokens d.tokens d.operands.tail

/-- A token behind white space, if any, which could be read if nothing followed. -/
structure Alone (At : α → List Char → List Char → Prop) (spelling : α → List Char) (t : Spaced α) :
    Prop where
  gap : Blank t.gap
  token : At t.token (spelling t.token) []

/-- Each token of the segments could stand alone. -/
structure Segments.Spelled (d : Segments) : Prop where
  name : Alone NameAt Lexeme.spelling d.name
  arguments : ∀ t ∈ d.operands.arguments, Alone StringAt Lexeme.spelling t
  options : ∀ t ∈ d.operands.options, Alone OptionAt OptionLexeme.spelling t
  tail : Blank d.operands.tail

/-- A token could stand alone exactly if its reader takes all that it spells. -/
theorem alone_iff {read? : List Char → Option α} {spelling : α → List Char}
    (hread : ∀ {a cs}, read? cs = some a ↔ ∃ rest, At a cs rest)
    (hspell : ∀ {a cs rest}, At a cs rest → cs = spelling a ++ rest) (t : Spaced α) :
    t.gap.all isBlank = true ∧ read? (spelling t.token) = some t.token ↔ Alone At spelling t := by
  constructor
  · rintro ⟨hgap, htoken⟩
    obtain ⟨rest, htoken⟩ := hread.mp htoken
    obtain rfl := List.self_eq_append_right.mp (hspell htoken)
    exact ⟨List.all_eq_true.mp hgap, htoken⟩
  · rintro ⟨hgap, htoken⟩
    exact ⟨List.all_eq_true.mpr hgap, hread.mpr ⟨[], htoken⟩⟩

instance (t : Spaced Lexeme) : Decidable (Alone NameAt Lexeme.spelling t) :=
  decidable_of_iff _ (alone_iff readName?_iff nameAt_spelling t)

instance (t : Spaced Lexeme) : Decidable (Alone StringAt Lexeme.spelling t) :=
  decidable_of_iff _ (alone_iff readString?_iff (fun h => nameAt_spelling h.1) t)

instance (t : Spaced OptionLexeme) : Decidable (Alone OptionAt OptionLexeme.spelling t) :=
  decidable_of_iff _ (alone_iff readOption?_iff optionAt_spelling t)

instance (d : Segments) : Decidable d.Spelled :=
  decidable_of_iff (Alone NameAt Lexeme.spelling d.name ∧
    (∀ t ∈ d.operands.arguments, Alone StringAt Lexeme.spelling t) ∧
    (∀ t ∈ d.operands.options, Alone OptionAt OptionLexeme.spelling t) ∧
    d.operands.tail.all isBlank = true)
    ⟨fun h => ⟨h.1, h.2.1, h.2.2.1, List.all_eq_true.mp h.2.2.2⟩,
      fun h => ⟨h.name, h.arguments, h.options, List.all_eq_true.mpr h.tail⟩⟩

theorem TokensAt.map {f : α → β} {ts : List (Spaced α)} (h : TokensAt At ts cs rest)
    (hf : ∀ {a cs rest}, At a cs rest → AtB (f a) cs rest) :
    TokensAt AtB (ts.map (Spaced.map f)) cs rest := by
  induction h with
  | done => exact .done
  | next hgap htoken _ ih => exact .next hgap (hf htoken) ih

theorem TokensAt.append {ts us : List (Spaced α)} (h : TokensAt At ts cs mid)
    (hmore : TokensAt At us mid rest) : TokensAt At (ts ++ us) cs rest := by
  induction h with
  | done => exact hmore
  | next hgap htoken _ ih => exact .next hgap htoken (ih hmore)

theorem Segments.Cut.tokensAt {line : List Char} (h : d.Cut line) :
    TokensAt TokenAt d.tokens line d.operands.tail := by
  obtain ⟨text, hname, mid, harguments, hoptions, _⟩ := h
  have hname' : TokensAt TokenAt ([d.name].map (Spaced.map .string)) line text :=
    hname.map fun h => h
  have harguments' : TokensAt TokenAt (d.operands.arguments.map (Spaced.map .string)) text mid :=
    harguments.map fun h => h.1
  have hoptions' : TokensAt TokenAt (d.operands.options.map (Spaced.map .option)) mid _ :=
    hoptions.map fun h => h
  exact hname'.append (harguments'.append hoptions')

theorem tokenAt_solid (h : TokenAt t cs rest) : ∃ c ∈ cs.head?, isBlank c = false := by
  cases t with
  | string l =>
    obtain ⟨c, tail, rfl, hc⟩ := nameAt_kind.starts h
    exact ⟨c, rfl, hc⟩
  | option o =>
    obtain ⟨c, tail, rfl, hc⟩ := optionAt_kind.starts h
    exact ⟨c, rfl, hc⟩

/-- A token that no closing quote ends goes on to the next white space. -/
theorem closed_or_atGap (h : TokenAt t cs rest) : t.isClosed = true ∨ AtGap rest := by
  cases t with
  | string l =>
    cases h with
    | quoted => exact .inl rfl
    | bare _ _ _ maximal => exact .inr maximal
  | option o =>
    cases h with
    | flag _ maximal _ => exact .inr maximal
    | assigned _ _ _ hvalue =>
      cases hvalue.1 with
      | quoted => exact .inl rfl
      | bare _ _ _ maximal => exact .inr maximal

/-- Tokens that are read one after the other stand apart. -/
theorem apart_of_tokensAt {ts : List (Spaced Token)} (h : TokensAt TokenAt ts cs rest) :
    ts.IsChain Apart := by
  induction h with
  | done => exact .nil
  | next hgap htoken hmore ih =>
    cases hmore with
    | done => exact .singleton _
    | @next gap _ _ _ _ _ _ htoken' _ =>
      refine .cons_cons ?_ ih
      rcases closed_or_atGap htoken with hclosed | hstop
      · exact .inr hclosed
      · refine .inl ?_
        rintro rfl
        obtain ⟨c, hc, hsolid⟩ := tokenAt_solid htoken'
        rw [hstop c hc] at hsolid
        cases hsolid

theorem atGap_of_blank (h : Blank cs) : AtGap cs := fun c hc => h c (List.mem_of_mem_head? hc)

/-- What follows a token in a line of tokens that stand apart. -/
theorem closed_or_atGap_spell {t : Spaced Token} {ts : List (Spaced Token)}
    (hchain : (t :: ts).IsChain Apart) (hgaps : ∀ u ∈ ts, Blank u.gap) (htail : Blank tail) :
    t.token.isClosed = true ∨ AtGap (spellTokens ts tail) := by
  cases ts with
  | nil => exact .inr (atGap_of_blank htail)
  | cons u us =>
    rcases (List.isChain_cons_cons.mp hchain).1 with hgap | hclosed
    · refine .inr fun c hc => ?_
      obtain ⟨d, more, hd⟩ := List.exists_cons_of_ne_nil hgap
      have hblank := hgaps u List.mem_cons_self d (hd ▸ List.mem_cons_self)
      rw [spellTokens, List.foldr_cons, hd] at hc
      obtain rfl := Option.some.inj hc
      exact hblank
    · exact .inl hclosed

theorem nameAt_before (halone : NameAt l l.spelling [])
    (hstop : (Token.string l).isClosed = true ∨ AtGap rest) :
    NameAt l (l.spelling ++ rest) rest := by
  generalize hcs : l.spelling = cs at halone
  cases halone with
  | @quoted body _ closed => simpa using NameAt.quoted closed
  | bare nonempty unquoted solid _ =>
    rcases hstop with hclosed | hgap
    · cases hclosed
    · simpa using NameAt.bare nonempty unquoted solid hgap

/-- What follows a string makes no option of it. -/
theorem optionAhead_of_append (hname : NameAt l l.spelling [])
    (hstop : (Token.string l).isClosed = true ∨ AtGap rest) (h : OptionAhead (l.spelling ++ rest)) :
    OptionAhead l.spelling := by
  obtain ⟨c, tail, heq, hletter⟩ := h
  cases l with
  | quoted body => cases heq
  | bare run =>
    match run, heq with
    | [], _ => exact absurd rfl (nameAt_ne_nil hname)
    | [_], heq =>
      obtain ⟨_, rfl⟩ : _ ∧ rest = c :: tail := List.cons.inj heq
      have hblank := hstop.resolve_left Bool.false_ne_true c rfl
      rw [isBlank_of_isLetter hletter] at hblank
      cases hblank
    | _ :: e :: more, heq =>
      simp only [Lexeme.spelling, List.cons_append, List.cons.injEq] at heq
      obtain ⟨rfl, rfl, _⟩ := heq
      exact ⟨_, _, rfl, hletter⟩

theorem stringAt_before (halone : StringAt l l.spelling [])
    (hstop : (Token.string l).isClosed = true ∨ AtGap rest) :
    StringAt l (l.spelling ++ rest) rest :=
  ⟨nameAt_before halone.1 hstop, fun h => halone.2 (optionAhead_of_append halone.1 hstop h)⟩

/-- No equals sign comes next, even across white space. -/
def Unassigned (rest : List Char) : Prop := ∀ gap tail, Blank gap → rest ≠ gap ++ '=' :: tail

theorem optionAt_before (halone : OptionAt o o.spelling [])
    (hstop : (Token.option o).isClosed = true ∨ AtGap rest) (hrest : Unassigned rest) :
    OptionAt o (o.spelling ++ rest) rest := by
  generalize hcs : o.spelling = cs at halone
  cases halone with
  | @flag name _ named _ _ =>
    rcases hstop with hclosed | hgap
    · cases hclosed
    · simpa using OptionAt.flag named hgap hrest
  | @assigned name before after text _ value named hbefore hafter hvalue =>
    have htext : text = value.spelling := by simpa using nameAt_spelling hvalue.1
    have hstop' : (Token.string value).isClosed = true ∨ AtGap rest := by
      cases value with
      | quoted => exact .inl rfl
      | bare => exact hstop
    have hvalue' := stringAt_before (htext ▸ hvalue) hstop'
    simpa [htext] using OptionAt.assigned named hbefore hafter hvalue'

/-- Tokens of a kind that stand apart are read one after the other, if each could stand alone and can
stand before what a further token of the kind leaves behind it. -/
theorem tokensAt_of_apart {f : α → Token} {ts : List (Spaced α)} (Before : List Char → Prop)
    (later : List (Spaced Token))
    (hfits : ∀ {a rest}, At a (f a).spelling [] → (f a).isClosed = true ∨ AtGap rest →
      Before rest → At a ((f a).spelling ++ rest) rest)
    (hmore : ∀ {gap a rest}, Blank gap → At a (f a).spelling [] →
      Before (gap ++ ((f a).spelling ++ rest)))
    (halone : ∀ t ∈ ts, Alone At (fun a => (f a).spelling) t)
    (hchain : (ts.map (Spaced.map f) ++ later).IsChain Apart)
    (hlater : ∀ u ∈ later, Blank u.gap) (htail : Blank tail)
    (hend : Before (spellTokens later tail)) :
    TokensAt At ts (spellTokens (ts.map (Spaced.map f) ++ later) tail) (spellTokens later tail) := by
  induction ts with
  | nil => exact .done
  | cons t ts ih =>
    obtain ⟨⟨hgap, htoken⟩, halone⟩ := List.forall_mem_cons.mp halone
    have hgaps : ∀ u ∈ ts.map (Spaced.map f) ++ later, Blank u.gap := by
      refine List.forall_mem_append.mpr ⟨?_, hlater⟩
      exact List.forall_mem_map.mpr fun u hu => (halone u hu).gap
    have hbefore : Before (spellTokens (ts.map (Spaced.map f) ++ later) tail) := by
      cases ts with
      | nil => exact hend
      | cons u us =>
        obtain ⟨hu, -⟩ := List.forall_mem_cons.mp halone
        exact hmore hu.gap hu.token
    have hstop := closed_or_atGap_spell hchain hgaps htail
    exact .next hgap (hfits htoken hstop hbefore) (ih halone hchain.tail)

theorem blank_gap_of_alone {f : α → Token} {spelling : α → List Char} {ts : List (Spaced α)}
    (h : ∀ t ∈ ts, Alone At spelling t) : ∀ u ∈ ts.map (Spaced.map f), Blank u.gap :=
  List.forall_mem_map.mpr fun t ht => (h t ht).gap

/-- An option is no equals sign. -/
theorem unassigned_option {gap : List Char} (hgap : Blank gap) :
    Unassigned (gap ++ (o.spelling ++ rest)) := by
  intro gap' tail hgap' heq
  have hsolid : ∀ c ∈ (o.spelling ++ rest).head?, isBlank c = false := by
    rintro _ ⟨⟩
    decide
  obtain ⟨_, htail⟩ := blank_append_unique hgap hgap' hsolid solid_assign heq
  cases htail

theorem unassigned_of_blank (h : Blank tail) : Unassigned tail := by
  rintro gap tail' _ rfl
  exact absurd (h '=' (by simp)) (by decide)

/-- Tokens each of which could stand alone make up a line exactly if they stand apart. -/
theorem cut_spelling_iff (h : d.Spelled) : d.Cut d.spelling ↔ d.tokens.IsChain Apart := by
  refine ⟨fun hcut => apart_of_tokensAt hcut.tokensAt, fun hchain => ?_⟩
  obtain ⟨hname, harguments, hoptions, htail⟩ := h
  have hchain' : d.operands.tokens.IsChain Apart := hchain.tail
  have hgaps := blank_gap_of_alone (f := Token.option) hoptions
  have hgaps' : ∀ u ∈ d.operands.tokens, Blank u.gap :=
    List.forall_mem_append.mpr ⟨blank_gap_of_alone (f := Token.string) harguments, hgaps⟩
  -- each part is read up to the text that the parts behind it spell
  have hoptions' := tokensAt_of_apart Unassigned [] optionAt_before
    (fun hgap _ => unassigned_option hgap) hoptions
    (by simpa using hchain'.right_of_append) (by simp) htail (unassigned_of_blank htail)
  rw [List.append_nil] at hoptions'
  have harguments' := tokensAt_of_apart (fun _ => True) _
    (fun h hstop _ => stringAt_before h hstop) (fun _ _ => trivial) harguments hchain' hgaps htail
    trivial
  have hname' := tokensAt_of_apart (fun _ => True) _
    (fun h hstop _ => nameAt_before h hstop) (fun _ _ => trivial)
    (List.forall_mem_singleton.mpr hname) hchain hgaps' htail trivial
  exact ⟨_, hname', _, harguments', hoptions', htail⟩

end LineShell.Line
