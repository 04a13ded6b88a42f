import LineShell.Proofs.Context.Scanning
import LineShell.Proofs.Line.Checkpoint

/-! Reading makes progress. An argument and an option never start at the same place, where neither
does is known from the text alone, and what is read moves the cursor on. So the scans of arguments
and options come to an end, after no more rounds than there are characters. -/
namespace LineShell

open LineShell.Line LineShell.Text

namespace Line

variable {cs tail front back : List Char} {c : Char} {s : Scanner} {l : Lexeme} {o : OptionLexeme}

/-- A quote that is not closed. -/
def OpenQuote (cs : List Char) : Prop := ∃ tail, cs = '"' :: tail ∧ '"' ∉ tail

/-- An option that assigns a value which is none: no string stands behind the equals sign. -/
inductive Valueless : List Char → Prop
  | intro {name before after text : List Char} (named : OptionName name) (hbefore : Blank before)
      (hafter : Blank after) (solid : ∀ c ∈ text.head?, isBlank c = false)
      (hnone : ∀ value rest, ¬ StringAt value text rest) :
      Valueless ('-' :: (name ++ (before ++ '=' :: (after ++ text))))

/-- Where neither an argument nor an option can be read: at the end, at white space, at a quote that
is not closed, and at an option that assigns no value. -/
inductive Stuck : List Char → Prop
  | ended : Stuck []
  | blank {c : Char} {tail : List Char} (hc : isBlank c = true) : Stuck (c :: tail)
  | openQuote {cs : List Char} (h : OpenQuote cs) : Stuck cs
  | valueless {cs : List Char} (h : Valueless cs) : Stuck cs

/-- A letter is a character of the name that it starts. -/
theorem isOptionNameChar_of_isLetter (h : isLetter c = true) : isOptionNameChar c = true := by
  have hassign : c ≠ '=' := by
    rintro rfl
    exact absurd h (by decide)
  simp [isOptionNameChar, isBlank_of_isLetter h, hassign]

theorem not_optionAhead_of_atGap (h : AtGap cs) : ¬ OptionAhead cs := by
  rintro ⟨c, tail, rfl, _⟩
  exact absurd (h '-' rfl) (by decide)

theorem not_optionAhead_of_openQuote (h : OpenQuote cs) : ¬ OptionAhead cs := by
  obtain ⟨tail, rfl, _⟩ := h
  rintro ⟨c, rest, heq, _⟩
  cases heq

theorem readQuoted?_eq_none_iff : readQuoted? ('"' :: tail) = none ↔ '"' ∉ tail := by
  constructor
  · intro h hmem
    obtain ⟨body, rest, rfl, hbody⟩ := List.eq_append_cons_of_mem hmem
    rw [readQuoted?_of_closed hbody] at h
    cases h
  · intro hopen
    rw [Option.eq_none_iff_forall_ne_some]
    intro l hread
    obtain ⟨rest, hname⟩ := nameAt_of_readQuoted? hread
    generalize hcs : '"' :: tail = cs at hname
    cases hname with
    | quoted => exact hopen (by simp [(List.cons.inj hcs).2])
    | bare nonempty unquoted =>
      obtain ⟨c, run, rfl⟩ := List.exists_cons_of_ne_nil nonempty
      exact unquoted (congrArg some (List.cons.inj hcs).1.symm)

theorem readBare?_eq_none_iff : readBare? cs = none ↔ AtGap cs := by
  cases cs with
  | nil => simp [readBare?, AtGap]
  | cons c tail => cases hc : isBlank c <;> simp [readBare?, AtGap, hc]

/-- A command name can be read everywhere but at a gap and at a quote that is not closed. -/
theorem readName?_eq_none_iff : readName? cs = none ↔ AtGap cs ∨ OpenQuote cs := by
  unfold readName?
  split
  next hquote =>
    obtain ⟨tail, rfl⟩ := List.head?_eq_some_iff.mp hquote
    have hsolid : ¬ AtGap ('"' :: tail) := fun h => absurd (h '"' rfl) (by decide)
    simp [readQuoted?_eq_none_iff, OpenQuote, hsolid]
  next hquote =>
    have hnone : ¬ OpenQuote cs := by
      rintro ⟨tail, rfl, _⟩
      exact hquote rfl
    simp [readBare?_eq_none_iff, hnone]

theorem optionAhead_of_valueless (h : Valueless cs) : OptionAhead cs := by
  cases h with
  | @intro name before after text named _ _ _ _ =>
    obtain ⟨c, hc, hletter⟩ := named.letter
    obtain ⟨tail, rfl⟩ := List.head?_eq_some_iff.mp hc
    exact ⟨c, _, rfl, hletter⟩

theorem readOption?_of_valueless (h : Valueless cs) : readOption? cs = none := by
  cases h with
  | @intro name before after text named hbefore hafter solid hnone =>
    have hstring : readString? text = none := by
      rw [Option.eq_none_iff_forall_ne_some]
      intro value hread
      obtain ⟨rest, hvalue⟩ := readString?_iff.mp hread
      exact hnone value rest hvalue
    rw [readOption?_assigning named hbefore hafter solid, hstring, Option.map_none]

/-- Where an option starts, one is read unless it assigns a value that is none. -/
theorem valueless_of_readOption? (hahead : OptionAhead cs) (h : readOption? cs = none) :
    Valueless cs := by
  obtain ⟨c, tail, rfl, hletter⟩ := hahead
  have hfirst : ((c :: tail).takeWhile isOptionNameChar).head? = some c := by
    rw [List.takeWhile_cons_of_pos (isOptionNameChar_of_isLetter hletter)]
    rfl
  have named : OptionName ((c :: tail).takeWhile isOptionNameChar) :=
    optionName_iff.mpr ⟨by simp [hfirst, hletter], List.all_takeWhile⟩
  simp only [readOption?, hfirst, Option.any_some, hletter, Bool.not_true, Bool.false_eq_true,
    if_false] at h
  split at h
  next text hassign =>
    rw [Option.map_eq_none_iff] at h
    have hnone : ∀ value rest, ¬ StringAt value (text.dropWhile isBlank) rest := by
      intro value rest hvalue
      rw [readString?_iff.mpr ⟨rest, hvalue⟩] at h
      cases h
    have hvalueless := Valueless.intro named
      (blank_takeWhile ((c :: tail).dropWhile isOptionNameChar)) (blank_takeWhile text)
      (stop_dropWhile isBlank text) hnone
    rw [← eq_takeWhile_append, ← hassign, ← eq_takeWhile_append, ← eq_takeWhile_append] at hvalueless
    exact hvalueless
  next => cases h

theorem readOption?_of_not_ahead (h : ¬ OptionAhead cs) : readOption? cs = none := by
  rw [Option.eq_none_iff_forall_ne_some]
  intro o hread
  obtain ⟨rest, hoption⟩ := readOption?_iff.mp hread
  exact h (optionAhead_of_optionAt hoption)

theorem readString?_eq_none_iff :
    readString? cs = none ↔ OptionAhead cs ∨ AtGap cs ∨ OpenQuote cs := by
  rw [← readName?_eq_none_iff, ← atOption_iff, readString?]
  split <;> simp [*]

theorem stuck_iff : readString? cs = none ∧ readOption? cs = none ↔ Stuck cs := by
  rw [readString?_eq_none_iff]
  constructor
  · rintro ⟨hahead | hgap | hopen, hoption⟩
    · exact .valueless (valueless_of_readOption? hahead hoption)
    · cases cs with
      | nil => exact .ended
      | cons c tail => exact .blank (hgap c rfl)
    · exact .openQuote hopen
  · intro h
    cases h with
    | ended => exact ⟨.inr (.inl atGap_nil), rfl⟩
    | @blank c tail hc =>
      have hgap : AtGap (c :: tail) := by simpa [AtGap] using hc
      exact ⟨.inr (.inl hgap), readOption?_of_not_ahead (not_optionAhead_of_atGap hgap)⟩
    | openQuote hopen =>
      exact ⟨.inr (.inr hopen), readOption?_of_not_ahead (not_optionAhead_of_openQuote hopen)⟩
    | valueless h => exact ⟨.inl (optionAhead_of_valueless h), readOption?_of_valueless h⟩

namespace Scanner

/-- A call that reads a token: if it fails, it leaves the cursor where it was, and if not, it moves
it on within the line. -/
structure Advances {α : Type} (call : Scanner → Option α × Scanner) (s : Scanner) : Prop where
  failed : (call s).1 = none → (call s).2 = s
  moved : ∀ a ∈ (call s).1, (call s).2.source = s.source ∧ s.cursor < (call s).2.cursor ∧
    (call s).2.cursor ≤ s.source.length

/-- What a call reads, if anything, with the scanner that it leaves. -/
def tried {α : Type} (call : Scanner → Option α × Scanner) (s : Scanner) : Option (α × Scanner) :=
  (call s).1.map (·, (call s).2)

theorem tried_settle {α : Type} (s : Scanner) (read : Option (α × Scanner)) :
    (s.settle read).1.map (·, (s.settle read).2) = read := by
  cases read <;> rfl

theorem tried_takeString : tried takeString = string? := by
  funext s
  rw [tried, takeString_eq, tried_settle]

theorem tried_takeOption : tried takeOption = option? := by
  funext s
  rw [tried, takeOption_eq, tried_settle]

/-- A call that takes the spelling of what stands at the cursor advances. -/
theorem advances_of_spelled {α ω : Type} {call : Scanner → Option α × Scanner}
    {spelling : ω → List Char} {take : ω → α} {read : Option ω} (s : Scanner)
    (hcall : call s = s.settle (read.map fun l => (take l, s.advance (spelling l).length)))
    (hread : ∀ l, read = some l → ∃ rest, s.rest = spelling l ++ rest ∧ spelling l ≠ []) :
    Advances call s := by
  cases read with
  | none => exact ⟨fun _ => by rw [hcall]; rfl, fun a ha => by rw [hcall] at ha; cases ha⟩
  | some l =>
    obtain ⟨rest, hrest, hne⟩ := hread l rfl
    have hcursor : (s.advance (spelling l).length).cursor = s.cursor + (spelling l).length :=
      advance_cursor (by simp [hrest])
    have hpos := List.length_pos_iff.mpr hne
    refine ⟨fun hnone => ?_, fun a _ => ?_⟩
    · rw [hcall] at hnone
      cases hnone
    · rw [hcall]
      refine ⟨rfl, ?_, (s.advance _).cursor_le⟩
      show s.cursor < (s.advance (spelling l).length).cursor
      omega

theorem advances_takeString (s : Scanner) : Advances takeString s :=
  advances_of_spelled s (takeString_eq s) fun _ => spelling_of_readString?

theorem advances_takeOption (s : Scanner) : Advances takeOption s :=
  advances_of_spelled s (takeOption_eq s) fun _ => spelling_of_readOption?

end Scanner

end Line

/-- A loop whose reads make progress takes no more rounds than there are characters left. -/
theorem length_of_loop {τ β : Type} {read : Scanner → Option (τ × Scanner)}
    {value : τ → Except String β} {s e : Scanner} {bs : List β} {u : Option String}
    (hread : ∀ {s t token}, read s = some (token, t) → t.rest.length < s.rest.length)
    (h : Loop read value s bs u e) : bs.length + e.rest.length ≤ s.rest.length := by
  induction h with
  | stop => exact (Nat.zero_add _).le
  | unbound => exact (Nat.zero_add _).le
  | @next s t e token b bs u htoken _ _ ih =>
    have hshorter := hread htoken
    have hskip := Scanner.length_advance_rest_le t (t.rest.takeWhile isBlank).length
    rw [List.length_cons]
    have hmore : t.skipBlanks.rest.length ≤ t.rest.length := hskip
    omega

/-- From any point of a line, an argument and an option cannot both be read, and neither can exactly
at the end, at white space, at a quote that is not closed and at an option that assigns no value. A
read that fails leaves the cursor, any other moves it on within the line. So the loops that read
arguments and options end, after no more rounds than there are characters left. -/
theorem reads_told_apart (s : Scanner) :
    (s.takeString.1 = none ∨ s.takeOption.1 = none) ∧
    (s.takeString.1 = none ∧ s.takeOption.1 = none ↔ Stuck s.rest) ∧
    Scanner.Advances Scanner.takeString s ∧ Scanner.Advances Scanner.takeOption s ∧
    ∀ bindings,
      (Loop (Scanner.tried Scanner.takeString) (lookUp bindings) s
        (scanArguments bindings s).arguments (scanArguments bindings s).unbound
        (scanArguments bindings s).scanner ∧
      (scanArguments bindings s).arguments.length +
        (scanArguments bindings s).scanner.rest.length ≤ s.rest.length) ∧
      Loop (Scanner.tried Scanner.takeOption) (optionOf bindings) s
        (scanOptions bindings s).options (scanOptions bindings s).unbound
        (scanOptions bindings s).scanner ∧
      (scanOptions bindings s).options.length +
        (scanOptions bindings s).scanner.rest.length ≤ s.rest.length := by
  have hstring : s.takeString.1 = none ↔ readString? s.rest = none := by
    rw [Scanner.takeString_eq, Scanner.settle, Scanner.string?]
    simp
  have hoption : s.takeOption.1 = none ↔ readOption? s.rest = none := by
    rw [Scanner.takeOption_eq, Scanner.settle, Scanner.option?]
    simp
  rw [hstring, hoption, Scanner.tried_takeString, Scanner.tried_takeOption]
  refine ⟨?_, stuck_iff, s.advances_takeString, s.advances_takeOption, fun bindings => ⟨?_, ?_⟩⟩
  · by_cases hahead : OptionAhead s.rest
    · exact .inl (readString?_eq_none_iff.mpr (.inl hahead))
    · exact .inr (readOption?_of_not_ahead hahead)
  · have hloop := loop_arguments bindings s
    exact ⟨hloop, length_of_loop Scanner.length_rest_lt_of_string? hloop⟩
  · have hloop := loop_options bindings s
    exact ⟨hloop, length_of_loop Scanner.length_rest_lt_of_option? hloop⟩

end LineShell
