import LineShell.Line.Lexeme
import Mathlib.Data.List.TakeWhile

/-! The grammar of the tokens of a line: which text a token covers and where it ends. It is stated
apart from the readers, which take exactly these tokens. -/
namespace LineShell.Line

open LineShell.Text

variable {p : Char → Bool} {cs run rest rest' gap : List Char} {c : Char}
  {l l' : Lexeme} {o o' : OptionLexeme}

/-- White space only. -/
def Blank (gap : List Char) : Prop := ∀ c ∈ gap, isBlank c = true

/-- Where a run without white space ends: at white space or at the end of the line. -/
def AtGap (rest : List Char) : Prop := ∀ c ∈ rest.head?, isBlank c = true

/-- Where an option may start: at a hyphen and a letter. -/
def OptionAhead (cs : List Char) : Prop := ∃ c tail, cs = '-' :: c :: tail ∧ isLetter c = true

/-- A command name at the front of a text, and what follows it. The name is quoted exactly if it
starts with a quote; a name without quotes goes on to the next white space. -/
inductive NameAt : Lexeme → List Char → List Char → Prop
  | quoted {body rest : List Char} (closed : '"' ∉ body) :
      NameAt (.quoted body) ('"' :: (body ++ '"' :: rest)) rest
  | bare {run rest : List Char} (nonempty : run ≠ []) (unquoted : run.head? ≠ some '"')
      (solid : ∀ c ∈ run, isBlank c = false) (maximal : AtGap rest) :
      NameAt (.bare run) (run ++ rest) rest

/-- An argument, or the value of an option, at the front of a text. -/
def StringAt (l : Lexeme) (cs rest : List Char) : Prop := NameAt l cs rest ∧ ¬ OptionAhead cs

/-- The name of an option: it starts with a letter and holds neither white space nor `=`. -/
structure OptionName (name : List Char) : Prop where
  letter : ∃ c ∈ name.head?, isLetter c = true
  plain : ∀ c ∈ name, isBlank c = false ∧ c ≠ '='

/-- An option at the front of a text. A flag is not followed by an equals sign, even across white
space; an assignment is followed by a string. -/
inductive OptionAt : OptionLexeme → List Char → List Char → Prop
  | flag {name rest : List Char} (named : OptionName name) (maximal : AtGap rest)
      (unassigned : ∀ gap tail, Blank gap → rest ≠ gap ++ '=' :: tail) :
      OptionAt ⟨name, none⟩ ('-' :: (name ++ rest)) rest
  | assigned {name before after text rest : List Char} {value : Lexeme} (named : OptionName name)
      (hbefore : Blank before) (hafter : Blank after) (hvalue : StringAt value text rest) :
      OptionAt ⟨name, some ⟨before, after, value⟩⟩
        ('-' :: (name ++ (before ++ '=' :: (after ++ text)))) rest

theorem takeWhile_run (hrun : ∀ c ∈ run, p c = true) (hstop : ∀ c ∈ rest.head?, p c = false) :
    (run ++ rest).takeWhile p = run := by
  rw [List.takeWhile_append_of_pos hrun]
  cases rest with
  | nil => simp
  | cons c tail => simp [hstop c rfl]

theorem dropWhile_run (hrun : ∀ c ∈ run, p c = true) (hstop : ∀ c ∈ rest.head?, p c = false) :
    (run ++ rest).dropWhile p = rest := by
  rw [List.dropWhile_append_of_pos hrun]
  cases rest with
  | nil => rfl
  | cons c tail => simp [hstop c rfl]

theorem stop_dropWhile (p : Char → Bool) (cs : List Char) :
    ∀ c ∈ (cs.dropWhile p).head?, p c = false := by
  intro c hc
  have h := List.head?_dropWhile_not p cs
  rw [Option.mem_def.mp hc] at h
  exact h

theorem blank_takeWhile (cs : List Char) : Blank (cs.takeWhile isBlank) :=
  fun _ hc => List.mem_takeWhile_imp hc

theorem atGap_nil : AtGap [] := by simp [AtGap]

theorem atOption_iff : atOption cs = true ↔ OptionAhead cs := by
  constructor
  · intro h
    unfold atOption at h
    split at h
    · exact ⟨_, _, rfl, h⟩
    · simp at h
  · rintro ⟨c, tail, rfl, hc⟩
    exact hc

instance (cs : List Char) : Decidable (OptionAhead cs) := decidable_of_iff _ atOption_iff

theorem blankCodes_no_letters : (blankCodes.all fun n => !isLetter (Char.ofNat n)) = true := by
  decide +kernel

/-- A letter is no white space. -/
theorem isBlank_of_isLetter (h : isLetter c = true) : isBlank c = false := by
  by_contra hblank
  rw [Bool.not_eq_false, isBlank, List.contains_iff_mem] at hblank
  have hnone := List.all_eq_true.mp blankCodes_no_letters _ hblank
  rw [Char.ofNat_toNat, h] at hnone
  cases hnone

theorem optionName_iff {name : List Char} :
    OptionName name ↔ name.head?.any isLetter = true ∧ name.all isOptionNameChar = true := by
  constructor
  · rintro ⟨⟨c, hc, hletter⟩, hplain⟩
    refine ⟨by simp [Option.mem_def.mp hc, hletter], ?_⟩
    rw [List.all_eq_true]
    intro d hd
    simp [isOptionNameChar, hplain d hd]
  · rintro ⟨hletter, hplain⟩
    refine ⟨by simpa [Option.any_eq_true] using hletter, ?_⟩
    intro d hd
    simpa [isOptionNameChar] using List.all_eq_true.mp hplain d hd

instance (name : List Char) : Decidable (OptionName name) := decidable_of_iff _ optionName_iff.symm

theorem nameAt_spelling (h : NameAt l cs rest) : cs = l.spelling ++ rest := by
  cases h with
  | quoted => simp [Lexeme.spelling]
  | bare => rfl

theorem optionAt_spelling (h : OptionAt o cs rest) : cs = o.spelling ++ rest := by
  cases h with
  | flag => simp [OptionLexeme.spelling]
  | assigned _ _ _ hvalue =>
    simp [OptionLexeme.spelling, Assignment.spelling, nameAt_spelling hvalue.1]

theorem readQuoted?_of_closed (closed : '"' ∉ run) :
    readQuoted? ('"' :: (run ++ '"' :: rest)) = some (.quoted run) := by
  have hbody : (run ++ '"' :: rest).takeWhile (· ≠ '"') = run := by
    apply takeWhile_run
    · intro c hc
      simpa using fun he : c = '"' => closed (he ▸ hc)
    · simp
  simp only [readQuoted?, hbody]
  simp

theorem nameAt_of_readQuoted? (h : readQuoted? cs = some l) : ∃ rest, NameAt l cs rest := by
  obtain ⟨rest, hrest, -⟩ := spelling_of_readQuoted? h
  refine ⟨rest, ?_⟩
  rw [hrest]
  unfold readQuoted? at h
  split at h
  · simp only at h
    split at h
    · obtain rfl := Option.some.inj h
      simp only [Lexeme.spelling, List.cons_append, List.append_assoc, List.nil_append]
      apply NameAt.quoted
      intro hmem
      simpa using List.mem_takeWhile_imp hmem
    · simp at h
  · simp at h

theorem readBare?_of_run (nonempty : run ≠ []) (solid : ∀ c ∈ run, isBlank c = false)
    (maximal : AtGap rest) : readBare? (run ++ rest) = some (.bare run) := by
  have hrun : (run ++ rest).takeWhile (!isBlank ·) = run := by
    apply takeWhile_run
    · intro c hc
      simp [solid c hc]
    · intro c hc
      simp [maximal c hc]
  simp [readBare?, hrun, nonempty]

theorem nameAt_of_readBare? (hq : cs.head? ≠ some '"') (h : readBare? cs = some l) :
    ∃ rest, NameAt l cs rest := by
  simp only [readBare?] at h
  split at h
  · simp at h
  · next hne =>
    obtain rfl := Option.some.inj h
    have hcs := eq_takeWhile_append (!isBlank ·) cs
    have hmaximal : AtGap (cs.dropWhile (!isBlank ·)) := by
      intro c hc
      simpa using stop_dropWhile _ cs c hc
    have hrun : NameAt (.bare (cs.takeWhile (!isBlank ·)))
        (cs.takeWhile (!isBlank ·) ++ cs.dropWhile (!isBlank ·)) (cs.dropWhile (!isBlank ·)) := by
      apply NameAt.bare (by simpa using hne) _ _ hmaximal
      · intro hhead
        apply hq
        rw [hcs, List.head?_append, hhead, Option.some_or]
      · intro c hc
        simpa using List.mem_takeWhile_imp hc
    rw [← hcs] at hrun
    exact ⟨_, hrun⟩

/-- The reader of command names takes exactly the names of the grammar. -/
theorem readName?_iff : readName? cs = some l ↔ ∃ rest, NameAt l cs rest := by
  constructor
  · intro h
    unfold readName? at h
    split at h
    · exact nameAt_of_readQuoted? h
    · next hq => exact nameAt_of_readBare? hq h
  · rintro ⟨rest, h⟩
    cases h with
    | quoted closed => simpa [readName?] using readQuoted?_of_closed closed
    | @bare run _ nonempty unquoted solid maximal =>
      have hq : (run ++ rest).head? ≠ some '"' := by
        cases run with
        | nil => exact absurd rfl nonempty
        | cons c tail => simpa using unquoted
      rw [readName?, if_neg hq]
      exact readBare?_of_run nonempty solid maximal

/-- The reader of strings takes exactly the strings of the grammar. -/
theorem readString?_iff : readString? cs = some l ↔ ∃ rest, StringAt l cs rest := by
  unfold readString?
  split
  · next h =>
    have hahead := atOption_iff.mp h
    simp [StringAt, hahead]
  · next h =>
    have hahead : ¬ OptionAhead cs := fun hopt => h (atOption_iff.mpr hopt)
    simp [StringAt, hahead, readName?_iff]

theorem nameAt_unique (h : NameAt l cs rest) (h' : NameAt l' cs rest') : l = l' ∧ rest = rest' := by
  have hl : some l = some l' :=
    (readName?_iff.mpr ⟨rest, h⟩).symm.trans (readName?_iff.mpr ⟨rest', h'⟩)
  obtain rfl := Option.some.inj hl
  have hspell := (nameAt_spelling h).symm.trans (nameAt_spelling h')
  exact ⟨rfl, List.append_cancel_left hspell⟩

theorem nameAt_ne_nil (h : NameAt l cs rest) : cs ≠ [] := by
  cases h with
  | quoted => simp
  | bare nonempty => simp [nonempty]

/-- No token starts with white space. -/
theorem nameAt_solid (h : NameAt l cs rest) : ∀ c ∈ cs.head?, isBlank c = false := by
  cases h with
  | quoted => simp; decide
  | @bare run _ nonempty _ solid _ =>
    cases run with
    | nil => exact absurd rfl nonempty
    | cons c tail => simpa using solid c (by simp)

theorem optionAhead_of_optionAt (h : OptionAt o cs rest) : OptionAhead cs := by
  cases h with
  | @flag name rest named _ _ =>
    obtain ⟨c, hc, hletter⟩ := named.letter
    cases name with
    | nil => simp at hc
    | cons d tail =>
      obtain rfl : d = c := by simpa using hc
      exact ⟨d, tail ++ rest, rfl, hletter⟩
  | @assigned name _ _ _ _ _ named _ _ _ =>
    obtain ⟨c, hc, hletter⟩ := named.letter
    cases name with
    | nil => simp at hc
    | cons d tail =>
      obtain rfl : d = c := by simpa using hc
      exact ⟨d, _, rfl, hletter⟩

theorem blank_append_unique {gap gap' tail tail' : List Char} (hgap : Blank gap)
    (hgap' : Blank gap') (htail : ∀ c ∈ tail.head?, isBlank c = false)
    (htail' : ∀ c ∈ tail'.head?, isBlank c = false) (h : gap ++ tail = gap' ++ tail') :
    gap = gap' ∧ tail = tail' := by
  constructor
  · rw [← takeWhile_run hgap htail, h, takeWhile_run hgap' htail']
  · rw [← dropWhile_run hgap htail, h, dropWhile_run hgap' htail']

theorem optionName_chars (named : OptionName run) : ∀ c ∈ run, isOptionNameChar c = true :=
  List.all_eq_true.mp (optionName_iff.mp named).2

theorem isOptionNameChar_of_blank (h : isBlank c = true) : isOptionNameChar c = false := by
  simp [isOptionNameChar, h]

theorem solid_assign {tail : List Char} : ∀ c ∈ ('=' :: tail).head?, isBlank c = false := by
  intro c hc
  obtain rfl : '=' = c := by simpa using hc
  decide

theorem readOption?_flag (named : OptionName run) (maximal : AtGap rest)
    (unassigned : ∀ gap tail, Blank gap → rest ≠ gap ++ '=' :: tail) :
    readOption? ('-' :: (run ++ rest)) = some ⟨run, none⟩ := by
  have hrun := optionName_chars named
  have hstop : ∀ c ∈ rest.head?, isOptionNameChar c = false :=
    fun c hc => isOptionNameChar_of_blank (maximal c hc)
  simp only [readOption?, takeWhile_run hrun hstop, dropWhile_run hrun hstop, (optionName_iff.mp named).1,
    Bool.not_true, Bool.false_eq_true, if_false]
  split
  · next tail htail =>
    refine absurd (eq_takeWhile_append isBlank rest) ?_
    rw [htail]
    exact unassigned _ tail (blank_takeWhile rest)
  · rfl

/-- Behind an equals sign, an option is what the string there makes it. -/
theorem readOption?_assigning {before after text : List Char} (named : OptionName run)
    (hbefore : Blank before) (hafter : Blank after)
    (hsolid : ∀ c ∈ text.head?, isBlank c = false) :
    readOption? ('-' :: (run ++ (before ++ '=' :: (after ++ text)))) =
      (readString? text).map fun value => ⟨run, some ⟨before, after, value⟩⟩ := by
  have hrun := optionName_chars named
  have hstop : ∀ c ∈ (before ++ '=' :: (after ++ text)).head?, isOptionNameChar c = false := by
    intro c hc
    cases before with
    | nil =>
      obtain rfl : '=' = c := by simpa using hc
      rfl
    | cons d tail =>
      obtain rfl : d = c := by simpa using hc
      exact isOptionNameChar_of_blank (hbefore d (by simp))
  simp [readOption?, takeWhile_run hrun hstop, dropWhile_run hrun hstop, (optionName_iff.mp named).1,
    takeWhile_run hbefore solid_assign, dropWhile_run hbefore solid_assign,
    takeWhile_run hafter hsolid, dropWhile_run hafter hsolid]

theorem readOption?_assigned {before after text : List Char} (named : OptionName run)
    (hbefore : Blank before) (hafter : Blank after) (hvalue : StringAt l text rest) :
    readOption? ('-' :: (run ++ (before ++ '=' :: (after ++ text)))) =
      some ⟨run, some ⟨before, after, l⟩⟩ := by
  rw [readOption?_assigning named hbefore hafter (nameAt_solid hvalue.1),
    readString?_iff.mpr ⟨rest, hvalue⟩, Option.map_some]

theorem optionAt_of_readOption? (h : readOption? cs = some o) : ∃ rest, OptionAt o cs rest := by
  unfold readOption? at h
  split at h
  · next text =>
    simp only at h
    have hname := eq_takeWhile_append isOptionNameChar text
    have hgap := eq_takeWhile_append isBlank (text.dropWhile isOptionNameChar)
    have hstop := stop_dropWhile isOptionNameChar text
    split at h
    · simp at h
    · next hletter =>
      have named : OptionName (text.takeWhile isOptionNameChar) :=
        optionName_iff.mpr ⟨by simpa using hletter, List.all_takeWhile⟩
      split at h
      · next tail htail =>
        obtain ⟨value, hvalue, rfl⟩ := Option.map_eq_some_iff.mp h
        obtain ⟨rest, hrest⟩ := readString?_iff.mp hvalue
        have hafter := eq_takeWhile_append isBlank tail
        have := OptionAt.assigned named (blank_takeWhile (text.dropWhile isOptionNameChar))
          (blank_takeWhile tail) hrest
        rw [← hafter, ← htail, ← hgap, ← hname] at this
        exact ⟨rest, this⟩
      · next hassign =>
        obtain rfl := Option.some.inj h
        have unassigned : ∀ gap tail, Blank gap →
            text.dropWhile isOptionNameChar ≠ gap ++ '=' :: tail := by
          intro gap tail hblank heq
          refine hassign tail ?_
          rw [heq, dropWhile_run hblank solid_assign]
        have maximal : AtGap (text.dropWhile isOptionNameChar) := by
          intro c hc
          by_contra hblank
          -- a name ends at white space or at an equals sign, and here there is none
          have hassigns : c = '=' := by
            have := hstop c hc
            rw [isOptionNameChar, Bool.eq_false_iff.mpr hblank] at this
            simpa using this
          obtain ⟨tail, htail⟩ := List.head?_eq_some_iff.mp hc
          exact unassigned [] tail (by simp [Blank]) (by rw [htail, hassigns]; rfl)
        have := OptionAt.flag named maximal unassigned
        rw [← hname] at this
        exact ⟨_, this⟩
  · simp at h

/-- The reader of options takes exactly the options of the grammar. -/
theorem readOption?_iff : readOption? cs = some o ↔ ∃ rest, OptionAt o cs rest := by
  constructor
  · exact optionAt_of_readOption?
  · rintro ⟨rest, h⟩
    cases h with
    | flag named maximal unassigned => exact readOption?_flag named maximal unassigned
    | assigned named hbefore hafter hvalue =>
      exact readOption?_assigned named hbefore hafter hvalue

theorem optionAt_unique (h : OptionAt o cs rest) (h' : OptionAt o' cs rest') :
    o = o' ∧ rest = rest' := by
  have ho : some o = some o' :=
    (readOption?_iff.mpr ⟨rest, h⟩).symm.trans (readOption?_iff.mpr ⟨rest', h'⟩)
  obtain rfl := Option.some.inj ho
  have hspell := (optionAt_spelling h).symm.trans (optionAt_spelling h')
  exact ⟨rfl, List.append_cancel_left hspell⟩

end LineShell.Line
