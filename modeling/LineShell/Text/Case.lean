import LineShell.Text.Case.Table
import LineShell.Text.Ranges

/-!
Lower, upper and title case of whole texts. A capital sigma is the one letter whose lower case
depends on its neighbours: at the end of a word it takes its final form.
-/

namespace LineShell.Text

/-- A character that has case. -/
def isCased (c : Char) : Bool :=
  if c.toNat < 128 then c.isAlpha else inRanges casedRanges c.toNat

/-- A character that stands between letters without being one, such as an apostrophe. -/
def isCaseIgnorable (c : Char) : Bool :=
  inRanges caseIgnorableRanges c.toNat

/-- Whether the first character that is not case-ignorable has case. -/
def casedAhead (cs : List Char) : Bool :=
  match cs.dropWhile isCaseIgnorable with
  | [] => false
  | c :: _ => isCased c

/-- A capital sigma ends a word: a cased character goes before it and none follows. The text
before it is given last character first. -/
def isFinalSigma (before after : List Char) : Bool :=
  casedAhead before && !casedAhead after

/-- The lower case of a character on its own. -/
def lowerChar (c : Char) : List Char :=
  if c = 'İ' then ['i', '\u0307'] else [Char.ofNat (applyRuns lowerRuns c.toNat)]

/-- The lower case of a character between its neighbours. -/
def lowerAt (before : List Char) (c : Char) (after : List Char) : List Char :=
  if c = 'Σ' then [if isFinalSigma before after then 'ς' else 'σ'] else lowerChar c

/-- The lower case of a text that follows `before`, which is given last character first. -/
def lowerFrom (before : List Char) : List Char → List Char
  | [] => []
  | c :: after => lowerAt before c after ++ lowerFrom (c :: before) after

/-- The lower case of a text. -/
def lower (cs : List Char) : List Char :=
  lowerFrom [] cs

/-- The upper case of a character. -/
def upperChar (c : Char) : List Char :=
  match upperExpansions.lookup c.toNat with
  | some image => image.map Char.ofNat
  | none => [Char.ofNat (applyRuns upperRuns c.toNat)]

/-- The upper case of a text. -/
def upper (cs : List Char) : List Char :=
  cs.flatMap upperChar

/-- The form of a character that starts a word. Georgian letters keep theirs. -/
def titleChar (c : Char) : List Char :=
  if 0x10D0 ≤ c.toNat && c.toNat ≤ 0x10FF then [c]
  else match titleExceptions.lookup c.toNat with
    | some image => image.map Char.ofNat
    | none => upperChar c

/-- The title case of a text that follows `before`, which is given last character first. -/
def titleFrom (before : List Char) : List Char → List Char
  | [] => []
  | c :: after =>
    (if before.head?.any isCased then lowerAt before c after else titleChar c) ++
      titleFrom (c :: before) after

/-- The title case of a text: a character after a cased one is lowered, any other starts a
word. -/
def title (cs : List Char) : List Char :=
  titleFrom [] cs

theorem length_lowerChar_pos (c : Char) : 0 < (lowerChar c).length := by
  unfold lowerChar
  split <;> simp

theorem length_lowerAt (before : List Char) (c : Char) (after : List Char) :
    (lowerAt before c after).length = (lowerChar c).length := by
  unfold lowerAt
  split
  · next h =>
    subst h
    rfl
  · rfl

/-- How long the lower case of a text is does not depend on where its characters stand. -/
theorem length_lowerFrom (before cs : List Char) :
    (lowerFrom before cs).length = (cs.flatMap lowerChar).length := by
  induction cs generalizing before with
  | nil => rfl
  | cons c cs ih =>
    rw [lowerFrom, List.length_append, length_lowerAt, ih, List.flatMap_cons, List.length_append]

/-- A text with a character in front and more behind has a longer lower case. -/
theorem length_lower_lt (c : Char) (cs rest : List Char) :
    (lower cs).length < (lower (c :: (cs ++ rest))).length := by
  have hpos := length_lowerChar_pos c
  simp only [lower, length_lowerFrom, List.flatMap_cons, List.flatMap_append, List.length_append]
  omega

end LineShell.Text

namespace LineShell

/-- The canonical form of a name. All comparisons between names of commands, options and variables
are made between canonical forms. -/
def normalize (name : String) : String :=
  String.ofList (Text.lower name.toList)

@[simp] theorem toList_normalize (name : String) :
    (normalize name).toList = Text.lower name.toList := by
  simp [normalize]

end LineShell
