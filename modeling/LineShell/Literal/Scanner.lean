import LineShell.Literal.Number
import LineShell.Text.Name

/-!
Text of literals as tokens. What cannot be read ends the tokens; the reader of the tokens learns of
it when it gets there. Inside brackets lines do not count.
-/

namespace LineShell.Literal

/-- The greatest number of brackets inside one another. -/
def bracketLimit : Nat := 200

/-- An open bracket and its line. -/
structure Bracket where
  opening : Char
  line : Nat

/-- A place in a text: what is left of it, the number of the line, the open brackets and the
columns of the lines that are open, innermost first, and whether a line starts here. -/
structure Scanner where
  text : List Char
  line : Nat := 1
  brackets : List Bracket := []
  indents : List Nat := []
  atLineStart : Bool := true

/-- What the tokens of a text end with. A quiet fault concerns no particular character. `sudden`
means that the last token is known to be complete only because the text ends behind it. -/
structure Ending where
  fault : Fault
  quiet : Bool
  brackets : List Bracket
  sudden : Bool

/-- The tokens of a text and what they end with. -/
structure Tokens where
  found : Array Token
  ending : Ending

/-- What reading a token comes to: a token and the place behind it, a place with no token, or the
end of the tokens. -/
inductive Step
  | token (kind : TokenKind) (behind : Scanner)
  | skip (behind : Scanner)
  | finish (fault : Fault) (quiet : Bool)

namespace Scanner

/-- The fault of a text that ends with a bracket open, or otherwise too early. -/
def cutShort (s : Scanner) : Fault :=
  match s.brackets with
  | b :: _ => .neverClosed b.opening
  | [] => .cutShort

/-- The place in the next line. A line that is empty at the end of the text does not count. -/
def nextLine (s : Scanner) (rest : List Char) : Scanner :=
  { s with text := rest, line := if rest.isEmpty then s.line else s.line + 1 }

/-- The number of lines that passed characters end, last one first, if `rest` follows them. -/
def linesEnded (passed rest : List Char) : Nat :=
  passed.count '\n' - (if rest.isEmpty && passed.head? = some '\n' then 1 else 0)

/-- The column where a line begins, and the line from there on. A line may be continued before it
begins; its first column counts then. -/
def indentation (fixed : Option Nat) (column : Nat) :
    List Char → Except Fault (Nat × List Char)
  | ' ' :: rest => indentation fixed (column + 1) rest
  | '\t' :: rest => indentation fixed ((column / 8 + 1) * 8) rest
  | '\x0c' :: rest => indentation fixed 0 rest
  | ['\\', '\n'] => .error .cutShort
  | '\\' :: '\n' :: rest =>
    indentation (if column = 0 then fixed else fixed <|> some column) column rest
  | '\\' :: _ => .error .badContinuation
  | rest => .ok (fixed.getD column, rest)

/-- The start of a line: the tokens that its column makes. Empty lines make none. -/
def startLine (s : Scanner) : Step :=
  let current := s.indents.head?.getD 0
  match indentation none 0 s.text with
  | .error f => .finish f true
  | .ok (_, '\n' :: behind) => .skip { s.nextLine behind with atLineStart := true }
  | .ok (_, '#' :: remark) =>
    let behind := remark.dropWhile (· ≠ '\n')
    .skip { s with text := behind, atLineStart := behind.head? = some '\n' }
  | .ok (column, rest) =>
    let begun := { s with text := rest, atLineStart := false }
    if column = current then .skip begun
    else if current < column then .token .indent { begun with indents := column :: s.indents }
    else
      let outer := s.indents.dropWhile (column < ·)
      if outer.head?.getD 0 = column then
        .token .unindent { s with indents := s.indents.drop 1 }
      else .finish .badUnindent true

/-- The characters of a quotation up to its closing quotes, and what follows; none if there are no
such quotes. `seen` is the number of quotes just passed, of the `size` needed. The characters that
have been passed come last one first, the quotes among them. -/
def quotationBody (quote : Char) (size seen : Nat) (passed : List Char) :
    List Char → Except (List Char × List Char) (List Char × List Char)
  | [] => .error (passed, [])
  | c :: rest =>
    if c = quote then
      if seen + 1 = size then .ok (c :: passed, rest)
      else quotationBody quote size (seen + 1) (c :: passed) rest
    else if c = '\\' then
      match rest with
      | escaped :: behind => quotationBody quote size 0 (escaped :: c :: passed) behind
      | [] => .error (c :: passed, [])
    else if c = '\n' && size = 1 then .error (passed, c :: rest)
    else quotationBody quote size 0 (c :: passed) rest

/-- A quotation behind the letters in front of it. -/
def quotation (s : Scanner) (letters : List Char) (quote : Char) (rest : List Char) : Step :=
  let letters := letters.map Char.toLower
  let make (body : List Char) : TokenKind :=
    .quotation ⟨letters.contains 'b', letters.contains 'r', letters.contains 'f', body⟩
  let read (size : Nat) (inner : List Char) : Step :=
    match quotationBody quote size 0 [] inner with
    | .ok (passed, behind) =>
      .token (make (passed.drop size).reverse)
        { s with text := behind, line := s.line + passed.count '\n' }
    | .error (passed, behind) =>
      .finish (.unterminated (size = 3) (s.line + linesEnded passed behind)) false
  match rest with
  | a :: b :: inner =>
    if a = quote && b = quote then read 3 inner
    else if a = quote then .token (make []) { s with text := b :: inner }
    else read 1 rest
  | [a] => if a = quote then .token (make []) { s with text := [] } else read 1 rest
  | [] => read 1 rest

/-- The first character that does not belong to a name. -/
def intruder? : List Char → Option Char
  | [] => none
  | c :: rest =>
    if Text.isNameStart c then rest.find? (!Text.isNameChar ·) else some c

/-- A name, or a quotation with letters in front of it. -/
def name (s : Scanner) : Step :=
  let word := s.text.takeWhile continuesName
  let rest := s.text.dropWhile continuesName
  let spelling := String.ofList word
  let letters := ["b", "u", "r", "f", "br", "rb", "fr", "rf"].contains spelling.toLower
  match rest.head?.filter fun c => letters && (c = '\'' || c = '"') with
  | some quote => s.quotation word quote (rest.drop 1)
  | none =>
    match intruder? word with
    | some c => .finish (.badCharacter c) false
    | none => .token (.ofName spelling) { s with text := rest }

/-- A number whose digits have been read. -/
def number (s : Scanner) (read : Except Fault (Except Fault Constant × List Char)) : Step :=
  match read with
  | .ok (value, rest) => .token (.number value) { s with text := rest }
  | .error f => .finish f false

/-- A bracket or a sign of one character. -/
def sign (s : Scanner) (c : Char) (rest : List Char) : Step :=
  let token (brackets : List Bracket) : Step :=
    .token (.fixed c.toString) { s with text := rest, brackets }
  if isOpening c then
    if bracketLimit ≤ s.brackets.length then .finish .tooManyBrackets false
    else token (⟨c, s.line⟩ :: s.brackets)
  else if isClosing c then
    match s.brackets with
    | [] => .finish (.unmatched c) false
    | b :: outer =>
      if c = partner b.opening then token outer
      else
        let line := if b.line = s.line then none else some b.line
        .finish (.mismatched c b.opening line) false
  else if Text.isPrintable c then token s.brackets
  else .finish (.badCharacter c) false

/-- The token at a place, blanks skipped. -/
def next (s : Scanner) : Step :=
  match s.text with
  | [] =>
    if s.brackets.isEmpty then .token .finish s else .finish s.cutShort true
  | c :: rest =>
    if c = ' ' || c = '\t' || c = '\x0c' then .skip { s with text := rest }
    else if c = '#' then .skip { s with text := rest.dropWhile (· ≠ '\n') }
    else if beginsName c then s.name
    else if c = '\n' then
      let behind := s.nextLine rest
      if s.brackets.isEmpty then .token .lineEnd { behind with atLineStart := true }
      else .skip behind
    else if c = '.' then
      match rest with
      | '.' :: '.' :: behind => .token (.fixed "...") { s with text := behind }
      | _ =>
        if rest.head?.any Char.isDigit then s.number (readFraction rest) else s.sign c rest
    else if c.isDigit then s.number (readNumber s.text)
    else if c = '\'' || c = '"' then s.quotation [] c rest
    else if c = '\\' then
      match rest with
      | ['\n'] => .finish s.cutShort true
      | '\n' :: behind => .skip (s.nextLine behind)
      | _ => .finish .badContinuation true
    else
      match longOperator? s.text with
      | some (o, behind) => .token (.fixed o) { s with text := behind }
      | none => s.sign c rest

/-- The tokens from a place on, `fuel` steps at most. -/
def tokensFrom (fuel : Nat) (sudden : Bool) (found : Array Token) (s : Scanner) : Tokens :=
  match fuel with
  | 0 => ⟨found, s.cutShort, true, s.brackets, sudden⟩
  | fuel + 1 =>
    match if s.atLineStart && s.brackets.isEmpty then s.startLine else s.next with
    | .token .finish _ => ⟨found.push ⟨.finish, 0, s.line⟩, .invalid, true, [], sudden⟩
    | .token kind behind =>
      let sudden := behind.text.isEmpty && !kind.endsItself
      tokensFrom fuel sudden (found.push ⟨kind, behind.brackets.length, s.line⟩) behind
    | .skip behind => tokensFrom fuel sudden found behind
    | .finish fault quiet => ⟨found, fault, quiet, s.brackets, sudden⟩

end Scanner

/-- The tokens of a text. -/
def tokens (text : List Char) : Tokens :=
  Scanner.tokensFrom (2 * text.length + 2) false #[] { text }

end LineShell.Literal
