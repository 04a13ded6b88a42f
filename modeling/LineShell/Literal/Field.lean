import LineShell.Literal.Quotation

/-!
Formatted text: text with fields between braces. A field holds an expression, then perhaps an equals
sign, a conversion and a format, which may hold fields itself. Doubled braces are text.
-/

namespace LineShell.Literal

/-- The greatest number of fields inside one another. -/
def fieldLevels : Nat := 2

/-- The text up to the next field, backwards, and what follows: the brace of a field, the closing
brace of the field that the text is part of, or nothing. A doubled brace ends the text with a single
one, and the result says so. -/
def textBeforeField (raw : Bool) (level : Nat) (passed : List Char) :
    List Char → Except Fault (List Char × Bool × List Char)
  | [] => .ok (passed, false, [])
  | '\\' :: 'N' :: '\x7b' :: rest =>
    if raw then textBeforeField raw level ('N' :: '\\' :: passed) ('\x7b' :: rest)
    else
      let name := rest.takeWhile (· ≠ '\x7d')
      let behind := rest.drop name.length
      textBeforeField raw level
        ((behind.take 1).reverse ++ name.reverse ++ '\x7b' :: 'N' :: '\\' :: passed)
        (behind.drop 1)
  | '\\' :: 'N' :: c :: rest =>
    if raw then textBeforeField raw level ('N' :: '\\' :: passed) (c :: rest)
    else textBeforeField raw level (c :: 'N' :: '\\' :: passed) rest
  | '\\' :: c :: rest =>
    if raw || c = '\x7b' || c = '\x7d' then textBeforeField raw level ('\\' :: passed) (c :: rest)
    else textBeforeField raw level (c :: '\\' :: passed) rest
  | c :: rest =>
    if c = '\x7b' || c = '\x7d' then
      if level = 0 && rest.head? = some c then .ok (c :: passed, true, rest.drop 1)
      else if level = 0 && c = '\x7d' then .error .strayBrace
      else .ok (passed, false, c :: rest)
    else textBeforeField raw level (c :: passed) rest
termination_by text => text.length
decreasing_by
  all_goals
    simp only [List.length_cons, List.length_drop]
    omega

/-- The expression of a field, backwards, and what follows, given the quotes and the brackets that
are open. -/
def fieldExpression (quote : Option (Char × Bool)) (brackets passed : List Char) :
    List Char → Except Fault (List Char × List Char)
  | [] =>
    match quote, brackets with
    | some _, _ => .error .fieldQuotation
    | none, b :: _ => .error (.fieldUnmatched b)
    | none, [] => .error .fieldUnclosed
  | c :: rest =>
    if c = '\\' then .error .fieldBackslash
    else
      let tripled := rest.take 2 = [c, c]
      match quote with
      | some (q, long) =>
        if c = q && long && tripled then
          fieldExpression none brackets (c :: c :: c :: passed) (rest.drop 2)
        else if c = q && !long then fieldExpression none brackets (c :: passed) rest
        else fieldExpression quote brackets (c :: passed) rest
      | none =>
        if c = '\'' || c = '"' then
          if tripled then
            fieldExpression (some (c, true)) brackets (c :: c :: c :: passed) (rest.drop 2)
          else fieldExpression (some (c, false)) brackets (c :: passed) rest
        else if isOpening c then
          if 200 ≤ brackets.length then .error .fieldBrackets
          else fieldExpression none (c :: brackets) (c :: passed) rest
        else if c = '#' then .error .fieldRemark
        else if brackets.isEmpty && ['!', ':', '\x7d', '=', '<', '>'].contains c then
          if rest.head? = some '=' && c ≠ ':' && c ≠ '\x7d' then
            fieldExpression none brackets ('=' :: c :: passed) (rest.drop 1)
          else if c = '<' || c = '>' then fieldExpression none brackets (c :: passed) rest
          else .ok (passed, c :: rest)
        else if isClosing c then
          match brackets with
          | [] => .error (.fieldUnmatched c)
          | b :: outer =>
            if c = partner b then fieldExpression none outer (c :: passed) rest
            else .error (.fieldMismatched c b)
        else fieldExpression none brackets (c :: passed) rest
termination_by text => text.length
decreasing_by all_goals simp only [List.length_drop, List.length_cons]; omega

/-- Whether a character is a blank inside an expression. -/
def isInnerBlank (c : Char) : Bool :=
  c = ' ' || c = '\t' || c = '\n' || c = '\x0c'

/-- What follows the equals sign behind an expression, if there is one. -/
def behindEquals (text : List Char) : Except Fault (List Char) :=
  match text with
  | '=' :: rest =>
    let rest := rest.dropWhile fun c => isInnerBlank c || c = '\x0b' || c = '\r'
    if rest.isEmpty then .error .fieldUnclosed else .ok rest
  | _ => .ok text

/-- What follows the conversion behind an expression, if there is one. -/
def behindConversion (text : List Char) : Except Fault (List Char) :=
  match text with
  | ['!'] => .error .fieldUnclosed
  | '!' :: c :: rest => if ['s', 'r', 'a'].contains c then .ok rest else .error .badConversion
  | _ => .ok text

/-- Makes sure that the text and the fields of formatted text are proper, `fuel` pieces at most, and
gives what follows. `parse` checks an expression. -/
def checkPieces (parse : List Char → Except Fault Unit) (raw : Bool) (fuel level : Nat)
    (text : List Char) : Except Fault (List Char) :=
  match fuel with
  | 0 => .error .exhausted
  | fuel + 1 => do
    let (passed, doubled, rest) ← textBeforeField raw level [] text
    match textFault? raw passed.reverse with
    | some f => .error f
    | none =>
      if doubled then checkPieces parse raw fuel level rest
      else
        match rest with
        | '\x7b' :: inner => do
          if fieldLevels ≤ level then .error .fieldTooDeep
          let (expression, rest) ← fieldExpression none [] [] inner
          if expression.all isInnerBlank then
            match rest with
            | c :: _ => .error (if c = '\x7d' then .emptyField else .fieldBefore c)
            | [] => .error .fieldUnclosed
          parse expression.reverse
          let rest ← behindConversion (← behindEquals rest)
          let rest ←
            match rest with
            | [':'] => .error .fieldUnclosed
            | ':' :: format => checkPieces parse raw fuel (level + 1) format
            | _ => .ok rest
          match rest with
          | '\x7d' :: behind => checkPieces parse raw fuel level behind
          | _ => .error .fieldUnclosed
        | _ =>
          if 0 < level && rest.isEmpty then .error .fieldUnclosed else return rest

/-- Makes sure that the fields of a quotation are proper. -/
def checkFields (parse : List Char → Except Fault Unit) (q : Quotation) : Except Fault Unit := do
  let _ ← checkPieces parse q.raw (q.body.length + 1) 0 q.body

end LineShell.Literal
