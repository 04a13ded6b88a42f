import LineShell.Literal.Token
import LineShell.Text.Digit

/-!
Numbers at the front of a text: whole numbers in four bases, reals and imaginary numbers. Single
underscores may stand between digits, and behind a number a keyword may follow without a gap.
-/

namespace LineShell.Literal

/-- Whether a character goes on with a name, before it is known whether the name is proper. -/
def continuesName (c : Char) : Bool :=
  c.isAlphanum || c = '_' || 128 ≤ c.toNat

/-- Whether a character may begin a name, before it is known whether the name is proper. -/
def beginsName (c : Char) : Bool :=
  c.isAlpha || c = '_' || 128 ≤ c.toNat

/-- The digits at the front of a text, and what follows. An underscore before a digit is skipped. -/
def digitsOf (isDigit : Char → Bool) : List Char → List Char × List Char
  | '_' :: c :: rest =>
    if isDigit c then
      let (digits, behind) := digitsOf isDigit rest
      (c :: digits, behind)
    else ([], '_' :: c :: rest)
  | c :: rest =>
    if isDigit c then
      let (digits, behind) := digitsOf isDigit rest
      (c :: digits, behind)
    else ([], c :: rest)
  | [] => ([], [])

/-- Whether a text goes on with a word that ends there. -/
def startsWithWord (word : String) (text : List Char) : Bool :=
  word.toList.isPrefixOf text && !(text.drop word.length).head?.any continuesName

/-- Whether a keyword follows a number. -/
def keywordFollows (text : List Char) : Bool :=
  ["and", "else", "for", "or", "not"].any (startsWithWord · text) ||
    ["if", "in", "is"].any fun w => w.toList.isPrefixOf text

/-- What follows a number, if it may. -/
def endNumber (kind : NumeralKind) (rest : List Char) : Except Fault (List Char) :=
  if rest.head?.any continuesName && !keywordFollows rest then .error (.badNumber kind)
  else .ok rest

/-- The value of a digit in base sixteen or a smaller one. -/
def digitValue (c : Char) : Nat :=
  if c.isDigit then c.toNat - 48 else c.toLower.toNat - 87

/-- The number that digits write in a base. -/
def basedValue (base : Nat) (digits : List Char) : Nat :=
  digits.foldl (fun n c => base * n + digitValue c) 0

/-- A whole number in a base behind its mark, and what follows. -/
def readBased (kind : NumeralKind) (base : Nat) (isDigit : Char → Bool) (text : List Char) :
    Except Fault (Constant × List Char) := do
  let (digits, rest) := digitsOf isDigit text
  let next := (if rest.head? = some '_' then rest.drop 1 else rest).head?
  match next.filter Char.isDigit with
  | some c => .error (.badDigit c kind)
  | none =>
    if digits.isEmpty || rest.head? = some '_' then .error (.badNumber kind)
    else return (.integer (basedValue base digits), ← endNumber kind rest)

/-- The digits of a decimal number, and what follows. -/
def readDigits (text : List Char) : Except Fault (List Char × List Char) :=
  let (digits, rest) := digitsOf Char.isDigit text
  if rest.head? = some '_' then .error (.badNumber .decimal) else .ok (digits, rest)

/-- What follows the digits of a number and tells its kind: an exponent and the mark of an imaginary
number. `whole` is the number so far. -/
def readSuffix (whole : Except Fault Constant) (text : List Char) :
    Except Fault (Except Fault Constant × List Char) :=
  let imaginary? (value : Except Fault Constant) (rest : List Char) :
      Except Fault (Except Fault Constant × List Char) :=
    match rest with
    | c :: behind =>
      if c = 'j' || c = 'J' then do return (.ok .imaginary, ← endNumber .imaginary behind)
      else do return (value, ← endNumber .decimal rest)
    | [] => .ok (value, [])
  match text with
  | e :: rest =>
    if e = 'e' || e = 'E' then
      match rest with
      | c :: behind =>
        if c = '+' || c = '-' then
          if behind.head?.any Char.isDigit then do
            let (_, rest) ← readDigits behind
            imaginary? (.ok .real) rest
          else .error (.badNumber .decimal)
        else if c.isDigit then do
          let (_, rest) ← readDigits rest
          imaginary? (.ok .real) rest
        else do return (whole, ← endNumber .decimal text)
      | [] => .error (.badNumber .decimal)
    else imaginary? whole text
  | [] => .ok (whole, [])

/-- The value of the digits of a whole number. Zeros alone may be as many as one likes. -/
def wholeValue (digits : List Char) : Except Fault Constant :=
  if Text.digitLimit < digits.length && digits.any (· ≠ '0') then .error (.longNumber digits.length)
  else .ok (.integer (Text.digitsValue digits))

/-- What follows the point of a real, and its value. -/
def readFraction (text : List Char) : Except Fault (Except Fault Constant × List Char) := do
  let rest ← if text.head?.any Char.isDigit then (readDigits text).map (·.2) else .ok text
  readSuffix (.ok .real) rest

/-- A decimal number, and what follows. Only zero starts with a zero. -/
def readDecimal (text : List Char) : Except Fault (Except Fault Constant × List Char) := do
  let (digits, rest) ← readDigits text
  match rest with
  | '.' :: behind => readFraction behind
  | _ =>
    let continues := rest.head?.any fun c => c = 'e' || c = 'E' || c = 'j' || c = 'J'
    if digits.head? = some '0' && digits.any (· ≠ '0') && !continues then .error .leadingZero
    else readSuffix (wholeValue digits) rest

/-- Whether a character is a digit in base sixteen. -/
def isHexDigit (c : Char) : Bool :=
  c.isDigit || ('a' ≤ c && c ≤ 'f') || ('A' ≤ c && c ≤ 'F')

/-- A number at the front of a text that starts with a digit, and what follows. The value is a fault
of its own if the number is well spelled but too long. -/
def readNumber (text : List Char) : Except Fault (Except Fault Constant × List Char) :=
  let based (kind : NumeralKind) (base : Nat) (isDigit : Char → Bool) (rest : List Char) := do
    let (value, rest) ← readBased kind base isDigit rest
    return (.ok value, rest)
  match text with
  | '0' :: c :: rest =>
    if c = 'x' || c = 'X' then based .hexadecimal 16 isHexDigit rest
    else if c = 'o' || c = 'O' then based .octal 8 (fun d => '0' ≤ d && d ≤ '7') rest
    else if c = 'b' || c = 'B' then based .binary 2 (fun d => d = '0' || d = '1') rest
    else readDecimal text
  | _ => readDecimal text

end LineShell.Literal
