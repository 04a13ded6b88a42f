import LineShell.Text.Blank
import LineShell.Text.Case
import LineShell.Text.Digit

/-!
Numbers read from text. Digits of any script count, white space may stand around a number, and
single underscores may stand between its digits.
-/

namespace LineShell.Text

/-- The greatest number of digits of a whole number that is converted from or to text. -/
def digitLimit : Nat := 4300

/-- What is reported of a whole number with more digits. -/
def digitLimitExceeded (digits : Nat) : String :=
  s!"Exceeds the limit ({digitLimit} digits) for integer string conversion: " ++
    s!"value has {digits} digits; use sys.set_int_max_str_digits() to increase the limit"

/-- The white space that may stand around a number, once foreign white space has become spaces. -/
def isNumeralBlank (c : Char) : Bool :=
  c = ' ' || (9 ≤ c.toNat && c.toNat ≤ 13)

/-- A character as a numeral shows it: foreign digits and white space become those of ASCII; none
for any other foreign character. -/
def plainDigit? (c : Char) : Option Char :=
  if c.toNat < 127 then some c
  else if isBlank c then some ' '
  else (digit? c).map fun d => Char.ofNat (48 + d)

/-- A text in the characters of numerals. A text of ASCII stays as it is. -/
def plainDigits? (cs : List Char) : Option (List Char) :=
  if cs.all (·.toNat < 128) then some cs else cs.mapM plainDigit?

/-- The text without the underscores between its digits, none if one stands anywhere else. -/
def ungroup? (previous : Char) : List Char → Option (List Char)
  | [] => some []
  | '_' :: rest =>
    if previous.isDigit && rest.head?.any Char.isDigit then ungroup? '_' rest else none
  | c :: rest => (ungroup? c rest).map (c :: ·)

/-- The characters of a numeral: foreign digits made plain, white space around it and underscores
inside it taken away. -/
def numeral? (cs : List Char) : Option (List Char) := do
  let plain ← plainDigits? cs
  let inner := ((plain.dropWhile isNumeralBlank).reverse.dropWhile isNumeralBlank).reverse
  ungroup? ' ' inner

/-- The sign in front of a number, true for minus, and what follows. -/
def splitSign : List Char → Bool × List Char
  | '-' :: rest => (true, rest)
  | '+' :: rest => (false, rest)
  | cs => (false, cs)

/-- The number that a sequence of digits writes. -/
def digitsValue (cs : List Char) : Nat :=
  cs.foldl (fun n c => 10 * n + (c.toNat - 48)) 0

/-- The whole number that a text writes. -/
def readInt? (cs : List Char) : Option Int := do
  let (negative, digits) := splitSign (← numeral? cs)
  if digits.isEmpty || !digits.all Char.isDigit || digitLimit < digits.length then none
  else some (if negative then -(digitsValue digits : Int) else digitsValue digits)

/-- The floating-point number nearest to `digits * 10 ^ exponent`. -/
def nearestReal (digits : Nat) (exponent : Int) : Float :=
  let size := (Nat.toDigits 10 digits).length + exponent
  if digits = 0 || size < -400 then 0
  else if 400 < size then 1 / 0
  else Float.ofScientific digits (exponent < 0) exponent.natAbs

/-- The exponent after a number's digits; no exponent counts as zero. -/
def readExponent? : List Char → Option Int
  | [] => some 0
  | c :: rest =>
    if c = 'e' || c = 'E' then
      let (negative, digits) := splitSign rest
      if digits.isEmpty || !digits.all Char.isDigit then none
      else some (if negative then -(digitsValue digits : Int) else digitsValue digits)
    else none

/-- The magnitude that an unsigned decimal writes: digits with an optional point and exponent. -/
def readMagnitude? (cs : List Char) : Option Float := do
  let whole := cs.takeWhile Char.isDigit
  let afterWhole := cs.dropWhile Char.isDigit
  let (fraction, rest) := match afterWhole with
    | '.' :: tail => (tail.takeWhile Char.isDigit, tail.dropWhile Char.isDigit)
    | _ => ([], afterWhole)
  if whole.isEmpty && fraction.isEmpty then none
  else
    let exponent ← readExponent? rest
    some (nearestReal (digitsValue (whole ++ fraction)) (exponent - fraction.length))

/-- The floating-point number that a text writes; infinity and not-a-number are written as words
in any case. -/
def readReal? (cs : List Char) : Option Float := do
  let (negative, body) := splitSign (← numeral? cs)
  let word := String.ofList (body.map Char.toLower)
  let magnitude ←
    if word = "inf" || word = "infinity" then some (1 / 0)
    else if word = "nan" then some (0 / 0)
    else readMagnitude? body
  some (if negative then -magnitude else magnitude)

end LineShell.Text
