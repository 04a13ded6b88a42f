import LineShell.Text.Numeral
import LineShell.Text.Printable
import LineShell.Text.Quoted

/-!
What can be wrong with a text of literals. A text that is not spelled as an expression is told apart
from an expression that is spelled well and has no value.
-/

namespace LineShell.Literal

/-- The kinds of numbers. -/
inductive NumeralKind
  | decimal
  | hexadecimal
  | octal
  | binary
  | imaginary
deriving DecidableEq

/-- The word for a kind of numbers. -/
def NumeralKind.name : NumeralKind → String
  | decimal => "decimal"
  | hexadecimal => "hexadecimal"
  | octal => "octal"
  | binary => "binary"
  | imaginary => "imaginary"

/-- What is wrong with a text of literals. -/
inductive Fault
  | unterminated (tripled : Bool) (line : Nat)
  | badNumber (kind : NumeralKind)
  | badDigit (digit : Char) (kind : NumeralKind)
  | leadingZero
  | longNumber (digits : Nat)
  | badCharacter (c : Char)
  | badContinuation
  | cutShort
  | unmatched (closing : Char)
  | mismatched (closing opening : Char) (line : Option Nat)
  | neverClosed (opening : Char)
  | tooManyBrackets
  | indented
  | unindented
  | badUnindent
  | foreignByte
  | mixedQuotations
  | badEscape (first last : Nat) (what : String)
  | badByteEscape (position : Nat)
  | strayBrace
  | emptyField
  | fieldBefore (sign : Char)
  | fieldUnclosed
  | fieldTooDeep
  | fieldBrackets
  | fieldUnmatched (bracket : Char)
  | fieldMismatched (closing opening : Char)
  | fieldBackslash
  | fieldRemark
  | fieldQuotation
  | badConversion
  | badFieldEnd
  | invalid
  | noComma
  | noElse
  | noParentheses (name : String)
  | namedTarget (form : String)
  | equalsEither
  | equalsTarget (form : String)
  | assigned (form : String)
  | starredMember
  | bareTarget
  | doubleStarredMember
  | starredGroup
  | doubleStarredGroup
  | starredValue
  | noColon
  | noValue
  | bareGenerator
  | starAfterDoubleStar
  | positionalAfterKeyword
  | positionalAfterDoubleStar
  | keywordTarget
  | defaultFirst
  | parenthesizedParameters
  | slashFirst
  | slashTwice
  | slashAfterStar
  | starAfterSlash
  | bareStar
  | starDefault
  | starTwice
  | doubleStarDefault
  | afterDoubleStar
  | noDefault
  | inField (fault : Fault)
  | exhausted
  | nullCharacter
  | noLiteral
  | noKey
  | unhashable (form : String)
  | tooLarge
  | tooDeep
deriving DecidableEq

/-- The number of a character as diagnostics show it. -/
def codePoint (c : Char) : String :=
  "U+" ++ String.ofList ((Text.hexDigits 4 c.toNat).map Char.toUpper)

/-- The text that reports what is wrong. -/
def Fault.message : Fault → String
  | unterminated tripled line =>
    let kind := if tripled then "unterminated triple-quoted string literal"
      else "unterminated string literal"
    s!"{kind} (detected at line {line})"
  | badNumber kind => s!"invalid {kind.name} literal"
  | badDigit digit kind => s!"invalid digit '{digit}' in {kind.name} literal"
  | leadingZero =>
    "leading zeros in decimal integer literals are not permitted; " ++
      "use an 0o prefix for octal integers"
  | longNumber digits =>
    Text.digitLimitExceeded digits ++
      " - Consider hexadecimal for huge integer literals to avoid decimal conversion limits."
  | badCharacter c =>
    if Text.isPrintable c then s!"invalid character '{c}' ({codePoint c})"
    else s!"invalid non-printable character {codePoint c}"
  | badContinuation => "unexpected character after line continuation character"
  | cutShort => "unexpected EOF while parsing"
  | unmatched c => s!"unmatched '{c}'"
  | mismatched c o line =>
    let place := (line.map fun n => s!" on line {n}").getD ""
    s!"closing parenthesis '{c}' does not match opening parenthesis '{o}'{place}"
  | neverClosed o => s!"'{o}' was never closed"
  | tooManyBrackets => "too many nested parentheses"
  | indented => "unexpected indent"
  | unindented => "unexpected unindent"
  | badUnindent => "unindent does not match any outer indentation level"
  | foreignByte => "bytes can only contain ASCII literal characters"
  | mixedQuotations => "cannot mix bytes and nonbytes literals"
  | badEscape first last what =>
    "(unicode error) 'unicodeescape' codec can't decode bytes in position " ++
      s!"{first}-{last}: {what}"
  | badByteEscape position => s!"(value error) invalid \\x escape at position {position}"
  | strayBrace => "f-string: single '\x7d' is not allowed"
  | emptyField => "f-string: empty expression not allowed"
  | fieldBefore c => s!"f-string: expression required before '{c}'"
  | fieldUnclosed => "f-string: expecting '\x7d'"
  | fieldTooDeep => "f-string: expressions nested too deeply"
  | fieldBrackets => "f-string: too many nested parenthesis"
  | fieldUnmatched c => s!"f-string: unmatched '{c}'"
  | fieldMismatched c o =>
    s!"f-string: closing parenthesis '{c}' does not match opening parenthesis '{o}'"
  | fieldBackslash => "f-string expression part cannot include a backslash"
  | fieldRemark => "f-string expression part cannot include '#'"
  | fieldQuotation => "f-string: unterminated string"
  | badConversion => "f-string: invalid conversion character: expected 's', 'r', or 'a'"
  | badFieldEnd => "f-string: unexpected end of string"
  | invalid => "invalid syntax"
  | noComma => "invalid syntax. Perhaps you forgot a comma?"
  | noElse => "expected 'else' after 'if' expression"
  | noParentheses name =>
    s!"Missing parentheses in call to '{name}'. Did you mean {name}(...)?"
  | namedTarget form => s!"cannot use assignment expressions with {form}"
  | equalsEither => "invalid syntax. Maybe you meant '==' or ':=' instead of '='?"
  | equalsTarget form => s!"cannot assign to {form} here. Maybe you meant '==' instead of '='?"
  | assigned form => s!"cannot assign to {form}"
  | starredMember => "iterable unpacking cannot be used in comprehension"
  | bareTarget => "did you forget parentheses around the comprehension target?"
  | doubleStarredMember => "dict unpacking cannot be used in dict comprehension"
  | starredGroup => "cannot use starred expression here"
  | doubleStarredGroup => "cannot use double starred expression here"
  | starredValue => "cannot use a starred expression in a dictionary value"
  | noColon => "':' expected after dictionary key"
  | noValue => "expression expected after dictionary key and ':'"
  | bareGenerator => "Generator expression must be parenthesized"
  | starAfterDoubleStar => "iterable argument unpacking follows keyword argument unpacking"
  | positionalAfterKeyword => "positional argument follows keyword argument"
  | positionalAfterDoubleStar => "positional argument follows keyword argument unpacking"
  | keywordTarget => "expression cannot contain assignment, perhaps you meant \"==\"?"
  | defaultFirst => "non-default argument follows default argument"
  | parenthesizedParameters => "Lambda expression parameters cannot be parenthesized"
  | slashFirst => "at least one argument must precede /"
  | slashTwice => "/ may appear only once"
  | slashAfterStar => "/ must be ahead of *"
  | starAfterSlash => "expected comma between / and *"
  | bareStar => "named arguments must follow bare *"
  | starDefault => "var-positional argument cannot have default value"
  | starTwice => "* argument may appear only once"
  | doubleStarDefault => "var-keyword argument cannot have default value"
  | afterDoubleStar => "arguments cannot follow var-keyword argument"
  | noDefault => "expected default value expression"
  | inField fault => "f-string: " ++ fault.message
  | exhausted => ""
  | nullCharacter => "source code string cannot contain null bytes"
  | noLiteral => "malformed node or string"
  | noKey => "malformed node or string: None"
  | unhashable form => s!"unhashable type: '{form}'"
  | tooLarge => "int too large to convert to float"
  | tooDeep => "maximum recursion depth exceeded during ast construction"

/-- Whether the text is spelled wrongly. A text spelled well may still have no value. -/
def Fault.isSpelling : Fault → Bool
  | exhausted | nullCharacter | noLiteral | noKey | unhashable _ | tooLarge | tooDeep => false
  | _ => true

/-- Whether a fault concerns the characters of the text alone. -/
def Fault.isLexical : Fault → Bool
  | unterminated .. | badNumber _ | badDigit .. | leadingZero | badCharacter _ | unmatched _
  | mismatched .. | tooManyBrackets => true
  | _ => false

end LineShell.Literal
