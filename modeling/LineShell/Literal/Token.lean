import LineShell.Literal.Fault

/-!
The tokens of a text of literals: names, numbers, quotations, and fixed tokens such as keywords,
operators and brackets.
-/

namespace LineShell.Literal

/-- A value that a single token writes, as far as the values made of it depend on it. -/
inductive Constant
  | nothing
  | truth (b : Bool)
  | ellipsis
  | integer (n : Nat)
  | real
  | imaginary
  | text
  | bytes
deriving DecidableEq

/-- A text between quotes: what the letters before it say, and its characters as they are written. -/
structure Quotation where
  bytes : Bool
  raw : Bool
  formatted : Bool
  body : List Char
deriving DecidableEq

/-- What a token is. Lines count only outside brackets. -/
inductive TokenKind
  | name (spelling : String)
  | fixed (spelling : String)
  | number (value : Except Fault Constant)
  | quotation (q : Quotation)
  | lineEnd
  | indent
  | unindent
  | finish

/-- A token, the number of brackets that are open behind it, and its line. -/
structure Token where
  kind : TokenKind
  depth : Nat
  line : Nat

/-- The names that are fixed tokens. -/
def keywords : List String :=
  ["False", "None", "True", "and", "as", "assert", "async", "await", "break", "class", "continue",
    "def", "del", "elif", "else", "except", "finally", "for", "from", "global", "if", "import",
    "in", "is", "lambda", "nonlocal", "not", "or", "pass", "raise", "return", "try", "while",
    "with", "yield"]

/-- The names that are keywords in some places. -/
def softKeywords : List String :=
  ["_", "case", "match"]

/-- Whether a name is a keyword in some places or the start of one. -/
def startsSoftKeyword (name : String) : Bool :=
  softKeywords.any fun k => name.toList.isPrefixOf k.toList

/-- The token that a name is. -/
def TokenKind.ofName (spelling : String) : TokenKind :=
  if keywords.contains spelling then .fixed spelling else .name spelling

/-- The operators of more than one character, those of three first. -/
def longOperators : List String :=
  ["**=", "//=", ">>=", "<<=", "!=", "%=", "&=", "**", "*=", "+=", "-=", "->", "//", "/=", ":=",
    "<<", "<=", "<>", "==", ">=", ">>", "@=", "^=", "|="]

/-- The operator of more than one character at the front of a text, and what follows. -/
def longOperator? (text : List Char) : Option (String × List Char) :=
  (longOperators.find? fun o => o.toList.isPrefixOf text).map fun o => (o, text.drop o.length)

/-- Whether a token is known to be complete before what follows is seen. -/
def TokenKind.endsItself : TokenKind → Bool
  | quotation _ => true
  | lineEnd => true
  | fixed spelling => spelling = "..." || (longOperators.contains spelling && spelling.length = 3)
  | _ => false

/-- Whether a character opens a bracket. -/
def isOpening (c : Char) : Bool :=
  c = '(' || c = '\x7b' || c = '['

/-- Whether a character closes a bracket. -/
def isClosing (c : Char) : Bool :=
  c = ')' || c = '\x7d' || c = ']'

/-- The closing bracket of an opening one. -/
def partner (opening : Char) : Char :=
  if opening = '(' then ')' else if opening = '[' then ']' else '\x7d'

end LineShell.Literal
