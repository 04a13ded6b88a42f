import LineShell.Literal.Number
import LineShell.Text.CharacterName

/-!
The characters that quotations stand for, as far as they can go wrong: escapes by number or by name,
and the characters of bytes.
-/

namespace LineShell.Literal

/-- A text in which every character beyond ASCII stands as its number. Positions in faults count in
this text. -/
def numbered : List Char → List Char
  | '\\' :: c :: rest =>
    if c.toNat < 128 then '\\' :: c :: numbered rest
    else "\\u005c\\U".toList ++ Text.hexDigits 8 c.toNat ++ numbered rest
  | c :: rest =>
    if c.toNat < 128 then c :: numbered rest
    else '\\' :: 'U' :: Text.hexDigits 8 c.toNat ++ numbered rest
  | [] => []

/-- The number of digits in an escape by number. -/
def escapeSize? (c : Char) : Option Nat :=
  if c = 'x' then some 2 else if c = 'u' then some 4 else if c = 'U' then some 8 else none

/-- The fault of an escape by number that is too short. -/
def truncated (c : Char) (size : Nat) : String :=
  let digits := String.ofList (List.replicate size 'X')
  s!"truncated \\{c}{digits} escape"

/-- The greatest number of a character. -/
def lastCharacter : Nat := 0x10FFFF

/-- What is wrong with an escape by number, given the character behind the backslash and what
follows. -/
def numberEscapeFault? (position size : Nat) (c : Char) (rest : List Char) : Option Fault :=
  let digits := (rest.take size).takeWhile isHexDigit
  if digits.length < size then
    some (.badEscape position (position + 1 + digits.length) (truncated c size))
  else if lastCharacter < basedValue 16 digits then
    some (.badEscape position (position + 1 + size) "illegal Unicode character")
  else none

/-- What is wrong with an escape by name, given what follows its letter. -/
def nameEscapeFault? (position : Nat) (rest : List Char) : Option Fault :=
  let malformed := "malformed \\N character escape"
  match rest with
  | '\x7b' :: inner =>
    let name := inner.takeWhile (· ≠ '\x7d')
    if name.length = inner.length then
      some (.badEscape position (position + 2 + name.length) malformed)
    else if name.isEmpty then some (.badEscape position (position + 2) malformed)
    else if Text.isCharacterName name then none
    else some (.badEscape position (position + 3 + name.length) "unknown Unicode character name")
  | _ => some (.badEscape position (position + 1) malformed)

/-- What is wrong with the escapes of a text whose characters are all of ASCII. -/
def escapeFault? (position : Nat) : List Char → Option Fault
  | '\\' :: c :: rest =>
    let here :=
      match escapeSize? c with
      | some size => numberEscapeFault? position size c rest
      | none => if c = 'N' then nameEscapeFault? position rest else none
    here <|> escapeFault? (position + 2) rest
  | _ :: rest => escapeFault? (position + 1) rest
  | [] => none

/-- What is wrong with the escapes of bytes. -/
def byteEscapeFault? (position : Nat) : List Char → Option Fault
  | '\\' :: c :: rest =>
    if c = 'x' && ((rest.take 2).takeWhile isHexDigit).length < 2 then
      some (.badByteEscape position)
    else byteEscapeFault? (position + 2) rest
  | _ :: rest => byteEscapeFault? (position + 1) rest
  | [] => none

/-- What is wrong with the text that characters between quotes stand for. -/
def textFault? (raw : Bool) (body : List Char) : Option Fault :=
  if raw then none else escapeFault? 0 (numbered body)

/-- What is wrong with the characters of a quotation without fields. -/
def Quotation.fault? (q : Quotation) : Option Fault :=
  if q.bytes then
    if q.body.any (128 ≤ ·.toNat) then some .foreignByte
    else if q.raw then none
    else byteEscapeFault? 0 q.body
  else textFault? q.raw q.body

end LineShell.Literal
