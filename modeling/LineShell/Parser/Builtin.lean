import LineShell.Parser

/-!
The parsers that every registry starts with: two vocabularies for truth values, whole numbers,
floating-point numbers and plain text.
-/

namespace LineShell.Parser

open LineShell.Text

/-- The whole part of a floating-point number. -/
def wholePart (x : Float) : Except Failure Int :=
  if x.isNaN then .error ⟨.value, "cannot convert float NaN to integer"⟩
  else if x.isInf then .error ⟨.overflow, "cannot convert float infinity to integer"⟩
  else
    let b := Decimal.Binary.ofBits x.toBits
    let magnitude := (b.significand <<< b.exponent.toNat) >>> (-b.exponent).toNat
    .ok (if Decimal.isNegative x then -(magnitude : Int) else magnitude)

/-- A host value as a whole number. -/
def toWhole : Value → Except Failure Value
  | .text s =>
    match readInt? s.toList with
    | some n => .ok (.int n)
    | none => .error ⟨.value, "invalid literal"⟩
  | .int n => .ok (.int n)
  | .bool b => .ok (.int (if b then 1 else 0))
  | .real x => (wholePart x).map .int
  | _ => .error ⟨.type, "not a number"⟩

/-- The floating-point number nearest to a whole one. -/
def realOfInt (n : Int) : Except Failure Value :=
  let x := nearestReal n.natAbs 0
  if x.isInf then .error ⟨.overflow, "int too large to convert to float"⟩
  else .ok (.real (if n < 0 then -x else x))

/-- A host value as a floating-point number. -/
def toReal : Value → Except Failure Value
  | .text s =>
    match readReal? s.toList with
    | some x => .ok (.real x)
    | none => .error ⟨.value, "could not convert string"⟩
  | .real x => .ok (.real x)
  | .int n => realOfInt n
  | .bool b => realOfInt (if b then 1 else 0)
  | _ => .error ⟨.type, "not a number"⟩

/-- A host value as a text. -/
def toText (v : Value) : Except Failure Value :=
  v.render.map .text

/-- A function of the host that needs a text and asks it for something. -/
def withText {α : Type} (asked : String) (f : String → Except Failure α) (v : Value) :
    Except Failure α :=
  match v with
  | .text s => f s
  | _ => .error (v.lacks asked)

/-- A vocabulary of two words for truth values, in any case. -/
def vocabulary (yes no label : String) : Conversion :=
  withText "lower" fun raw =>
    if normalize raw = yes then .ok (.pair (.bool true) .success)
    else if normalize raw = no then .ok (.pair (.bool false) .success)
    else (Summary.mismatch (.text label) (.text raw)).map (.pair (.bool false))

/-- The function of a parser that always succeeds with what another function returns. -/
def succeeding (f : Conversion) : Conversion := fun raw =>
  (f raw).map fun r => .pair (r.value) .success

/-- Truth values as `true` and `false`. -/
def boolean : Parser :=
  ⟨"bool", .bool, .text "bool", .bool false, vocabulary "true" "false" "bool"⟩

/-- The label of the vocabulary of switches. -/
def switchLabel : String := "switch (on/off)"

/-- Truth values as `on` and `off`. -/
def switch : Parser :=
  ⟨"switch", .bool, .text switchLabel, .bool false, vocabulary "on" "off" switchLabel⟩

/-- Whole numbers. -/
def integer : Parser :=
  ⟨"int", .int, .text "int", .int 0, fun raw => (toWhole raw).map (.pair · .success)⟩

/-- Floating-point numbers. -/
def real : Parser :=
  ⟨"float", .real, .text "float", .real 0, fun raw => (toReal raw).map (.pair · .success)⟩

/-- Plain text. -/
def text : Parser :=
  ⟨"str", .text, .text "str", .text "", fun raw => (toText raw).map (.pair · .success)⟩

end LineShell.Parser
