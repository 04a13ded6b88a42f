import LineShell.Kind
import LineShell.Text.Blank
import LineShell.Text.Case

/-!
Parsers: named functions from raw text to values of a kind. A parser reports a text that it cannot
read in a summary and answers its default value; causes other than a wrong value or a wrong kind of
value are failures of the host and pass through.
-/

namespace LineShell

/-- The outcome for a raw value that is not compatible with what was expected. -/
def Summary.mismatch (expected raw : Value) : Except Failure Summary := do
  let expected ← expected.render
  let raw ← raw.render
  return ⟨some s!"Expected input compatible with type {expected}, got '{raw}'."⟩

/-- What the function of a parser returns: a value with a summary, or something else. -/
inductive Returned
  | pair (value : Value) (summary : Summary)
  | other (value : Value)

/-- A returned value as one value: a pair becomes a list. -/
def Returned.value : Returned → Value
  | .pair v s => .list [v, .summary s]
  | .other v => v

/-- The two parts of a returned value that has just two: items, the names in a record, or the
characters of a text. -/
def Returned.parts? : Returned → Option (Value × Value)
  | .pair v s => some (v, .summary s)
  | .other (.list [v, w]) => some (v, w)
  | .other (.record [(v, _), (w, _)]) => some (.text v, .text w)
  | .other (.text s) =>
    match s.toList with
    | [c, d] => some (.text c.toString, .text d.toString)
    | _ => none
  | .other _ => none

@[simp] theorem Returned.parts?_pair (v : Value) (s : Summary) :
    (Returned.pair v s).parts? = some (v, .summary s) := rfl

/-- The function of a parser. -/
abbrev Conversion := Value → Except Failure Returned

/-- A named function to values of a kind. -/
structure Parser where
  name : String
  kind : Kind
  label : Value
  default : Value
  convert : Conversion

namespace Parser

/-- Whether a failure of the function means that the raw value could not be read. -/
def isMismatch (f : Failure) : Bool :=
  f.kind = .value || f.kind = .type

/-- The answer for a raw value that could not be read. -/
def refuse (p : Parser) (raw : Value) : Except Failure (Value × Summary) := do
  return (p.default, ← Summary.mismatch p.label raw)

/-- Reads a raw value. A function that returns nothing of two parts has not read it; where the
second part is no summary, it cannot be told whether it has. -/
def run (p : Parser) (raw : Value) : Except Failure (Value × Summary) :=
  match p.convert raw with
  | .ok returned =>
    match returned.parts? with
    | some (value, .summary summary) =>
      if summary.isError then .ok (p.default, summary) else .ok (value, summary)
    | some (_, other) => .error (other.lacks "is_error")
    | none => p.refuse raw
  | .error f => if isMismatch f then p.refuse raw else .error f

/-- The parser as diagnostics show it. -/
def describe (p : Parser) : String :=
  s!"parser(name={Text.quoted p.name}, type={p.kind.name})"

/-- The name of a parser that is registered under a text: white space around it does not count. -/
def canonicalName (name : String) : String :=
  normalize (String.ofList (Text.trim name.toList))

/-- A parser of what a host hands over, whose label and default may be left out. -/
def make (function : Option Conversion) (name : Value) (kind : KindArgument)
    (label default : Value) : Except Failure Parser :=
  match function with
  | none => .error ⟨.type, "Parser() function must be callable"⟩
  | some convert =>
    match name with
    | .text name =>
      if (Text.trim name.toList).isEmpty then
        .error ⟨.value, "Parser() name must be a non-empty string"⟩
      else match kind with
        | .kind k =>
          .ok ⟨canonicalName name, k, coalesce label (.text k.name), coalesce default k.zero,
            convert⟩
        | .other _ => .error ⟨.type, "Parser() type must be a type"⟩
    | _ => .error ⟨.value, "Parser() name must be a non-empty string"⟩

end Parser

end LineShell
