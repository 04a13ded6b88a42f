import LineShell.Parser.Registry

/-!
Functions that a host may bring along for its own parsers: some read a raw value, some return a
value with a summary, and some fail in one way or another.
-/

namespace LineShell

/-- A function of the host. A class is the kind of what it returns. -/
structure HostFunction where
  name : String
  kind : Option Kind
  convert : Conversion

namespace HostFunction

open LineShell.Parser

/-- The function that returns the value of a conversion. -/
def ofValue (name : String) (kind : Option Kind) (f : Value → Except Failure Value) :
    HostFunction :=
  ⟨name, kind, fun raw => (f raw).map .other⟩

/-- Colours are known by two names. -/
def color (v : Value) : Except Failure Value :=
  match v with
  | .text "red" | .text "green" => .ok (.object "Color")
  | _ => .error ⟨.value, "no such color"⟩

/-- Text without lower-case letters. -/
def strictUpper : Value → Except Failure Value :=
  withText "upper" fun raw =>
    if Text.upper raw.toList = raw.toList then .ok (.text raw)
    else .error ⟨.value, "not upper case"⟩

/-- The number of items or characters. -/
def length : Value → Except Failure Value
  | .text s => .ok (.int s.length)
  | .list items => .ok (.int items.length)
  | .record fields => .ok (.int fields.length)
  | _ => .error ⟨.type, "no length"⟩

/-- Always the wrong kind of value. -/
def failType (_ : Value) : Except Failure Value :=
  .error ⟨.type, "no value will do"⟩

/-- For a text, always a failure that has nothing to do with it. -/
def failLookup : Value → Except Failure Value
  | .text raw => .error ⟨.lookup, s!"host bug: {raw}"⟩
  | _ => .error ⟨.type, "text was expected"⟩

/-- Numbers from 0 to 100, percent signs after them. -/
def percent : Conversion :=
  withText "rstrip" fun raw => do
    let digits := (raw.toList.reverse.dropWhile (· = '%')).reverse
    match ← toReal (.text (String.ofList digits)) with
    | .real x =>
      if 0 ≤ x && x ≤ 100 then .ok (.pair (.real x) .success)
      else return .pair (.real 0) (← Summary.mismatch (.text "percent (0-100)") (.text raw))
    | v => .ok (.other v)

/-- Even whole numbers. -/
def even : Conversion := fun raw => do
  match ← toWhole raw with
  | .int n => .ok (.pair (.int n) (if n % 2 = 0 then .success else ⟨some "must be even"⟩))
  | v => .ok (.other v)

/-- The sample functions. -/
def samples : List HostFunction :=
  [ ofValue "int" (some .int) toWhole,
    ofValue "float" (some .real) toReal,
    ofValue "str" (some .text) toText,
    ofValue "bool" (some .bool) fun raw => .ok (.bool raw.truthy),
    ofValue "Color" (some (.host "Color")) color,
    ofValue "strict_upper" none strictUpper,
    ofValue "fail_type" none failType,
    ofValue "fail_lookup" none failLookup,
    ofValue "length" none length,
    ⟨"percent", none, percent⟩,
    ⟨"even", none, even⟩,
    ofValue "not_pair" none fun _ => .ok (.int 5) ]

/-- The sample function of a name. -/
def sample? (name : String) : Option HostFunction :=
  samples.find? (·.name = name)

end HostFunction

/-- What a host hands over where a function is expected. -/
inductive FunctionArgument
  | function (f : HostFunction)
  | other (v : Value)

namespace FunctionArgument

/-- What a host hands over under a name: the sample function of that name, or the value itself. -/
def ofValue (v : Value) : Except Failure FunctionArgument := do
  match ← v.asKey with
  | .text name => return ((HostFunction.sample? name).map .function).getD (.other v)
  | _ => return .other v

/-- The function, if it is one. -/
def conversion? : FunctionArgument → Option Conversion
  | function f => some f.convert
  | other _ => none

/-- The kind of a class. -/
def kind? : FunctionArgument → Option Kind
  | function f => f.kind
  | other _ => none

end FunctionArgument

/-- Registers a function that returns the value itself. Its name and, for a class, its kind are
taken from the function if they are left out. -/
def Registry.converter (r : Registry) (f : FunctionArgument) (name : Value)
    (kind : Option KindArgument) (label default : Value) (primary : Bool) :
    Except Failure (Parser × Registry) :=
  match kind.or (f.kind?.map .kind) with
  | none => .error ⟨.type, "converter() requires a type when the function is not a class"⟩
  | some kind =>
    match f with
    | .other v => .error (v.lacks "__name__")
    | .function f =>
      r.define (some (Parser.succeeding f.convert)) (coalesce name (.text f.name)) kind label
        default primary

end LineShell
