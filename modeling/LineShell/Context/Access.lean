import LineShell.Context
import LineShell.Context.Reference
import LineShell.NameMap.Operation
import LineShell.Text.Wording

/-!
Typed access to what was read of a line. An accessor answers a value even when it cannot deliver
what was asked for, and logs what is wrong; options are consumed by being read.
-/

namespace LineShell

namespace Fault

/-- An argument that is not there. -/
def missingArgument (position : Int) (name : String) : Fault :=
  .ofCode .missingArgument s!"Missing {Text.ordinal position} argument '{name}'"

/-- An argument that its parser does not take. -/
def argumentMismatch (position : Int) (name problem : String) : Fault :=
  .ofCode .typeMismatch
    s!"Error while parsing {Text.ordinal position} argument '{name}': {problem}"

/-- An option that is not there. -/
def missingOption (name : String) : Fault :=
  .ofCode .missingOption s!"Missing required option '{name}'." s!"add it as -{name}=<value>"

/-- An option that should have a value. -/
def flagMisuse (name : String) : Fault :=
  .ofCode .flagMisuse s!"The option '{name}' cannot be used like a flag."
    s!"give it a value: -{name}=<value>"

/-- An option that its parser does not take. -/
def optionMismatch (name problem : String) : Fault :=
  .ofCode .typeMismatch s!"Error while parsing option '{name}': {problem}"

/-- A flag that its parser does not take. -/
def flagMismatch (name problem : String) : Fault :=
  .ofCode .typeMismatch s!"Error while parsing flag '{name}': {problem}"

/-- An option that no one asked for. -/
def unknownOption (name : String) : Fault :=
  .ofCode .unknownOption s!"Unknown argument: {name}."

end Fault

namespace Context

/-- The parser that is designated, if one is. -/
def parserOf (c : Context) : Option Designator → Except Failure (Option Parser)
  | none => .ok none
  | some d => (c.registry.resolve d none).map some

/-- The value of a raw text and what is wrong with it; without a parser the text itself. -/
def readRaw (p : Option Parser) (raw : String) : Except Failure (Value × Option String) :=
  match p with
  | none => .ok (.text raw, none)
  | some p => (p.run (.text raw)).map fun (value, summary) => (value, summary.message)

/-- The value that stands in for what is missing. -/
def standIn (p : Option Parser) : Value :=
  (p.map (·.default)).getD .none

/-- The argument at an index, which must be there. -/
def argumentAt (c : Context) (index : Nat) (name : String) (p : Option Parser) :
    Except Failure Value × Context :=
  match c.arguments[index]? with
  | none => (.ok (standIn p), c.trigger (.missingArgument (index + 1) name))
  | some raw =>
    match readRaw p raw with
    | .error f => (.error f, c)
    | .ok (value, none) => (.ok value, c)
    | .ok (value, some problem) =>
      (.ok value, c.trigger (.argumentMismatch (index + 1) name problem))

/-- The argument at an index that a host hands over. -/
def argument (c : Context) (index : Int) (name : Value) (parser : Option Designator) :
    Except Failure Value × Context :=
  if index < 0 then
    (.error ⟨.value, s!"argument index must be non-negative, got {index}"⟩, c)
  else
    match c.parserOf parser with
    | .error f => (.error f, c)
    | .ok p => c.argumentAt index.toNat name.plain p

/-- The value of an option, which is consumed. Without a default the option must be there. -/
def takeOption (c : Context) (name : String) (p : Option Parser) (default : Value) :
    Except Failure Value × Context :=
  let fallback := coalesce default (standIn p)
  match c.options.take? name with
  | none =>
    match default with
    | .unset => (.ok fallback, c.trigger (.missingOption name))
    | _ => (.ok fallback, c)
  | some (none, rest) => (.ok fallback, { c with options := rest }.trigger (.flagMisuse name))
  | some (some raw, rest) =>
    let c := { c with options := rest }
    match readRaw p raw with
    | .error f => (.error f, c)
    | .ok (value, none) => (.ok value, c)
    | .ok (value, some problem) =>
      (.ok (coalesce default value), c.trigger (.optionMismatch name problem))

/-- The value of an option that a host names. -/
def option (c : Context) (name : Value) (parser : Option Designator) (default : Value) :
    Except Failure Value × Context :=
  match c.parserOf parser with
  | .error f => (.error f, c)
  | .ok p =>
    match nameOf name with
    | .error f => (.error f, c)
    | .ok name => c.takeOption name p default

/-- The value of a flag, which is consumed. A flag may also be given as an option with a value. -/
def takeFlag (c : Context) (name : String) (p : Parser) (default flagValue : Value) :
    Except Failure Value × Context :=
  match c.options.take? name with
  | none => (.ok default, c)
  | some (none, rest) => (.ok flagValue, { c with options := rest })
  | some (some raw, rest) =>
    let c := { c with options := rest }
    match readRaw (some p) raw with
    | .error f => (.error f, c)
    | .ok (value, none) => (.ok value, c)
    | .ok (_, some problem) => (.ok default, c.trigger (.flagMismatch name problem))

/-- The value of a flag that a host names. The parser of truth values is taken unless another one
is designated. -/
def flag (c : Context) (name : Value) (parser : Option Designator) (default flagValue : Value) :
    Except Failure Value × Context :=
  match c.registry.resolve (parser.getD (.parser .boolean)) (some (.kind .bool)) with
  | .error f => (.error f, c)
  | .ok p =>
    match nameOf name with
    | .error f => (.error f, c)
    | .ok name => c.takeFlag name p default flagValue

/-- Warns about every option that no one asked for. -/
def endParsing (c : Context) : Context :=
  c.options.keys.foldl (fun c name => c.trigger (.unknownOption name)) c

@[simp] theorem takeFlag_remainder (c : Context) (name : String) (p : Parser)
    (default flagValue : Value) :
    (c.takeFlag name p default flagValue).2.remainder = c.remainder := by
  unfold takeFlag
  split
  · rfl
  · rfl
  · dsimp only
    split <;> rfl

end Context

end LineShell
