import LineShell.Parser.Builtin

/-!
The registry of parsers. There is at most one parser for a name and a kind, in the order in which
each pair first came; one parser of each kind is the primary one, which is taken when only the kind
is asked for.
-/

namespace LineShell

/-- The registered parsers, and those that stand for a kind. -/
structure Registry where
  parsers : List Parser
  primaries : List (Kind × Parser)

/-- What a host hands over where a parser is expected. -/
inductive Designator
  | parser (p : Parser)
  | kind (k : Kind)
  | name (s : String)
  | other (v : Value)

namespace Registry

/-- Whether two parsers are registered in the same place. -/
def samePlace (p q : Parser) : Bool :=
  p.name = q.name && p.kind = q.kind

/-- The parsers with one more: in its place, or else at the end. -/
def place (p : Parser) : List Parser → List Parser
  | [] => [p]
  | q :: rest => if samePlace q p then p :: rest else q :: place p rest

/-- The primary parser of a kind. -/
def primary? (r : Registry) (k : Kind) : Option Parser :=
  r.primaries.lookup k

/-- The registry with a parser. The first one of a kind becomes its primary parser by itself. -/
def register (r : Registry) (p : Parser) (primary : Bool) : Registry where
  parsers := place p r.parsers
  primaries :=
    if primary || (r.primary? p.kind).isNone then
      (p.kind, p) :: r.primaries.filter (·.1 ≠ p.kind)
    else r.primaries

/-- Registers what a host hands over. -/
def registerAny (r : Registry) (d : Designator) (primary : Bool) :
    Except Failure (Parser × Registry) :=
  match d with
  | .parser p => .ok (p, r.register p primary)
  | _ => .error ⟨.type, "register() argument must be a Parser"⟩

/-- Makes a parser and registers it. -/
def define (r : Registry) (function : Option Conversion) (name : Value) (kind : KindArgument)
    (label default : Value) (primary : Bool) : Except Failure (Parser × Registry) := do
  let p ← Parser.make function name kind label default
  return (p, r.register p primary)

/-- The registry without parsers. -/
def empty : Registry := ⟨[], []⟩

/-- The registry of the built-in parsers. -/
def builtin : Registry :=
  ((((empty.register .boolean true).register .switch false).register .integer true).register
    .real true).register .text true

/-- Whether a parser is one of those asked for by name and, if given, by kind. -/
def answers (name : String) (kind : Option KindArgument) (p : Parser) : Bool :=
  p.name = name &&
    match kind with
    | none => true
    | some (.kind k) => p.kind = k
    | some (.other _) => false

/-- The end of a failure to find a name, which tells the kind that was asked for. -/
def kindSuffix : Option KindArgument → Except Failure String
  | none => .ok ""
  | some (.kind k) => .ok s!" for type {Text.quoted k.name}"
  | some (.other v) => .error (v.lacks "__name__")

/-- The one parser under a name. -/
def resolveName (r : Registry) (name : String) (kind : Option KindArgument) :
    Except Failure Parser :=
  match r.parsers.filter (answers (normalize name) kind) with
  | [p] => .ok p
  | [] => do
    let suffix ← kindSuffix kind
    .error ⟨.lookup, s!"no parser named {Text.quoted name}{suffix}"⟩
  | _ =>
    .error ⟨.lookup, s!"parser name {Text.quoted name} is ambiguous; pass the expected type"⟩

/-- The parser that is designated: itself, the primary one of a kind, or the one under a name. -/
def resolve (r : Registry) (d : Designator) (kind : Option KindArgument) :
    Except Failure Parser :=
  match d with
  | .parser p => .ok p
  | .kind k =>
    match r.primary? k with
    | some p => .ok p
    | none => .error ⟨.lookup, s!"no parser registered for type {Text.quoted k.name}"⟩
  | .name name => r.resolveName name kind
  | .other _ => .error ⟨.type, "resolve() argument must be a Parser, a type or a parser name"⟩

end Registry

end LineShell
