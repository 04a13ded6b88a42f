import LineShell.Literal.Operator
import LineShell.Literal.Quotation
import LineShell.Literal.Reading
import LineShell.Text.Name

/-!
The rules by which expressions are read. A rule takes the first of its alternatives that matches.
Some alternatives match what is often written by mistake and say what is wrong; most of them only
take part once it is known that the text is no expression. There are no square brackets, which end
a tag of markup.
-/

namespace LineShell.Literal

open Reading

/-- What the rules come to when they are used by a rule. The number says how many levels of reading
lie between the two, beyond the first. -/
abbrev Rules := Nat → Rule → Reading Expression

namespace Rules

variable (rules : Rules)

/-- One expression, or several with commas between and perhaps behind them, which are a tuple. -/
def tupled (r : Reading Expression) : Reading Expression := do
  let first ← r
  let rest ← many (fixed "," *> r)
  let comma ← optional (fixed ",")
  if rest.isEmpty && comma.isNone then return first
  else return .node .tuple (first :: rest)

/-- Expressions with commas between and perhaps behind them. Each may be starred or named. -/
def members (levels : Nat) : Reading (List Expression) := do
  let found ← separated (rules levels .starredOrNamed)
  let _ ← optional (fixed ",")
  return found

/-- An expression that no name is assigned behind. -/
def unassigned (levels : Nat) : Reading Expression := do
  let e ← rules levels .expression
  notAhead (fixed ":=")
  return e

/-- An operand behind a star. -/
def starredOperand (levels : Nat) : Reading Expression := do
  fixed "*"
  return .node .starred [← rules levels .operation]

/-- A choice between two expressions by a third. -/
def conditional (levels : Nat) : Reading Expression := do
  let a ← rules levels .disjunction
  fixed "if"
  let b ← rules levels .disjunction
  fixed "else"
  let c ← rules levels .expression
  return .node .conditional [b, a, c]

/-- Two expressions with nothing between them. -/
def adjacent : Reading Expression := do
  notAhead <| choice
    [ name *> skip fun kind => kind matches .quotation _,
      name >>= fun s => if startsSoftKeyword s then pure () else mismatch ]
  let a ← rules 1 .disjunction
  let _ ← rules 1 .unquestioned
  return a

/-- A choice that says nothing of the other case. -/
def halfConditional : Reading Unit := do
  let _ ← rules 1 .disjunction
  fixed "if"
  let _ ← rules 1 .disjunction
  notAhead (fixedOf ["else", ":"])

/-- Says what is wrong with an expression that another one follows, or that lacks its second half. -/
def wrongExpression : Reading Expression := do
  match ← optional (adjacent rules) with
  | some a =>
    if a.isStatementName || (← previous?).any (·.depth = 0) then mismatch else blame .noComma
  | none => halfConditional rules *> blame .noElse

/-- Says what is wrong with the name of a statement before its operands. -/
def wrongStatement : Reading Expression := do
  let spelling := Text.plainName (← name)
  notAhead (fixed "(")
  let _ ← rules 1 .starredOrPlains
  if (Expression.name spelling).isStatementName then blame (.noParentheses spelling) else mismatch

/-- Says what is wrong with an assignment inside an expression. -/
def wrongNamed : Reading Expression := do
  let equals := fixedOf ["=", ":="]
  choice
    [ do
        let a ← rules 0 .expression
        fixed ":="
        let _ ← rules 0 .expression
        blame (.namedTarget a.form),
      do
        let _ ← name
        fixed "="
        let _ ← rules 0 .operation
        notAhead equals
        blame .equalsEither,
      do
        notAhead <| choice
          [ (fun _ => ()) <$> rules 1 .tuple, (fun _ => ()) <$> rules 1 .generator,
            (fun _ => ()) <$> fixedOf ["True", "None", "False"] ]
        let a ← rules 0 .operation
        fixed "="
        let _ ← rules 0 .operation
        notAhead equals
        blame (.equalsTarget a.form) ]

/-- Operands with a word between them. -/
def joined (word : String) (operand : Rule) : Reading Expression := do
  let first ← rules 0 operand
  let rest ← many (fixed word *> rules 2 operand)
  if rest.isEmpty then return first else return .node .operation (first :: rest)

/-- A comparison with an operand: whether it tests for membership, and the operand. -/
def comparisonStep : Reading (Bool × Expression) := do
  let membership ← choice
    [ (fun _ => false) <$> fixedOf ["==", "!=", "<=", "<", ">=", ">"],
      (fun _ => false) <$> (fixed "not" *> fixed "in"),
      (fun _ => true) <$> fixed "in",
      (fun _ => false) <$> (fixed "is" *> optional (fixed "not")) ]
  return (membership, ← rules 3 .operation)

/-- An operand and what it is compared with. -/
def comparison : Reading Expression := do
  let first ← rules 0 .operation
  match ← many (comparisonStep rules) with
  | [] => return first
  | (membership, second) :: rest =>
    return .node (.comparison membership) (first :: second :: rest.map (·.2))

/-- Operands with operators between them. -/
def operation : Reading Expression := do
  let first ← rules 11 .factor
  let rest ← many do
    let operator ← fixedOf operators
    return (operator, ← rules 11 .factor)
  return assemble [] first rest

/-- A primary with signs in front and perhaps a power behind it. -/
def factor : Reading Expression := do
  let signs ← many (fixedOf ["+", "-", "~"])
  let levels := signs.length + 2
  let base ← choice
    [ do
        fixed "await"
        return .node .awaiting [← rules levels .primary],
      rules levels .primary ]
  let power ← optional (fixed "**" *> rules (signs.length + 1) .factor)
  return signed signs ((power.map fun p => .node .operation [base, p]).getD base)

/-- The arguments of a call between its brackets. -/
def argumentList : Reading (List Expression) := do
  fixed "("
  let found ← optional (rules 1 .arguments)
  fixed ")"
  return match found with
    | some (.node _ parts) => parts
    | _ => []

/-- What may follow a primary: an attribute or a call. -/
def suffix (e : Expression) : Reading Expression :=
  choice
    [ do
        fixed "."
        let _ ← name
        return .node .access [e],
      do return .node .call [e, ← rules 1 .generator],
      do return .node .call (e :: (← argumentList rules)) ]

/-- An expression with all suffixes that a reading finds behind it, `fuel` at most. -/
def withSuffixes (fuel : Nat) (next : Expression → Reading Expression) (e : Expression) :
    Reading Expression :=
  match fuel with
  | 0 => pure e
  | fuel + 1 => do
    match ← optional (next e) with
    | some longer => withSuffixes fuel next longer
    | none => return e

/-- A word that is a constant. -/
def constantWord : Reading Expression :=
  tokenOf fun kind =>
    match kind with
    | .fixed "True" => some (.constant (.truth true))
    | .fixed "False" => some (.constant (.truth false))
    | .fixed "None" => some (.constant .nothing)
    | _ => none

/-- A number. One that is too long is a fault where it is read. -/
def number : Reading Expression := do
  let value ← tokenOf fun kind =>
    match kind with
    | .number v => some v
    | _ => none
  return .constant (← ofExcept value)

/-- A name as an expression. -/
def nameExpression : Reading Expression :=
  (fun spelling => .name (Text.plainName spelling)) <$> name

/-- The expressions without operators and suffixes. -/
def atom : Reading Expression :=
  choice
    [ nameExpression,
      constantWord,
      ahead quotation *> rules 0 .quotations,
      number,
      ahead (fixed "(") *> choice [rules 1 .tuple, rules 1 .group, rules 1 .generator],
      ahead (fixed "\x7b") *> choice
        [ rules 1 .dictionary, rules 1 .set, rules 1 .dictComprehension,
          rules 1 .setComprehension ],
      (fun _ => .constant .ellipsis) <$> fixed "..." ]

/-- Makes sure that quotations are proper, one after the other, and all of them bytes or text. -/
def checkQuotations (bytes : Bool) : List Quotation → Reading Unit
  | [] => pure ()
  | q :: rest => do
    match if q.formatted then none else q.fault? with
    | some f => blame f
    | none => pure ()
    if q.bytes ≠ bytes then blame .mixedQuotations
    if q.formatted then ofExcept ((← read).checkFields q)
    checkQuotations bytes rest

/-- Quotations in a row, which are one text. -/
def quotations : Reading Expression := do
  let found ← many1 quotation
  let bytes := found.head?.any (·.bytes)
  checkQuotations bytes found
  if found.any (·.formatted) then return .node .formatted []
  else return .constant (if bytes then .bytes else .text)

/-- A tuple between brackets. -/
def tuple : Reading Expression := do
  fixed "("
  let parts ← optional do
    let first ← rules 1 .starredOrNamed
    fixed ","
    let rest ← optional (members rules 3)
    return first :: rest.getD []
  fixed ")"
  return .node .tuple (parts.getD [])

/-- Says what is wrong with a starred expression alone between brackets. -/
def wrongGroup : Reading Expression :=
  choice
    [ fixed "(" *> rules 1 .starred *> fixed ")" *> blame .starredGroup,
      fixed "(" *> fixed "**" *> rules 1 .expression *> fixed ")" *> blame .doubleStarredGroup ]

/-- An expression between brackets. -/
def group : Reading Expression :=
  choice
    [ do
        fixed "("
        let e ← choice [rules 1 .yielding, rules 1 .named]
        fixed ")"
        return e,
      whenDiagnosing (wrongGroup rules) ]

/-- Says what is wrong with the members of a comprehension. -/
def wrongComprehension : Reading Expression :=
  choice
    [ fixedOf ["(", "\x7b"] *> rules 1 .starred *> rules 1 .clauses *> blame .starredMember,
      fixed "\x7b" *> rules 1 .starredOrNamed *> fixed "," *> members rules 2 *>
        rules 1 .clauses *> blame .bareTarget,
      fixed "\x7b" *> rules 1 .starredOrNamed *> fixed "," *> rules 1 .clauses *>
        blame .bareTarget ]

/-- A generator between brackets. -/
def generator : Reading Expression :=
  choice
    [ do
        fixed "("
        let e ← choice [rules 1 .assignment, unassigned rules 1]
        let clauses ← rules 0 .clauses
        fixed ")"
        return .node .generator [e, clauses],
      whenDiagnosing (wrongComprehension rules) ]

/-- A key and a value with a colon between them. -/
def entry (levels : Nat) : Reading Expression := do
  let key ← rules levels .expression
  fixed ":"
  let value ← rules levels .expression
  return .node .entry [key, value]

/-- A part of a dictionary. -/
def dictionaryPart (levels : Nat) : Reading Expression :=
  choice
    [ do
        fixed "**"
        return .node .spread [← rules (levels + 3) .operation],
      entry rules (levels + 4) ]

/-- Says what is wrong with a value that is missing or starred. -/
def wrongValue (levels : Nat) : Reading Expression :=
  choice
    [ rules levels .expression *> fixed ":" *> fixed "*" *> rules levels .operation *>
        blame .starredValue,
      rules levels .expression *> fixed ":" *> ahead (fixedOf ["\x7d", ","]) *>
        blame .noValue ]

/-- Says what is wrong with the parts of a dictionary. -/
def wrongParts : Reading Expression :=
  choice
    [ do
        let _ ← separated (dictionaryPart rules 0)
        fixed ","
        choice
          [ rules 2 .expression *> notAhead (fixed ":") *> blame .noColon, wrongValue rules 2 ],
      wrongValue rules 1 ]

/-- A dictionary. What is wrong with one is looked for at once. -/
def dictionary : Reading Expression :=
  choice
    [ do
        fixed "\x7b"
        let parts ← optional do
          let found ← separated (dictionaryPart rules 0)
          let _ ← optional (fixed ",")
          return found
        fixed "\x7d"
        return .node .dictionary (parts.getD []),
      fixed "\x7b" *> wrongParts rules ]

/-- A set. -/
def set : Reading Expression := do
  fixed "\x7b"
  let parts ← members rules 2
  fixed "\x7d"
  return .node .set parts

/-- A dictionary by a comprehension. -/
def dictComprehension : Reading Expression :=
  choice
    [ do
        fixed "\x7b"
        let e ← entry rules 1
        let clauses ← rules 0 .clauses
        fixed "\x7d"
        return .node .dictComprehension [e, clauses],
      whenDiagnosing <|
        fixed "\x7b" *> fixed "**" *> rules 1 .operation *> rules 1 .clauses *> fixed "\x7d" *>
          blame .doubleStarredMember ]

/-- A set by a comprehension. -/
def setComprehension : Reading Expression :=
  choice
    [ do
        fixed "\x7b"
        let e ← rules 0 .named
        let clauses ← rules 0 .clauses
        fixed "\x7d"
        return .node .setComprehension [e, clauses],
      whenDiagnosing (wrongComprehension rules) ]

/-- Says what is wrong with the targets of a clause. -/
def wrongTargets : Reading Expression := do
  match (← rules 3 .starredOrPlains).unassignable? with
  | some e => blame (.assigned e.form)
  | none => mismatch

/-- A clause of a comprehension. Once its targets are read it is one. -/
def clause : Reading Expression := do
  let _ ← optional (fixed "async")
  fixed "for"
  match ← optional (rules 2 .targets <* fixed "in") with
  | some found =>
    let source ← rules 2 .disjunction
    let conditions ← many (fixed "if" *> rules 4 .disjunction)
    return .node .tuple (found :: source :: conditions)
  | none => whenDiagnosing (wrongTargets rules)

/-- An argument without a name. -/
def plainArgument : Reading Expression :=
  choice
    [ rules 2 .starred,
      do
        let e ← choice [rules 3 .assignment, unassigned rules 3]
        notAhead (fixed "=")
        return e ]

/-- Says what is wrong with an argument that is assigned to. -/
def wrongKeyword : Reading Expression :=
  choice
    [ do
        let word ← fixedOf ["True", "False", "None"]
        fixed "="
        blame (.assigned word),
      name *> fixed "=" *> rules 1 .expression *> rules 1 .clauses *> blame .equalsEither,
      do
        notAhead (name *> fixed "=")
        let _ ← rules 1 .expression
        fixed "="
        blame .keywordTarget ]

/-- An argument with a name. -/
def keywordArgument : Reading Expression := do
  let _ ← name
  fixed "="
  return .node .keyword [← rules 2 .expression]

/-- A starred argument, or one with a name. -/
def keywordOrStarred : Reading Expression :=
  choice [whenDiagnosing (wrongKeyword rules), keywordArgument rules, rules 2 .starred]

/-- A doubly starred argument, or one with a name. -/
def keywordOrSpread : Reading Expression :=
  choice
    [ whenDiagnosing (wrongKeyword rules),
      keywordArgument rules,
      do
        fixed "**"
        return .node .spread [← rules 2 .expression] ]

/-- The arguments behind the first one with a name. -/
def keywords : Reading Expression :=
  .node .tuple <$> choice
    [ do
        let found ← separated (keywordOrStarred rules)
        fixed ","
        return found ++ (← separated (keywordOrSpread rules)),
      separated (keywordOrStarred rules),
      separated (keywordOrSpread rules) ]

/-- The parts of arguments. -/
def partsOf : Expression → List Expression
  | .node _ parts => parts
  | _ => []

/-- Arguments without names, then perhaps some with names. -/
def positional : Reading Expression :=
  choice
    [ do
        let found ← separated (plainArgument rules)
        let more ← optional (fixed "," *> rules 1 .keywords)
        return .node .tuple (found ++ ((more.map partsOf).getD [])),
      rules 0 .keywords ]

/-- Whether an argument has no name. -/
def isPositional : Expression → Bool
  | .node .keyword _ => false
  | .node .spread _ => false
  | _ => true

/-- Says what is wrong with a generator among other arguments. -/
def generatorAmong (found : Expression) : Reading Expression :=
  if ((partsOf found).filter isPositional).length ≤ 1 then mismatch else blame .bareGenerator

/-- Says what is wrong with an argument behind others. -/
def misplaced (found : Expression) : Fault :=
  if (partsOf found).any (· matches .node .spread _) then .positionalAfterDoubleStar
  else .positionalAfterKeyword

/-- Says what is wrong with arguments. -/
def wrongArguments : Reading Expression := do
  let early ← optional <| choice
    [ rules 1 .positional *> fixed "," *> fixed "*" *> pure (blame .starAfterDoubleStar),
      rules 1 .expression *> rules 1 .clauses *> fixed "," *>
        optional (choice
          [rules 2 .positional, rules 2 .expression <* rules 2 .clauses]) *>
        pure (blame .bareGenerator),
      name *> fixed "=" *> rules 1 .expression *> rules 1 .clauses *>
        pure (blame .equalsEither),
      do
        let found ← rules 1 .positional
        let _ ← rules 1 .clauses
        return generatorAmong found,
      rules 1 .positional *> fixed "," *> rules 1 .expression *> rules 1 .clauses *>
        pure (blame .bareGenerator),
      do
        let found ← rules 1 .positional
        fixed ","
        let _ ← rules 1 .positional
        return blame (misplaced found) ]
  early.getD mismatch

/-- The arguments of a call. -/
def arguments : Reading Expression :=
  choice
    [ do
        let found ← rules 0 .positional
        let _ ← optional (fixed ",")
        ahead (fixed ")")
        return found,
      whenDiagnosing (wrongArguments rules) ]

/-- What follows a parameter. -/
def parameterEnd : Reading Unit :=
  choice [fixed ",", ahead (fixed ":")]

/-- The default of a parameter. -/
def defaultValue : Reading Expression :=
  choice
    [ fixed "=" *> rules 4 .expression,
      whenDiagnosing (fixed "=" *> ahead (fixedOf [")", ","]) *> blame .noDefault) ]

/-- A parameter without a default. -/
def bareParameter : Reading Unit := do
  let _ ← name
  parameterEnd

/-- A parameter with a default. -/
def defaultParameter : Reading Expression :=
  name *> defaultValue rules <* parameterEnd

/-- A parameter that may have a default. -/
def anyParameter : Reading (List Expression) := do
  let _ ← name
  let found ← optional (defaultValue rules)
  parameterEnd
  return found.toList

/-- Parameters without defaults before a slash. -/
def slashBare : Reading Unit :=
  many1 bareParameter *> fixed "/" *> parameterEnd

/-- Parameters before a slash, the last ones with defaults. -/
def slashDefault : Reading (List Expression) :=
  many bareParameter *> many1 (defaultParameter rules) <* fixed "/" <* parameterEnd

/-- Parameters before a slash. -/
def slashed : Reading Unit :=
  choice [slashBare, (fun _ => ()) <$> slashDefault rules]

/-- Says what is wrong with a doubly starred parameter. -/
def wrongSpreadParameter : Reading Unit :=
  choice
    [ fixed "**" *> name *> fixed "=" *> blame .doubleStarDefault,
      fixed "**" *> name *> fixed "," *> name *> blame .afterDoubleStar,
      fixed "**" *> name *> fixed "," *> fixedOf ["*", "**", "/"] *> blame .afterDoubleStar ]

/-- A doubly starred parameter. -/
def spreadParameter : Reading Unit :=
  choice [whenDiagnosing wrongSpreadParameter, fixed "**" *> bareParameter]

/-- Says what is wrong with a starred parameter. -/
def wrongStarParameter : Reading (List Expression) :=
  choice
    [ fixed "*" *> choice [fixed ":", fixed "," *> (fun _ => ()) <$> fixedOf [":", "**"]] *>
        blame .bareStar,
      fixed "*" *> name *> fixed "=" *> blame .starDefault,
      fixed "*" *> choice [bareParameter, fixed ","] *> many (anyParameter rules) *> fixed "*" *>
        choice [bareParameter, fixed ","] *> blame .starTwice ]

/-- A starred parameter or a star alone, and what follows it. -/
def starParameters : Reading (List Expression) :=
  choice
    [ whenDiagnosing (wrongStarParameter rules),
      do
        fixed "*"
        bareParameter
        let found ← many (anyParameter rules)
        let _ ← optional spreadParameter
        return found.flatten,
      do
        fixed "*"
        fixed ","
        let found ← many1 (anyParameter rules)
        let _ ← optional spreadParameter
        return found.flatten,
      (fun _ => []) <$> spreadParameter ]

/-- Says what is wrong with the parameters of a function. -/
def wrongParameters : Reading (List Expression) :=
  choice
    [ many bareParameter *>
        choice [slashDefault rules, many1 (defaultParameter rules)] *> bareParameter *>
        blame .defaultFirst,
      many bareParameter *> fixed "(" *> separated name *> optional (fixed ",") *> fixed ")" *>
        blame .parenthesizedParameters,
      fixed "/" *> fixed "," *> blame .slashFirst,
      slashed rules *> many (anyParameter rules) *> fixed "/" *> blame .slashTwice,
      optional (slashed rules) *> many (anyParameter rules) *> fixed "*" *>
        choice [fixed ",", bareParameter] *> many (anyParameter rules) *> fixed "/" *>
        blame .slashAfterStar,
      many1 (anyParameter rules) *> fixed "/" *> fixed "*" *> blame .starAfterSlash ]

/-- The defaults of the parameters of a function. -/
def parameters : Reading (List Expression) :=
  let withDefaults (found : List Expression) : Reading (List Expression) := do
    let more ← many (defaultParameter rules)
    let rest ← optional (starParameters rules)
    return found ++ more ++ rest.getD []
  choice
    [ whenDiagnosing (wrongParameters rules),
      slashBare *> many bareParameter *> withDefaults [],
      slashDefault rules >>= withDefaults,
      many1 bareParameter *> withDefaults [],
      do
        let first ← defaultParameter rules
        withDefaults [first],
      starParameters rules ]

/-- A function without a name. -/
def lambda : Reading Expression := do
  fixed "lambda"
  let defaults ← optional (parameters rules)
  fixed ":"
  let body ← rules 0 .expression
  return .node .lambda (defaults.getD [] ++ [body])

/-- What a function hands out in steps. -/
def yielding : Reading Expression :=
  choice
    [ do
        fixed "yield"
        fixed "from"
        return .node .yielding [← rules 0 .expression],
      do
        fixed "yield"
        return .node .yielding (← optional (rules 0 .starredOrPlains)).toList ]

/-- The targets of a clause. -/
def targets : Reading Expression :=
  choice
    [ rules 0 .target <* notAhead (fixed ","),
      do
        let first ← rules 0 .target
        let rest ← many (fixed "," *> rules 2 .target)
        let _ ← optional (fixed ",")
        return .node .tuple (first :: rest) ]

/-- A target, perhaps starred. -/
def target : Reading Expression :=
  choice
    [ do
        fixed "*"
        notAhead (fixed "*")
        return .node .starred [← rules 1 .target],
      rules 0 .plainTarget ]

/-- What goes on with a target. -/
def targetContinues : Reading Unit :=
  (fun _ => ()) <$> fixedOf ["(", "."]

/-- Targets between brackets. -/
def groupedTargets : Reading Expression := do
  fixed "("
  let parts ← optional do
    let first ← rules 2 .target
    let rest ← many (fixed "," *> rules 4 .target)
    if rest.isEmpty then fixed "," else (fun _ => ()) <$> optional (fixed ",")
    return first :: rest
  fixed ")"
  return .node .tuple (parts.getD [])

/-- A target without a star. -/
def plainTarget : Reading Expression :=
  choice
    [ do
        let e ← rules 0 .targetPrimary
        fixed "."
        let _ ← name
        notAhead targetContinues
        return .node .access [e],
      nameExpression,
      fixed "(" *> rules 1 .plainTarget <* fixed ")",
      groupedTargets rules ]

/-- What a target is an attribute of. -/
def targetPrimary : Reading Expression := do
  let first ← rules 1 .atom <* ahead targetContinues
  withSuffixes (← read).tokens.found.size (fun e => suffix rules e <* ahead targetContinues) first

/-- What a rule reads, given what the rules come to that it uses. -/
def step : Rule → Reading Expression
  | .whole => rules 0 .expressions <* many (skip (· matches .lineEnd)) <* skip (· matches .finish)
  | .field => rules 0 .starredOrPlains
  | .expressions => tupled (rules 0 .expression)
  | .starredOrPlain => choice [starredOperand rules 0, rules 0 .expression]
  | .starredOrPlains => tupled (rules 0 .starredOrPlain)
  | .starredOrNamed => choice [starredOperand rules 0, rules 0 .named]
  | .assignment => do
    let spelling ← name
    fixed ":="
    return .node .assignment [.name spelling, ← rules 0 .expression]
  | .named =>
    choice [rules 0 .assignment, whenDiagnosing (rules 0 .wrongNamed), unassigned rules 0]
  | .wrongNamed => wrongNamed rules
  | .expression =>
    choice
      [ whenDiagnosing (wrongExpression rules), whenDiagnosing (wrongStatement rules),
        conditional rules 0, rules 0 .disjunction, rules 0 .lambda ]
  | .unquestioned =>
    Reading.unquestioned <| choice [conditional rules 0, rules 0 .disjunction, rules 0 .lambda]
  | .disjunction => joined rules "or" .conjunction
  | .conjunction => joined rules "and" .inversion
  | .inversion =>
    choice
      [ do
          fixed "not"
          return .node .operation [← rules 0 .inversion],
        rules 0 .comparison ]
  | .comparison => comparison rules
  | .operation => operation rules
  | .factor => factor rules
  | .primary => do
    let first ← rules 1 .atom
    withSuffixes (← read).tokens.found.size (suffix rules) first
  | .atom => atom rules
  | .quotations => quotations
  | .tuple => tuple rules
  | .group => group rules
  | .generator => generator rules
  | .dictionary => dictionary rules
  | .set => set rules
  | .dictComprehension => dictComprehension rules
  | .setComprehension => setComprehension rules
  | .clauses => .node .tuple <$> many1 (clause rules)
  | .starred => do
    fixed "*"
    return .node .starred [← rules 0 .expression]
  | .arguments => arguments rules
  | .positional => positional rules
  | .keywords => keywords rules
  | .lambda => lambda rules
  | .yielding => yielding rules
  | .targets => targets rules
  | .target => target rules
  | .plainTarget => plainTarget rules
  | .targetPrimary => targetPrimary rules

end Rules

/-- What a rule comes to if rules may stand in one another on `levels` levels. -/
def Rule.read (levels : Nat) (rule : Rule) : Reading Expression :=
  match levels with
  | 0 => blame .exhausted
  | levels + 1 =>
    remembered rule (Rules.step (fun between next => Rule.read (levels - between) next) rule)
termination_by levels
decreasing_by omega

end LineShell.Literal
