import LineShell.Literal.Expression
import LineShell.Literal.Scanner
import Std.Data.HashMap

/-!
Reading tokens: a reading takes tokens from a place on, or does not match and leaves the choice to
another one, or finds what is wrong with the text for good. What a rule has come to at a place is
remembered, so that no rule is tried twice there.
-/

namespace LineShell.Literal

/-- The rules by which expressions are read. -/
inductive Rule
  | whole
  | field
  | expressions
  | starredOrPlain
  | starredOrPlains
  | starredOrNamed
  | assignment
  | named
  | wrongNamed
  | expression
  | unquestioned
  | disjunction
  | conjunction
  | inversion
  | comparison
  | operation
  | factor
  | primary
  | atom
  | quotations
  | tuple
  | group
  | generator
  | dictionary
  | set
  | dictComprehension
  | setComprehension
  | clauses
  | starred
  | arguments
  | positional
  | keywords
  | lambda
  | yielding
  | targets
  | target
  | plainTarget
  | targetPrimary
deriving DecidableEq, Hashable

/-- The rules whose results are remembered. -/
def Rule.isRemembered : Rule → Bool
  | expression | starredOrPlain | wrongNamed | disjunction | conjunction | inversion | operation
  | factor | primary | quotations | arguments | target | plainTarget | targetPrimary => true
  | _ => false

/-- What does not change while tokens are read: the tokens, whether wrong expressions are looked
for, and how the fields of formatted text are checked. -/
structure Setting where
  tokens : Tokens
  diagnosing : Bool
  checkFields : Quotation → Except Fault Unit

/-- A place among the tokens, the number of tokens that have been looked at, and what rules have
come to. -/
structure Place where
  position : Nat := 0
  reach : Nat := 0
  memory : Std.HashMap (Nat × Rule) (Option (Expression × Nat)) := {}

/-- A reading. It breaks off with no fault where it does not match. -/
abbrev Reading := ReaderT Setting (EStateM (Option Fault) Place)

namespace Reading

variable {α β : Type}

/-- What does not match. -/
def mismatch : Reading α :=
  throw none

/-- What is wrong for good. -/
def blame (fault : Fault) : Reading α :=
  throw (some fault)

/-- The result of a computation that may find a fault. -/
def ofExcept : Except Fault α → Reading α
  | .ok a => pure a
  | .error f => blame f

/-- A result, or that of another reading from a position if there is none. -/
@[noinline]
def orResume (second : Reading α) (setting : Setting) (position : Nat) :
    EStateM.Result (Option Fault) Place α → EStateM.Result (Option Fault) Place α
  | .error none after => second setting { after with position }
  | result => result

/-- A reading, or another one from the same place if it does not match. -/
def or (first second : Reading α) : Reading α := fun setting place =>
  orResume second setting place.position (first setting place)

/-- The first of several readings that matches. -/
def choice : List (Reading α) → Reading α
  | [] => mismatch
  | r :: rest => or r (choice rest)

/-- A reading that may be left out. -/
def optional (r : Reading α) : Reading (Option α) :=
  or (some <$> r) (pure none)

/-- Whether a result has been found, as seen from a position. -/
@[noinline]
def isFound (position : Nat) :
    EStateM.Result (Option Fault) Place α → EStateM.Result (Option Fault) Place Bool
  | .ok _ after => .ok true { after with position }
  | .error none after => .ok false { after with position }
  | .error (some f) after => .error (some f) after

/-- Whether a reading matches; nothing is taken. -/
def matches? (r : Reading α) : Reading Bool := fun setting place =>
  isFound place.position (r setting place)

/-- Goes on where a reading matches. -/
def ahead (r : Reading α) : Reading Unit := do
  if !(← matches? r) then mismatch

/-- Goes on where a reading does not match. -/
def notAhead (r : Reading α) : Reading Unit := do
  if ← matches? r then mismatch

/-- A reading that only takes place while wrong expressions are looked for. -/
def whenDiagnosing (r : Reading α) : Reading α := do
  if (← read).diagnosing then r else mismatch

/-- A reading that does not look for wrong expressions. -/
def unquestioned (r : Reading α) : Reading α := fun setting place =>
  r { setting with diagnosing := false } place

/-- The next token. What ends the tokens is a fault. -/
def token : Reading Token := fun setting place =>
  let place := { place with reach := max place.reach (place.position + 1) }
  match setting.tokens.found[place.position]? with
  | some t => .ok t { place with position := place.position + 1 }
  | none => .error (some setting.tokens.ending.fault) place

/-- The token before the place. -/
def previous? : Reading (Option Token) := fun setting place =>
  .ok setting.tokens.found[place.position - 1]? place

/-- A token of some kind. -/
def tokenOf (select : TokenKind → Option α) : Reading α := do
  match select (← token).kind with
  | some a => pure a
  | none => mismatch

/-- A fixed token. -/
def fixed (spelling : String) : Reading Unit :=
  tokenOf fun kind =>
    match kind with
    | .fixed s => if s = spelling then some () else none
    | _ => none

/-- One of several fixed tokens. -/
def fixedOf (spellings : List String) : Reading String :=
  tokenOf fun kind =>
    match kind with
    | .fixed s => if spellings.contains s then some s else none
    | _ => none

/-- A name. -/
def name : Reading String :=
  tokenOf fun kind =>
    match kind with
    | .name s => some s
    | _ => none

/-- A quotation. -/
def quotation : Reading Quotation :=
  tokenOf fun kind =>
    match kind with
    | .quotation q => some q
    | _ => none

/-- A token of some kind, which is not kept. -/
def skip (select : TokenKind → Bool) : Reading Unit :=
  tokenOf fun kind => if select kind then some () else none

/-- As many results of a reading as there are, `fuel` at most. -/
def manyFrom (fuel : Nat) (r : Reading α) : Reading (List α) :=
  match fuel with
  | 0 => pure []
  | fuel + 1 => do
    match ← optional r with
    | some a => return a :: (← manyFrom fuel r)
    | none => return []

/-- As many results of a reading as there are. Each takes a token. -/
def many (r : Reading α) : Reading (List α) := do
  manyFrom ((← read).tokens.found.size + 1) r

/-- One or more results of a reading. -/
def many1 (r : Reading α) : Reading (List α) := do
  let first ← r
  return first :: (← many r)

/-- One or more results of a reading with commas between them. -/
def separated (r : Reading α) : Reading (List α) := do
  let first ← r
  return first :: (← many (fixed "," *> r))

/-- The result of a rule at a position, which is remembered. -/
@[noinline]
def keep (rule : Rule) (position : Nat) :
    EStateM.Result (Option Fault) Place Expression → EStateM.Result (Option Fault) Place Expression
  | .ok e after =>
    let memory := after.memory.insert (position, rule) (some (e, after.position))
    .ok e { after with memory }
  | .error none after =>
    .error none { after with memory := after.memory.insert (position, rule) none }
  | .error (some f) after => .error (some f) after

/-- What a rule comes to, remembered or found out. -/
def remembered (rule : Rule) (r : Reading Expression) : Reading Expression := fun setting place =>
  if rule.isRemembered then
    match place.memory[(place.position, rule)]? with
    | some (some (e, behind)) => .ok e { place with position := behind }
    | some none => .error none place
    | none => keep rule place.position (r setting place)
  else r setting place

end Reading

end LineShell.Literal
