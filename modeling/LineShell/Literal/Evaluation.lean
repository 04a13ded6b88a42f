import LineShell.Literal.Expression

/-!
The values of expressions. An expression is a literal if it is made of constants, signed and complex
numbers, tuples, sets and dictionaries. Of its value only matters whether it can be a key, that is,
stand in a set or before a colon in a dictionary.
-/

namespace LineShell.Literal

/-- The least whole number that is too great for a real. -/
def realLimit : Nat := Nat.pow 2 1024 - Nat.pow 2 970

/-- What a value is as a key: proper, or of a form that no key has. -/
inductive Key
  | proper
  | improper (form : String)
deriving DecidableEq

/-- A value that is used as a key. -/
def Key.use : Key → Except Fault Unit
  | proper => .ok ()
  | improper form => .error (.unhashable form)

/-- A tuple can be a key if all of its parts can. -/
def Key.and : Key → Key → Key
  | proper, k => k
  | k, _ => k

namespace Expression

/-- The number that an expression writes without a sign. -/
def number? : Expression → Option Constant
  | constant (.integer n) => some (.integer n)
  | constant .real => some .real
  | constant .imaginary => some .imaginary
  | _ => none

/-- The number that an expression writes, perhaps with a sign. -/
def signedNumber? : Expression → Option Constant
  | node .plus [e] => e.number?
  | node .minus [e] => e.number?
  | e => e.number?

/-- A complex number: a whole number or a real, and an imaginary number. -/
def complex (left right : Expression) : Except Fault Key :=
  match left.signedNumber?, right.number? with
  | some (.integer n), some .imaginary =>
    if realLimit ≤ n then .error .tooLarge else .ok .proper
  | some .real, some .imaginary => .ok .proper
  | _, _ => .error .noLiteral

mutual

/-- The value of an expression. -/
def value : Expression → Except Fault Key
  | constant _ => .ok .proper
  | name _ => .error .noLiteral
  | node .tuple parts => tupleValue parts
  | node .set parts => do
    setValue parts
    return .improper "set"
  | node .dictionary parts => do
    dictionaryValue parts
    return .improper "dict"
  | node .call [.name "set"] => .ok (.improper "set")
  | node .sum [left, right] => complex left right
  | node .difference [left, right] => complex left right
  | node form parts =>
    if (node form parts).signedNumber?.isSome then .ok .proper else .error .noLiteral

/-- The value of a tuple. -/
def tupleValue : List Expression → Except Fault Key
  | [] => .ok .proper
  | e :: rest => do
    let first ← value e
    return first.and (← tupleValue rest)

/-- The parts of a set, each of them a key. -/
def setValue : List Expression → Except Fault Unit
  | [] => .ok ()
  | e :: rest => do
    (← value e).use
    setValue rest

/-- The parts of a dictionary. A key is used when its value is known. -/
def dictionaryValue : List Expression → Except Fault Unit
  | [] => .ok ()
  | node .entry parts :: rest => do
    entryValue parts
    dictionaryValue rest
  | _ :: _ => .error .noKey

/-- A key and its value. -/
def entryValue : List Expression → Except Fault Unit
  | [key, v] => do
    let key ← value key
    let _ ← value v
    key.use
  | _ => .error .noKey

end

end Expression

end LineShell.Literal
