import LineShell.NameMap.Operation
import LineShell.Text.Wording

/-!
Operations on whatever a host hands over: unions with the kind of values that were not given, and
canonical names and plurals of what should be text.
-/

namespace LineShell.Value

/-- An operand of a union of kinds: a kind by its name, or a value. -/
inductive Operand
  | kind (name : String)
  | value (v : Value)

/-- The kind that an operand contributes. Of the values only the empty one stands for its kind. -/
def Operand.member? : Operand → Option String
  | kind name => some name
  | value .none => some (typeName .none)
  | value _ => Option.none

/-- What an operand is called when it does not fit. -/
def Operand.described : Operand → String
  | kind _ => "type"
  | value v => v.typeName

/-- The kinds of a union with the kind of values that were not given, in order. -/
def unionWithUnset (operand : Operand) (unsetFirst : Bool) : Except Failure (List String) :=
  let missing := typeName .unset
  let ordered := fun (a b : String) => if unsetFirst then (a, b) else (b, a)
  match operand.member? with
  | some name => let (a, b) := ordered missing name; .ok [a, b]
  | Option.none =>
    let (a, b) := ordered missing operand.described
    .error ⟨.type, s!"unsupported operand type(s) for |: '{a}' and '{b}'"⟩

/-- The failure to make a kind of values out of the kind of those that were not given. -/
def sealedUnset : Failure :=
  ⟨.type, "type 'UnsetType' is not an acceptable base type"⟩

/-- The canonical form of what should be a name. -/
def normalized (v : Value) : Except Failure String :=
  (nameOf v).map normalize

/-- Whether a value is the number one. -/
def isOne : Value → Bool
  | real x => x == 1
  | v => v.toInt? = some 1

/-- The form of what should be a word for what should be a count. -/
def pluralized (word count : Value) : Except Failure String :=
  match word with
  | text word => .ok (Text.pluralize word (if count.isOne then 1 else 0))
  | _ => .error ⟨.type, "pluralize() first argument must be a string"⟩

end LineShell.Value
