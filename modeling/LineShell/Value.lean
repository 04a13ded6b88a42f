import LineShell.Decimal.Shortest
import LineShell.Failure
import LineShell.Summary
import LineShell.Text.Numeral
import LineShell.Text.Quoted

/-!
Values that a host hands to a shell or gets back from it: results of converters, defaults, logged
values and the details of faults. What they are is known only to the host, so they are dynamic.
-/

namespace LineShell

/-- A host value. `unset` marks a value that was not given, which differs from `none`, a value
that is given and empty. -/
inductive Value
  | none
  | unset
  | bool (b : Bool)
  | int (n : Int)
  | real (x : Float)
  | text (s : String)
  | list (items : List Value)
  | record (fields : List (String × Value))
  | summary (s : Summary)
  | object (className : String)

namespace Value

/-- The name of a value's type, as diagnostics show it. -/
def typeName : Value → String
  | none => "NoneType"
  | unset => "UnsetType"
  | bool _ => "bool"
  | int _ => "int"
  | real _ => "float"
  | text _ => "str"
  | list _ => "list"
  | record _ => "dict"
  | summary _ => "ParseSummary"
  | object className => className

/-- The failure of a value that does not have what it is asked for. -/
def lacks (v : Value) (asked : String) : Failure :=
  ⟨.noAttribute, s!"'{v.typeName}' object has no attribute '{asked}'"⟩

/-- The value, if it can stand for a name of something: lists and records cannot. -/
def asKey (v : Value) : Except Failure Value :=
  match v with
  | list _ | record _ => .error ⟨.type, s!"unhashable type: '{v.typeName}'"⟩
  | v => .ok v

mutual

/-- The text of a value inside another text, with strings between quotes. -/
def quoted : Value → String
  | none => "None"
  | unset => "Unset"
  | bool b => if b then "True" else "False"
  | int n => toString n
  | real x => Decimal.shortest x
  | text s => Text.quoted s
  | list items => "[" ++ ", ".intercalate (quotedItems items) ++ "]"
  | record fields => "\x7b" ++ ", ".intercalate (quotedFields fields) ++ "\x7d"
  | summary s => "ParseSummary(message=" ++ (s.message.map Text.quoted).getD "None" ++ ")"
  | object className => "<" ++ className ++ ">"

/-- The texts of several values. -/
def quotedItems : List Value → List String
  | [] => []
  | v :: vs => quoted v :: quotedItems vs

/-- The texts of the fields of a record. -/
def quotedFields : List (String × Value) → List String
  | [] => []
  | (name, v) :: rest => (Text.quoted name ++ ": " ++ quoted v) :: quotedFields rest

end

/-- The text of a value on its own: a string stands for itself. -/
def plain : Value → String
  | text s => s
  | v => quoted v

mutual

/-- Whether a value holds a whole number with more digits than are converted to text. -/
def tooLong : Value → Bool
  | int n => Nat.pow 10 Text.digitLimit ≤ n.natAbs
  | list items => anyTooLong items
  | record fields => anyFieldTooLong fields
  | _ => false

/-- Whether one of several values is too long. -/
def anyTooLong : List Value → Bool
  | [] => false
  | v :: vs => tooLong v || anyTooLong vs

/-- Whether one of the fields of a record is too long. -/
def anyFieldTooLong : List (String × Value) → Bool
  | [] => false
  | (_, v) :: rest => tooLong v || anyFieldTooLong rest

end

/-- The failure to convert a whole number with too many digits. -/
def tooManyDigits : Failure :=
  ⟨.value, s!"Exceeds the limit ({Text.digitLimit} digits) for integer string conversion; " ++
    "use sys.set_int_max_str_digits() to increase the limit"⟩

/-- The text of a value, unless it holds a whole number that is too long. -/
def render (v : Value) : Except Failure String :=
  if v.tooLong then .error tooManyDigits else .ok v.plain

/-- Whether a value counts as true: empty values and zeros do not, nor does a value that was not
given. -/
def truthy : Value → Bool
  | none => false
  | unset => false
  | bool b => b
  | int n => n ≠ 0
  | real x => !(x == 0)
  | text s => !s.isEmpty
  | list items => !items.isEmpty
  | record fields => !fields.isEmpty
  | summary _ => true
  | object _ => true

/-- The value as a whole number, where truth values count as one and zero. -/
def toInt? : Value → Option Int
  | int n => some n
  | bool b => some (if b then 1 else 0)
  | _ => Option.none

@[simp] theorem render_text (s : String) : (text s).render = .ok s := by
  simp [render, tooLong, plain]

end Value

/-- A host value, or the default if none was given. -/
def coalesce (value default : Value) : Value :=
  match value with
  | .unset => default
  | v => v

end LineShell
