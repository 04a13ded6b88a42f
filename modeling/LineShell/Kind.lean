import LineShell.Value

/-!
Kinds of values: what a parser produces. Besides the kinds that the library knows there are those
of the host, known by name only.
-/

namespace LineShell

/-- A kind of values. -/
inductive Kind
  | bool
  | int
  | real
  | text
  | host (name : String)
deriving DecidableEq

namespace Kind

/-- The name of a kind. -/
def name : Kind → String
  | bool => "bool"
  | int => "int"
  | real => "float"
  | text => "str"
  | host name => name

/-- The value that stands in when no value of the kind could be read. -/
def zero : Kind → Value
  | bool => .bool false
  | int => .int 0
  | real => .real 0
  | text => .text ""
  | host _ => .none

end Kind

/-- What a host hands over where a kind is expected. -/
inductive KindArgument
  | kind (k : Kind)
  | other (v : Value)

end LineShell
