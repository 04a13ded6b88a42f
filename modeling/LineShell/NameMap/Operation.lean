import LineShell.NameMap
import LineShell.Value

/-!
The operations on a name map whose names come from a host. A host may hand over anything as a
name, so each operation first makes sure that it has a text.
-/

namespace LineShell

/-- The failure of what should be a name and is no text. -/
def notAName : Failure :=
  ⟨.type, "normalize() argument must be a string"⟩

/-- A host value that must be a name. -/
def nameOf : Value → Except Failure String
  | .text name => .ok name
  | _ => .error notAName

namespace NameMap

/-- An operation on a map of host values. -/
inductive Operation
  | set (name value : Value)
  | get (name default : Value)
  | item (name : Value)
  | delete (name : Value)
  | contains (name : Value)
  | pop (name : Value) (default : Option Value)
  | popFirst
  | setDefault (name default : Value)
  | update (pairs : List (Value × Value))
  | clear
  | describe

/-- The failure to find a name. -/
def missing (name : String) : Failure :=
  ⟨.key, Text.quoted (normalize name)⟩

/-- Whether two host values are one name. -/
def sameText : Value → Value → Bool
  | .text s, .text t => s = t
  | _, _ => false

/-- Pairs with one more: a text that is there already keeps its place and takes the new value. -/
def collectPair (name value : Value) : List (Value × Value) → List (Value × Value)
  | [] => [(name, value)]
  | (k, v) :: rest =>
    if sameText k name then (k, value) :: rest else (k, v) :: collectPair name value rest

/-- The pairs of an update, each text once. Lists and records cannot stand for names at all. -/
def collect (pairs : List (Value × Value)) : Except Failure (List (Value × Value)) :=
  pairs.foldlM (fun acc (name, value) => do
    return collectPair (← name.asKey) value acc) []

/-- Inserts pairs in order, up to the first whose name is no text. -/
def insertPairs (m : NameMap Value) : List (Value × Value) → Except Failure Value × NameMap Value
  | [] => (.ok .none, m)
  | (name, value) :: rest =>
    match nameOf name with
    | .error e => (.error e, m)
    | .ok name => (m.insert name value).insertPairs rest

/-- Inserts the pairs of an update. -/
def update (m : NameMap Value) (pairs : List (Value × Value)) :
    Except Failure Value × NameMap Value :=
  match collect pairs with
  | .error e => (.error e, m)
  | .ok pairs => m.insertPairs pairs

/-- The map of the given pairs and then the given fields. -/
def ofPairs (pairs : List (Value × Value)) (fields : List (String × Value)) :
    Except Failure (NameMap Value) :=
  match (empty : NameMap Value).update pairs with
  | (.error e, _) => .error e
  | (.ok _, m) => .ok (m.insertAll fields)

/-- The map as diagnostics show it. -/
def describe (m : NameMap Value) : Except Failure String := do
  let entries ← (Value.record m.entries).render
  return s!"CaseInsensitiveDict({entries})"

/-- Runs an operation on a name that must be a text. -/
def withName (m : NameMap Value) (name : Value)
    (f : String → Except Failure Value × NameMap Value) : Except Failure Value × NameMap Value :=
  match nameOf name with
  | .error e => (.error e, m)
  | .ok name => f name

/-- The answer of an operation and the map after it. -/
def Operation.run (m : NameMap Value) : Operation → Except Failure Value × NameMap Value
  | set name value => m.withName name fun name => (.ok .none, m.insert name value)
  | get name default => m.withName name fun name => (.ok ((m.find? name).getD default), m)
  | item name => m.withName name fun name =>
    match m.find? name with
    | some value => (.ok value, m)
    | none => (.error (missing name), m)
  | delete name => m.withName name fun name =>
    if m.contains name then (.ok .none, m.erase name) else (.error (missing name), m)
  | contains (.text name) => (.ok (.bool (m.contains name)), m)
  | contains _ => (.ok (.bool false), m)
  | pop name default => m.withName name fun name =>
    match m.take? name, default with
    | some (value, rest), _ => (.ok value, rest)
    | none, some value => (.ok value, m)
    | none, none => (.error (missing name), m)
  | popFirst =>
    match m.entries with
    | [] => (.error ⟨.key, ""⟩, m)
    | (key, value) :: _ => (.ok (.list [.text key, value]), m.erase key)
  | setDefault name default => m.withName name fun name =>
    match m.find? name with
    | some value => (.ok value, m)
    | none => (.ok default, m.insert name default)
  | update pairs => m.update pairs
  | clear => (.ok .none, empty)
  | describe => (m.describe.map .text, m)

end NameMap

end LineShell
