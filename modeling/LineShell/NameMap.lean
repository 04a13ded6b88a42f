import LineShell.Text.Case

/-!
Maps from names to values. Names that differ only in case are one name: every operation goes by
the canonical form of the name it is given. Entries keep the order in which their names first came;
a new value for a name that is there already takes the place of the old one.
-/

namespace LineShell

/-- Values under canonical names, in order of insertion. -/
structure NameMap (α : Type) where
  entries : List (String × α)

namespace NameMap

variable {α : Type}

/-- The map without entries. -/
def empty : NameMap α := ⟨[]⟩

/-- The canonical names in the map. -/
def keys (m : NameMap α) : List String :=
  m.entries.map (·.1)

/-- The values in the map. -/
def values (m : NameMap α) : List α :=
  m.entries.map (·.2)

/-- The number of entries. -/
def size (m : NameMap α) : Nat :=
  m.entries.length

/-- The value under a name. -/
def find? (m : NameMap α) (name : String) : Option α :=
  m.entries.lookup (normalize name)

/-- Whether there is a value under a name. -/
def contains (m : NameMap α) (name : String) : Bool :=
  (m.find? name).isSome

/-- The entries with a value for a key: in the place of the key, or else at the end. -/
def place (key : String) (a : α) : List (String × α) → List (String × α)
  | [] => [(key, a)]
  | (k, b) :: rest => if k = key then (k, a) :: rest else (k, b) :: place key a rest

/-- The map with a value under a name. -/
def insert (m : NameMap α) (name : String) (a : α) : NameMap α :=
  ⟨place (normalize name) a m.entries⟩

/-- The map without the value under a name. -/
def erase (m : NameMap α) (name : String) : NameMap α :=
  ⟨m.entries.filter (·.1 ≠ normalize name)⟩

/-- The map with values inserted one after the other. -/
def insertAll (m : NameMap α) (pairs : List (String × α)) : NameMap α :=
  pairs.foldl (fun acc pair => acc.insert pair.1 pair.2) m

/-- The canonical names that start with a text. -/
def keysFrom (m : NameMap α) (start : String) : List String :=
  m.keys.filter fun key => start.toList.isPrefixOf key.toList

/-- The value under a name, with the map that is left when it is taken out. -/
def take? (m : NameMap α) (name : String) : Option (α × NameMap α) :=
  (m.find? name).map fun a => (a, m.erase name)

@[simp] theorem find?_empty (name : String) : (empty : NameMap α).find? name = none := rfl

theorem lookup_place_self (key : String) (a : α) (entries : List (String × α)) :
    (place key a entries).lookup key = some a := by
  induction entries with
  | nil => simp [place]
  | cons entry rest ih =>
    obtain ⟨k, b⟩ := entry
    simp only [place]
    split
    · next h => simp [h]
    · next h =>
      have hk : (key == k) = false := by simpa using Ne.symm h
      simp [List.lookup_cons, hk, ih]

theorem lookup_place_ne {key other : String} (h : other ≠ key) (a : α)
    (entries : List (String × α)) : (place key a entries).lookup other = entries.lookup other := by
  have hne : (other == key) = false := by simpa using h
  induction entries with
  | nil => simp [place, List.lookup_cons, hne]
  | cons entry rest ih =>
    obtain ⟨k, b⟩ := entry
    simp only [place]
    split
    · next hk => simp [List.lookup_cons, hk, hne]
    · simp only [List.lookup_cons, ih]

theorem find?_insert_self (m : NameMap α) (name : String) (a : α) :
    (m.insert name a).find? name = some a :=
  lookup_place_self ..

theorem find?_insert_ne (m : NameMap α) {name other : String}
    (h : normalize other ≠ normalize name) (a : α) :
    (m.insert name a).find? other = m.find? other :=
  lookup_place_ne h a m.entries

theorem keys_place (key : String) (a : α) (entries : List (String × α)) :
    (place key a entries).map (·.1) =
      if key ∈ entries.map (·.1) then entries.map (·.1) else entries.map (·.1) ++ [key] := by
  induction entries with
  | nil => simp [place]
  | cons entry rest ih =>
    obtain ⟨k, b⟩ := entry
    simp only [place]
    split
    · next h => simp [h]
    · next h =>
      simp only [List.map_cons, ih, List.mem_cons, Ne.symm h, false_or]
      split <;> simp

/-- A name that is there keeps its position, a new one comes last. -/
theorem keys_insert (m : NameMap α) (name : String) (a : α) :
    (m.insert name a).keys =
      if normalize name ∈ m.keys then m.keys else m.keys ++ [normalize name] :=
  keys_place ..

theorem keys_erase (m : NameMap α) (name : String) :
    (m.erase name).keys = m.keys.filter (· ≠ normalize name) := by
  simp [keys, erase, List.filter_map, Function.comp_def]

theorem lookup_filter_self (key : String) (entries : List (String × α)) :
    (entries.filter (·.1 ≠ key)).lookup key = none := by
  induction entries with
  | nil => rfl
  | cons entry rest ih =>
    obtain ⟨k, b⟩ := entry
    by_cases h : k = key
    · simpa [h] using ih
    · have hk : (key == k) = false := by simpa using Ne.symm h
      simpa [h, List.lookup_cons, hk] using ih

theorem lookup_filter_ne {κ : Type} [DecidableEq κ] {key other : κ} (h : other ≠ key)
    (entries : List (κ × α)) :
    (entries.filter (·.1 ≠ key)).lookup other = entries.lookup other := by
  induction entries with
  | nil => rfl
  | cons entry rest ih =>
    obtain ⟨k, b⟩ := entry
    by_cases hk : k = key
    · subst hk
      have ho : (other == k) = false := by simpa using h
      simpa [List.lookup_cons, ho] using ih
    · simp only [List.filter_cons, hk, ne_eq, not_false_eq_true, decide_true, if_true,
        List.lookup_cons, ← ih]

@[simp] theorem find?_erase_self (m : NameMap α) (name : String) :
    (m.erase name).find? name = none :=
  lookup_filter_self ..

theorem find?_erase_ne (m : NameMap α) {name other : String}
    (h : normalize other ≠ normalize name) : (m.erase name).find? other = m.find? other :=
  lookup_filter_ne h m.entries

end NameMap

end LineShell
