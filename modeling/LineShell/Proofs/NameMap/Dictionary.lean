import LineShell.NameMap.Operation
import LineShell.Proofs.Operations
import LineShell.Proofs.Text.Lowering
import Mathlib.Data.List.Nodup

/-! A map of names is a dictionary over canonical names. The dictionary is stated apart from the
map, on the plain list of its entries and for keys as they are: it folds no case. -/
namespace LineShell

/-- Values under keys, in the order in which the keys first came. -/
abbrev Dictionary := List (String × Value)

namespace NameMap

/-- An operation on a map, with texts for names. An update brings its pairs one after the other. -/
inductive Request
  | set (name : String) (value : Value)
  | get (name : String) (default : Value)
  | item (name : String)
  | delete (name : String)
  | contains (name : String)
  | pop (name : String) (default : Option Value)
  | popFirst
  | setDefault (name : String) (default : Value)
  | update (pairs : List (String × Value))
  | clear

/-- Pairs as a host hands them over. -/
def named (pairs : List (String × Value)) : List (Value × Value) :=
  pairs.map fun (name, value) => (.text name, value)

/-- The answer of a map and the map after it. -/
def Request.run (m : NameMap Value) : Request → Except Failure Value × NameMap Value
  | set name value => Operation.run m (.set (.text name) value)
  | get name default => Operation.run m (.get (.text name) default)
  | item name => Operation.run m (.item (.text name))
  | delete name => Operation.run m (.delete (.text name))
  | contains name => Operation.run m (.contains (.text name))
  | pop name default => Operation.run m (.pop (.text name) default)
  | popFirst => Operation.run m .popFirst
  | setDefault name default => Operation.run m (.setDefault (.text name) default)
  | update pairs => m.insertPairs (named pairs)
  | clear => Operation.run m .clear

/-- The operation with canonical names. -/
def Request.folded : Request → Request
  | set name value => set (normalize name) value
  | get name default => get (normalize name) default
  | item name => item (normalize name)
  | delete name => delete (normalize name)
  | contains name => contains (normalize name)
  | pop name default => pop (normalize name) default
  | popFirst => popFirst
  | setDefault name default => setDefault (normalize name) default
  | update pairs => update (pairs.map fun (name, value) => (normalize name, value))
  | clear => clear

end NameMap

namespace Dictionary

open NameMap (Request)

/-- Puts a value under a key: in the place of the value that is there, or else at the end. -/
def store (d : Dictionary) (key : String) (value : Value) : Dictionary :=
  if key ∈ d.map (·.1) then d.map fun entry => if entry.1 = key then (key, value) else entry
  else d ++ [(key, value)]

/-- Takes out the entry under a key. -/
def remove (d : Dictionary) (key : String) : Dictionary :=
  d.eraseP (·.1 = key)

/-- Puts values under keys, one after the other. -/
def storeAll (d : Dictionary) (pairs : List (String × Value)) : Dictionary :=
  pairs.foldl (fun d pair => d.store pair.1 pair.2) d

/-- The failure of a key that is not there. -/
def absent (key : String) : Failure := ⟨.key, Text.quoted key⟩

/-- The answer of a dictionary and the dictionary after it. -/
def run (d : Dictionary) : Request → Except Failure Value × Dictionary
  | .set key value => (.ok .none, d.store key value)
  | .get key default => (.ok ((d.lookup key).getD default), d)
  | .item key =>
    match d.lookup key with
    | some value => (.ok value, d)
    | none => (.error (absent key), d)
  | .delete key =>
    match d.lookup key with
    | some _ => (.ok .none, d.remove key)
    | none => (.error (absent key), d)
  | .contains key => (.ok (.bool (d.lookup key).isSome), d)
  | .pop key default =>
    match d.lookup key with
    | some value => (.ok value, d.remove key)
    | none => (default.elim (.error (absent key)) .ok, d)
  | .popFirst =>
    match d with
    | [] => (.error ⟨.key, ""⟩, [])
    | (key, value) :: rest => (.ok (.list [.text key, value]), rest)
  | .setDefault key default =>
    match d.lookup key with
    | some value => (.ok value, d)
    | none => (.ok default, d.store key default)
  | .update pairs => (.ok .none, d.storeAll pairs)
  | .clear => (.ok .none, [])

end Dictionary

namespace NameMap

variable {α : Type} {m : NameMap Value} {name key : String} {value : Value} {entries : Dictionary}
  {request : Request} {requests : List Request}

theorem ne_of_not_mem_keys {entries : List (String × α)} (hkey : key ∉ entries.map (·.1)) :
    ∀ entry ∈ entries, entry.1 ≠ key :=
  fun _ hmem he => hkey (he ▸ List.mem_map_of_mem hmem)

theorem place_eq_store (hdistinct : (entries.map (·.1)).Nodup) (key : String) (value : Value) :
    place key value entries = Dictionary.store entries key value := by
  induction entries with
  | nil => simp [place, Dictionary.store]
  | cons entry rest ih =>
    obtain ⟨k, b⟩ := entry
    obtain ⟨hfirst, hrest⟩ := List.nodup_cons.mp hdistinct
    rw [place]
    by_cases h : k = key
    · subst h
      have hkept : (rest.map fun entry => if entry.1 = k then (k, value) else entry) = rest := by
        refine (List.map_congr_left fun entry hmem => if_neg ?_).trans (List.map_id rest)
        exact ne_of_not_mem_keys hfirst entry hmem
      simp [Dictionary.store, hkept]
    · rw [if_neg h, ih hrest]
      by_cases hmem : key ∈ rest.map (·.1)
      · simp [Dictionary.store, h, hmem]
      · simp [Dictionary.store, hmem, Ne.symm h]

theorem filter_eq_remove (hdistinct : (entries.map (·.1)).Nodup) (key : String) :
    entries.filter (·.1 ≠ key) = Dictionary.remove entries key := by
  induction entries with
  | nil => rfl
  | cons entry rest ih =>
    obtain ⟨hfirst, hrest⟩ := List.nodup_cons.mp hdistinct
    by_cases h : entry.1 = key
    · subst h
      have hkept : rest.filter (·.1 ≠ entry.1) = rest := by
        rw [List.filter_eq_self]
        intro other hmem
        exact decide_eq_true (ne_of_not_mem_keys hfirst other hmem)
      rw [List.filter_cons_of_neg (by simp), hkept, Dictionary.remove,
        List.eraseP_cons_of_pos (by simp)]
    · rw [List.filter_cons_of_pos (by simpa using h), ih hrest, Dictionary.remove,
        Dictionary.remove, List.eraseP_cons_of_neg (by simpa using h)]

theorem lookup_of_mem {entries : List (String × α)} (hdistinct : (entries.map (·.1)).Nodup)
    {entry : String × α} (hmem : entry ∈ entries) : entries.lookup entry.1 = some entry.2 := by
  induction entries with
  | nil => cases hmem
  | cons first rest ih =>
    obtain ⟨hfirst, hrest⟩ := List.nodup_cons.mp hdistinct
    rcases List.mem_cons.mp hmem with rfl | hmem
    · exact List.lookup_cons_self
    · have hne := ne_of_not_mem_keys hfirst entry hmem
      rw [List.lookup_cons, beq_eq_false_iff_ne.mpr hne]
      exact ih hrest hmem

theorem mem_of_lookup {entries : List (String × α)} {a : α} (h : entries.lookup key = some a) :
    (key, a) ∈ entries := by
  obtain ⟨before, after, rfl, _⟩ := List.lookup_eq_some_iff.mp h
  simp

/-- Each canonical name occurs once, and no other name does. -/
structure Tidy (m : NameMap α) : Prop where
  distinct : m.keys.Nodup
  canonical : ∀ key ∈ m.keys, normalize key = key

theorem tidy_empty : (empty : NameMap α).Tidy :=
  ⟨List.nodup_nil, fun _ h => nomatch h⟩

theorem Tidy.insert {m : NameMap α} (h : m.Tidy) (name : String) (a : α) :
    (m.insert name a).Tidy := by
  by_cases hmem : normalize name ∈ m.keys
  · have hkeys : (m.insert name a).keys = m.keys := by rw [keys_insert, if_pos hmem]
    exact ⟨hkeys ▸ h.distinct, hkeys ▸ h.canonical⟩
  · have hkeys : (m.insert name a).keys = m.keys ++ [normalize name] := by
      rw [keys_insert, if_neg hmem]
    refine ⟨?_, ?_⟩
    · rw [hkeys, ← List.concat_eq_append]
      exact h.distinct.concat hmem
    · rw [hkeys]
      intro key hkey
      rcases List.mem_append.mp hkey with hkey | hname
      · exact h.canonical key hkey
      · rw [List.mem_singleton.mp hname, normalize_normalize]

theorem Tidy.erase {m : NameMap α} (h : m.Tidy) (name : String) : (m.erase name).Tidy := by
  refine ⟨?_, ?_⟩
  · rw [keys_erase]
    exact h.distinct.filter _
  · rw [keys_erase]
    exact fun key hkey => h.canonical key (List.mem_filter.mp hkey).1

theorem Tidy.insertAll {m : NameMap α} (h : m.Tidy) (pairs : List (String × α)) :
    (m.insertAll pairs).Tidy := by
  induction pairs generalizing m with
  | nil => exact h
  | cons pair pairs ih => exact ih (h.insert pair.1 pair.2)

/-- A name that is listed finds the value that it is listed with. -/
theorem Tidy.find? {m : NameMap α} (h : m.Tidy) {entry : String × α}
    (hmem : entry ∈ m.entries) : m.find? entry.1 = some entry.2 := by
  unfold NameMap.find?
  rw [h.canonical entry.1 (List.mem_map_of_mem hmem), lookup_of_mem h.distinct hmem]

theorem insertPairs_named (m : NameMap Value) (pairs : List (String × Value)) :
    m.insertPairs (named pairs) = (.ok .none, m.insertAll pairs) := by
  induction pairs generalizing m with
  | nil => rfl
  | cons pair pairs ih => exact ih (m.insert pair.1 pair.2)

theorem Tidy.entries_insert (h : m.Tidy) (name : String) (value : Value) :
    (m.insert name value).entries = Dictionary.store m.entries (normalize name) value :=
  place_eq_store h.distinct (normalize name) value

theorem Tidy.entries_erase (h : m.Tidy) (name : String) :
    (m.erase name).entries = Dictionary.remove m.entries (normalize name) :=
  filter_eq_remove h.distinct (normalize name)

theorem Tidy.entries_insertAll (h : m.Tidy) (pairs : List (String × Value)) :
    (m.insertAll pairs).entries = Dictionary.storeAll m.entries
      (pairs.map fun (name, value) => (normalize name, value)) := by
  induction pairs generalizing m with
  | nil => rfl
  | cons pair pairs ih =>
    rw [List.map_cons, Dictionary.storeAll, List.foldl_cons, ← h.entries_insert]
    exact ih (h.insert pair.1 pair.2)

/-- Every operation answers as the dictionary does for canonical names, and keeps the map tidy. -/
theorem Tidy.run (h : m.Tidy) (request : Request) :
    (request.run m).1 = (Dictionary.run m.entries request.folded).1 ∧
      (request.run m).2.entries = (Dictionary.run m.entries request.folded).2 ∧
      (request.run m).2.Tidy := by
  cases request with
  | set name value => exact ⟨rfl, h.entries_insert name value, h.insert name value⟩
  | get name default => exact ⟨rfl, rfl, h⟩
  | item name =>
    simp only [Request.run, Operation.run, withName, nameOf, Request.folded, Dictionary.run,
      NameMap.find?]
    cases m.entries.lookup (normalize name) with
    | none => exact ⟨rfl, rfl, h⟩
    | some value => exact ⟨rfl, rfl, h⟩
  | delete name =>
    simp only [Request.run, Operation.run, withName, nameOf, Request.folded, Dictionary.run]
    cases hfound : m.entries.lookup (normalize name) with
    | none =>
      have hout : ¬ m.contains name = true := by simp [NameMap.contains, NameMap.find?, hfound]
      rw [if_neg hout]
      exact ⟨rfl, rfl, h⟩
    | some value =>
      have hin : m.contains name = true := by simp [NameMap.contains, NameMap.find?, hfound]
      rw [if_pos hin]
      exact ⟨rfl, h.entries_erase name, h.erase name⟩
  | contains name => exact ⟨rfl, rfl, h⟩
  | pop name default =>
    simp only [Request.run, Operation.run, withName, nameOf, Request.folded, Dictionary.run, take?,
      NameMap.find?]
    cases m.entries.lookup (normalize name) with
    | none => cases default <;> exact ⟨rfl, rfl, h⟩
    | some value => exact ⟨rfl, h.entries_erase name, h.erase name⟩
  | popFirst =>
    simp only [Request.run, Operation.run, Request.folded, Dictionary.run]
    cases hentries : m.entries with
    | nil => exact ⟨rfl, hentries, h⟩
    | cons entry rest =>
      have hfirst : normalize entry.1 = entry.1 :=
        h.canonical entry.1 (by simp [keys, hentries])
      refine ⟨rfl, ?_, h.erase entry.1⟩
      rw [h.entries_erase, hfirst, hentries, Dictionary.remove, List.eraseP_cons_of_pos (by simp)]
  | setDefault name default =>
    simp only [Request.run, Operation.run, withName, nameOf, Request.folded, Dictionary.run,
      NameMap.find?]
    cases m.entries.lookup (normalize name) with
    | none => exact ⟨rfl, h.entries_insert name default, h.insert name default⟩
    | some value => exact ⟨rfl, rfl, h⟩
  | update pairs =>
    rw [Request.run, insertPairs_named]
    exact ⟨rfl, h.entries_insertAll pairs, h.insertAll pairs⟩
  | clear => exact ⟨rfl, rfl, tidy_empty⟩

theorem collectPair_named (key : String) (value : Value) (entries : Dictionary) :
    collectPair (.text key) value (named entries) = named (place key value entries) := by
  induction entries with
  | nil => rfl
  | cons entry rest ih =>
    obtain ⟨k, b⟩ := entry
    rw [place]
    by_cases h : k = key
    · simp [named, collectPair, sameText, h]
    · rw [if_neg h]
      simpa [named, collectPair, sameText, h] using ih

theorem nodup_place (hdistinct : (entries.map (·.1)).Nodup) (key : String) (value : Value) :
    ((place key value entries).map (·.1)).Nodup := by
  rw [keys_place]
  split
  · exact hdistinct
  · next hnew =>
    rw [← List.concat_eq_append]
    exact hdistinct.concat hnew

/-- A mapping that an update is given is itself a dictionary. -/
theorem collect_named (pairs : List (String × Value)) :
    collect (named pairs) = .ok (named (Dictionary.storeAll [] pairs)) := by
  suffices h : ∀ d : Dictionary, (d.map (·.1)).Nodup →
      (named pairs).foldlM (fun acc pair => do
          return collectPair (← pair.1.asKey) pair.2 acc) (named d) =
        (.ok (named (Dictionary.storeAll d pairs)) : Except Failure _) from h [] List.nodup_nil
  intro d hdistinct
  induction pairs generalizing d with
  | nil => rfl
  | cons pair pairs ih =>
    have hstored := place_eq_store hdistinct pair.1 pair.2
    have hnext := ih _ (nodup_place hdistinct pair.1 pair.2)
    rw [← collectPair_named, hstored] at hnext
    exact hnext

/-- The name that an operation must be given as a text. -/
def Operation.name? : Operation → Option Value
  | .set name _ | .get name _ | .item name | .delete name | .pop name _ | .setDefault name _ =>
    some name
  | _ => none

theorem run_nameless {op : Operation} {name : Value} (h : op.name? = some name)
    (hname : nameOf name = .error notAName) : op.run m = (.error notAName, m) := by
  cases op <;> cases h <;> simp only [Operation.run, withName, hname]

theorem runAll_folded (requests : List Request) :
    (runAll Request.run empty requests).1 =
        (runAll Dictionary.run [] (requests.map Request.folded)).1 ∧
      (runAll Request.run empty requests).2.entries =
        (runAll Dictionary.run [] (requests.map Request.folded)).2 ∧
      (runAll Request.run empty requests).2.Tidy := by
  rw [← runAll_map]
  refine runAll_alike (R := fun (m : NameMap Value) d => m.entries = d ∧ m.Tidy) ?_
    ⟨rfl, tidy_empty⟩ requests
  rintro m d request ⟨rfl, htidy⟩
  exact htidy.run request

/-- A map of names answers every run of operations as a dictionary does that is given the canonical
names instead, and lists the entries of that dictionary in its order. It holds canonical names only,
each once, so that a name it lists finds its own value; names that differ in case only make no
difference. What is no text is not contained in it, and no operation takes it for a name. -/
theorem answers_as_dictionary (requests : List Request) :
    ∃ answers m d, runAll Request.run empty requests = (answers, m) ∧
      runAll Dictionary.run [] (requests.map Request.folded) = (answers, d) ∧
      m.entries = d ∧ m.keys.Nodup ∧ (∀ key ∈ m.keys, normalize key = key) ∧
      (∀ entry ∈ m.entries, m.find? entry.1 = some entry.2) ∧
      (∀ others : List Request, others.map Request.folded = requests.map Request.folded →
        runAll Request.run empty others = (answers, m)) ∧
      (∀ pairs, Operation.run m (.update (named pairs)) =
        Request.run m (.update (Dictionary.storeAll [] pairs))) ∧
      (∀ name : Value, (∀ s, name ≠ .text s) →
        Operation.run m (.contains name) = (.ok (.bool false), m) ∧
        ∀ op : Operation, op.name? = some name →
          ∃ failure, failure.kind = .type ∧ op.run m = (.error failure, m)) := by
  obtain ⟨hanswers, hentries, htidy⟩ := runAll_folded requests
  refine ⟨_, _, _, rfl, Prod.ext hanswers.symm rfl, hentries, htidy.distinct, htidy.canonical,
    fun _ hmem => htidy.find? hmem, ?_, ?_, ?_⟩
  · intro others hfolded
    obtain ⟨hanswers', hentries', _⟩ := runAll_folded others
    rw [hfolded, ← hanswers] at hanswers'
    rw [hfolded, ← hentries] at hentries'
    exact Prod.ext hanswers' (congrArg NameMap.mk hentries')
  · intro pairs
    rw [Operation.run, NameMap.update, collect_named]
    rfl
  · intro name hname
    have hnone : nameOf name = .error notAName := by
      unfold nameOf
      split
      · exact absurd rfl (hname _)
      · rfl
    refine ⟨?_, fun op hop => ⟨notAName, rfl, run_nameless hop hnone⟩⟩
    cases name with
    | text s => exact absurd rfl (hname s)
    | _ => rfl

end NameMap

end LineShell
