import LineShell.Proofs.NameMap.Insertion
import LineShell.Proofs.Text.FinalSigma
import LineShell.Proofs.Text.Lowering
import LineShell.Shell.Builtin

/-! The words that a shell offers for what is typed so far. A name is offered for its beginnings,
unless one is cut off inside a word behind a capital sigma: what is typed is brought to lower case as
if it were a whole word, in which such a sigma takes its final form. -/
namespace LineShell

open LineShell.Text

variable {α : Type} {s : Shell} {command : Command} {m : NameMap α}
  {name front rest key start : String}

theorem NameMap.mem_keysFrom :
    key ∈ m.keysFrom start ↔ key ∈ m.keys ∧ start.toList <+: key.toList := by
  rw [keysFrom, List.mem_filter, List.isPrefixOf_iff_prefix]

/-- A name that is there is found from its beginnings. -/
theorem NameMap.mem_keysFrom_beginning (hname : (m.find? (front ++ rest)).isSome) :
    normalize (front ++ rest) ∈ m.keysFrom (normalize front) ↔
      ¬ CutBehindSigma front.toList rest.toList := by
  have hkey : normalize (front ++ rest) ∈ m.keys := (contains_iff m _).mp hname
  rw [mem_keysFrom, toList_normalize, toList_normalize, String.toList_append, lower_isPrefix_iff]
  exact and_iff_right hkey

theorem matchingWords_dollar (s : Shell) (front : String) : s.matchingWords ("$" ++ front) =
    (s.context.bindings.keysFrom (normalize front)).map ("$" ++ ·) := by
  simp [Shell.matchingWords, Context.matchingReferences]

/-- A dollar sign starts every reference that is offered. -/
theorem head_of_matchingReferences {c : Context} {word : String}
    (h : word ∈ c.matchingReferences front) : word.toList.head? = some '$' := by
  unfold Context.matchingReferences at h
  split at h
  · obtain ⟨key, _, rfl⟩ := List.mem_map.mp h
    simp
  · obtain ⟨key, _, rfl⟩ := List.mem_map.mp h
    simp
  · cases h

/-- A command whose name starts with no dollar sign is offered under its canonical name for a
beginning of its name, and so is a variable for a reference that is begun, exactly if the name is not
cut inside a word behind a capital sigma. -/
theorem beginning_offered_iff (s : Shell) :
    (∀ (command : Command) (front rest : String), s.find? command.name = some command →
      command.name.toList.head? ≠ some '$' → command.name = front ++ rest →
      (command.key ∈ s.matchingWords front ↔ ¬ CutBehindSigma front.toList rest.toList)) ∧
    ∀ name value front rest : String, s.context.bindings.find? name = some value →
      name = front ++ rest →
      ("$" ++ normalize name ∈ s.matchingWords ("$" ++ front) ↔
        ¬ CutBehindSigma front.toList rest.toList) := by
  constructor
  · intro command front rest hfind hplain hname
    have hfront : front.toList.head? ≠ some '$' := by
      intro hdollar
      rw [hname, String.toList_append, List.head?_append, hdollar] at hplain
      exact hplain rfl
    have hkeys : command.key ∈ s.commands.keysFrom (normalize front) ↔
        ¬ CutBehindSigma front.toList rest.toList := by
      rw [CommandOf.key, hname]
      refine NameMap.mem_keysFrom_beginning ?_
      rw [← hname]
      exact Option.isSome_of_eq_some hfind
    have hother : command.key ∉ s.context.matchingReferences front := by
      intro hmem
      have hdollar := head_of_matchingReferences hmem
      rw [CommandOf.key, toList_normalize] at hdollar
      exact hplain (head_of_lower hdollar)
    rw [Shell.matchingWords, if_neg hfront, List.mem_append, or_iff_right hother, hkeys]
  · rintro name value front rest hfind rfl
    rw [matchingWords_dollar, ← NameMap.mem_keysFrom_beginning (Option.isSome_of_eq_some hfind)]
    simp

/-- A command that does nothing. -/
def idleCommand (name : String) : Command :=
  { Builtin.noop.command with name }

/-- A shell with one command. -/
def loneShell (name : String) : Shell :=
  { Shell.bare (.empty 1 Nat.one_pos) ⟨0, 0⟩ with
    commands := NameMap.empty.insert name (idleCommand name) }

theorem register_lone (name : String) :
    (Shell.bare (.empty 1 Nat.one_pos) ⟨0, 0⟩).register (idleCommand name) = .ok (loneShell name) :=
  rfl

theorem find?_lone (name : String) : (loneShell name).find? name = some (idleCommand name) :=
  NameMap.find?_insert_self ..

theorem beginning_offered_iff_odos : ∃ t : Shell,
    t = (loneShell "ΟΔΟΣ").mapContext (·.bindVariable "ΑΣ" "1") ∧
      t.find? "ΟΔΟΣ" = some (idleCommand "ΟΔΟΣ") ∧ t.context.bindings.find? "ΑΣ" = some "1" ∧
      normalize "ΟΔΟΣ" ∈ t.matchingWords "ΟΔΟ" ∧ "$" ++ normalize "ΑΣ" ∈ t.matchingWords "$ΑΣ" := by
  obtain ⟨hcommands, hvariables⟩ :=
    beginning_offered_iff ((loneShell "ΟΔΟΣ").mapContext (·.bindVariable "ΑΣ" "1"))
  have hfind := find?_lone "ΟΔΟΣ"
  have hbound := NameMap.find?_insert_self (NameMap.empty : NameMap String) "ΑΣ" "1"
  refine ⟨_, rfl, hfind, hbound, ?_, ?_⟩
  · exact (hcommands (idleCommand "ΟΔΟΣ") "ΟΔΟ" "Σ" hfind (by decide) (by decide)).mpr
      (by decide +kernel)
  · exact (hvariables "ΑΣ" "1" "ΑΣ" "" hbound (by decide)).mpr (by decide +kernel)

/-- A sigma at the end of what is typed is final there, but not in the name. -/
theorem beginning_behind_sigma_not_offered :
    (Shell.bare (.empty 1 Nat.one_pos) ⟨0, 0⟩).register (idleCommand "ΑΣΑ") =
        .ok (loneShell "ΑΣΑ") ∧
      (loneShell "ΑΣΑ").find? "ΑΣΑ" = some (idleCommand "ΑΣΑ") ∧ "ΑΣΑ" = "ΑΣ" ++ "Α" ∧
      (idleCommand "ΑΣΑ").key ∉ (loneShell "ΑΣΑ").matchingWords "ΑΣ" :=
  ⟨register_lone _, find?_lone _, by decide, by decide +kernel⟩

end LineShell
