import LineShell.Shell.Gate

/-! Messages written to a context, and when they count as errors. -/
namespace LineShell

variable {c : Context} {f : Fault}

/-- The second context is the first one with one message more: it comes last among those of the
line, is written to the journal once, and its severity is remembered. Nothing else differs. -/
structure Context.Gains (c : Context) (m : Message) (d : Context) : Prop where
  logged : d.logged = c.logged ++ [m]
  journal : d.journal = c.journal.write m
  severities : d.severities = c.severities.add m.severity
  kept : d = { c with logged := d.logged, journal := d.journal, severities := d.severities }

theorem gains_trigger (c : Context) (f : Fault) : c.Gains f.entry (c.trigger f) :=
  ⟨rfl, rfl, rfl, rfl⟩

theorem foldl_write_journal (ms : List Message) (c : Context) :
    (ms.foldl Context.write c).journal = ms.foldl Journal.write c.journal := by
  induction ms generalizing c with
  | nil => rfl
  | cons m ms ih => exact ih (c.write m)

theorem foldl_write_logged (ms : List Message) (c : Context) :
    (ms.foldl Context.write c).logged = c.logged ++ ms := by
  induction ms generalizing c with
  | nil => simp
  | cons m ms ih => simp [ih]

theorem foldl_write_keeps {α : Type} (f : Context → α) (hf : ∀ c m, f (Context.write c m) = f c)
    (ms : List Message) (c : Context) : f (ms.foldl Context.write c) = f c := by
  induction ms generalizing c with
  | nil => rfl
  | cons m ms ih => exact (ih (c.write m)).trans (hf c m)

/-- A severity that is remembered counts as an error if it is among those that do. -/
theorem hasErrors_add_iff {x : Severity} :
    ({ c with severities := c.severities.add x } : Context).hasErrors = true ↔
      c.hasErrors = true ∨ x ∈ c.errorSeverities := by
  rw [Context.hasErrors, Context.hasErrors, Severities.meets_iff, Severities.meets_iff]
  constructor
  · rintro ⟨y, hy, herror⟩
    rcases Severities.mem_add.mp hy with hy | rfl
    · exact .inl ⟨y, hy, herror⟩
    · exact .inr herror
  · rintro (⟨y, hy, herror⟩ | herror)
    · exact ⟨y, Severities.mem_add.mpr (.inl hy), herror⟩
    · exact ⟨x, Severities.mem_add.mpr (.inr rfl), herror⟩

theorem hasErrors_write_iff {m : Message} : (c.write m).hasErrors = true ↔
    c.hasErrors = true ∨ m.severity ∈ c.errorSeverities :=
  hasErrors_add_iff

theorem hasErrors_write {m : Message} (h : m.severity ∉ c.errorSeverities) :
    (c.write m).hasErrors = c.hasErrors := by
  rw [Bool.eq_iff_iff, hasErrors_write_iff, or_iff_left h]

theorem hasErrors_foldl_write_iff {ms : List Message} : (ms.foldl Context.write c).hasErrors = true ↔
    c.hasErrors = true ∨ ∃ m ∈ ms, m.severity ∈ c.errorSeverities := by
  induction ms generalizing c with
  | nil => simp
  | cons m ms ih =>
    have herrors : (c.write m).errorSeverities = c.errorSeverities := rfl
    rw [List.foldl_cons, ih, hasErrors_write_iff, herrors, or_assoc]
    simp only [List.mem_cons, exists_eq_or_imp]

theorem hasErrors_trigger (hf : f.kind.severity = .error) (h : .error ∈ c.errorSeverities) :
    (c.trigger f).hasErrors = true := by
  have hentry : f.entry.severity = .error := hf
  exact hasErrors_write_iff.mpr (.inr (hentry ▸ h))

/-- The arguments beyond the greatest number, with their positions. -/
def Arity.extras (a : Arity) (arguments : List String) : List (String × Nat) :=
  match a.greatest with
  | none => []
  | some greatest => arguments.zipIdx.drop greatest

/-- The warnings about the arguments beyond the greatest number. -/
def Arity.warnings (a : Arity) (arguments : List String) : List Message :=
  (a.extras arguments).map fun extra => (Fault.extraArgument extra.2 extra.1).entry

theorem warnExtras_eq (c : Context) (arity : Arity) :
    c.warnExtras arity = (arity.warnings c.arguments).foldl Context.write c := by
  rw [Arity.warnings, List.foldl_map, Arity.extras, Context.warnExtras]
  cases arity.greatest <;> rfl

theorem warnExtras_of_within {arity : Arity}
    (h : ∀ greatest ∈ arity.greatest, c.arguments.length ≤ greatest) : c.warnExtras arity = c := by
  rw [warnExtras_eq, Arity.warnings, Arity.extras]
  cases hgreatest : arity.greatest with
  | none => rfl
  | some greatest =>
    have hnone : c.arguments.zipIdx.drop greatest = [] :=
      List.drop_eq_nil_of_le (by simpa using h greatest hgreatest)
    dsimp only
    rw [hnone]
    rfl

/-- Warnings about further arguments change nothing but what is logged. -/
theorem warnExtras_keeps {α : Type} (f : Context → α) (hf : ∀ c m, f (Context.write c m) = f c)
    (c : Context) (arity : Arity) : f (c.warnExtras arity) = f c := by
  rw [warnExtras_eq, foldl_write_keeps f hf]

end LineShell
