import LineShell.Proofs.Shell.Verbatim

/-! Calling a command by its name. The names that a command may be given and the names that a line
can select one by are described apart: a name is any single word, while a line reads a quote at the
start of a word as a quotation, and a dollar sign as a reference. -/
namespace LineShell

open LineShell.Line LineShell.Text

variable {s t : Shell} {command : Command} {name label : String} {text : List Char}

/-- A single word. -/
structure Word (name : String) : Prop where
  nonempty : name.toList ≠ []
  solid : ∀ c ∈ name.toList, isBlank c = false

theorem word_of_checkName {v : Value} (h : CommandOptions.checkName label v = .ok name) :
    Word name := by
  unfold CommandOptions.checkName at h
  split at h
  · dsimp only at h
    split at h
    · cases h
    · next hword =>
      obtain rfl := Except.ok.inj h
      rw [Bool.not_eq_true, Bool.or_eq_false_iff] at hword
      obtain ⟨hsome, hsolid⟩ := hword
      refine ⟨?_, ?_⟩
      · simpa [List.isEmpty_iff] using hsome
      · simpa using hsolid
  · cases h

/-- A command that is made has a single word for its name. -/
theorem word_of_make {H : Type} {o : CommandOptions} {handler : H} {handlerName : String}
    {doc : Option String} {c : CommandOf H}
    (h : o.make label handler handlerName doc = .ok c) : Word c.name := by
  unfold CommandOptions.make at h
  obtain ⟨name, hname, h⟩ := ok_of_bind h
  obtain ⟨least, _, h⟩ := ok_of_bind h
  obtain ⟨greatest, _, h⟩ := ok_of_bind h
  obtain ⟨arity, _, h⟩ := ok_of_bind h
  obtain ⟨help, _, h⟩ := ok_of_bind h
  obtain ⟨extended, _, h⟩ := ok_of_bind h
  obtain rfl := Except.ok.inj h
  exact word_of_checkName hname

/-- A word that a line reads as a command name as it stands: it starts with no quote and is no
reference. -/
structure Selectable (name : String) : Prop where
  unquoted : name.toList.head? ≠ some '"'
  literal : ¬ IsReference name

theorem Word.heads (h : Word name) (hselectable : Selectable name) :
    Spaced.Heads ⟨[], .bare name.toList⟩ name.toList [] := by
  have htoken : NameAt (.bare name.toList) (name.toList ++ []) [] :=
    .bare h.nonempty hselectable.unquoted h.solid atGap_nil
  rw [List.append_nil] at htoken
  exact heads_iff.mpr ⟨_, by simp [Blank], rfl, htoken⟩

theorem find?_register (h : s.register command = .ok t) : t.find? command.name = some command := by
  unfold Shell.register at h
  split at h
  · cases h
  · rw [← Except.ok.inj h]
    exact NameMap.find?_insert_self _ _ _

/-- A command under a selectable name is the one that its name selects. -/
theorem selects_name (hword : Word command.name) (hselectable : Selectable command.name)
    (hfind : s.find? command.name = some command) : s.Selects command.name command [] := by
  refine ⟨_, hword.heads hselectable, bound_bare hselectable.literal, ?_⟩
  rw [expanded_bare hselectable.literal, hfind]

/-- What a line comes to that is only the name of a command: the command is handed an empty text, or
it runs without arguments and options, or its usage is logged if it needs some. -/
theorem gate_of_name (hword : Word command.name) (hselectable : Selectable command.name)
    (hfind : s.find? command.name = some command) :
    (command.handler.isIntercepting = true → ∃ u, s.gate command.name = (.intercept command, u) ∧
      u.context.remainder = "") ∧
    (command.handler.isIntercepting = false → command.arity.least = 0 →
      ∃ u, s.gate command.name = (.call command, u) ∧ u.context.arguments = [] ∧
        u.context.options = .empty) ∧
    (command.handler.isIntercepting = false → 0 < command.arity.least →
      ∃ u, s.gate command.name = (.stop, u) ∧
        u.context.logged = [{ text := command.extendedText }]) := by
  have hname := hword.heads hselectable
  have hbound : Spaced.Bound ⟨[], .bare command.name.toList⟩ s.context.bindings :=
    bound_bare hselectable.literal
  have hfind' : s.find? (Spaced.expanded ⟨[], .bare command.name.toList⟩ s.context.bindings) =
      some command := by
    rw [expanded_bare hselectable.literal, hfind]
  let d : Operands := ⟨[], [], []⟩
  have hcut : d.Cut [] := ⟨[], .done, .done, by simp [d, Blank]⟩
  have hnone : d.Bound s.context.bindings := ⟨by simp [d], by simp [d]⟩
  refine ⟨?_, ?_, ?_⟩
  · intro hraw
    obtain ⟨u, hgate, hremainder, _⟩ := gate_of_intercepting hname hbound hfind' hraw
    exact ⟨u, hgate, hremainder⟩
  · intro hplain hleast
    have hsuits : Suits command s.context.bindings d := by
      refine ⟨hnone, .inl rfl, ?_, hleast.le, .inl fun _ _ => Nat.zero_le _⟩
      rintro ⟨hneeds, _⟩
      exact absurd hleast hneeds.ne'
    obtain ⟨u, hgate⟩ := gate_of_suits hname hbound hfind' hplain hcut hsuits
    refine ⟨_, hgate, ?_, ?_⟩
    · exact warnExtras_keeps Context.arguments (fun _ _ => rfl) _ _
    · exact warnExtras_keeps Context.options (fun _ _ => rfl) _ _
  · intro hplain hleast
    have hbare : Bare command s.context.bindings d := ⟨hleast, rfl, rfl⟩
    exact ⟨_, gate_of_examine hname hbound hfind' hplain
      (examine_of_bare rfl (pastName_rest hname) ⟨rfl, rfl⟩ rfl hcut hnone (.inl rfl) hbare), rfl⟩

theorem expand_empty (token : String) : expand .empty token = token := by
  unfold expand
  split <;> rfl

/-- How the first token of a line that is a single word ends: at its closing quote, or at the end of
the word. -/
theorem Word.token {spelled : Spaced Lexeme} (h : Word name)
    (hname : spelled.Heads name.toList text) :
    (∃ body, spelled.token = .quoted body ∧ name.toList = '"' :: (body ++ '"' :: text)) ∨
      spelled.token = .bare name.toList ∧ name.toList.head? ≠ some '"' := by
  obtain ⟨gap, token⟩ := spelled
  obtain ⟨cs, hgap, hline, htoken⟩ := heads_iff.mp hname
  have hnone : gap = [] := by
    refine List.eq_nil_iff_forall_not_mem.mpr fun c hc => ?_
    have hsolid := h.solid c (hline ▸ List.mem_append_left cs hc)
    rw [hgap c hc] at hsolid
    cases hsolid
  rw [hnone, List.nil_append] at hline
  cases htoken with
  | @quoted body text closed => exact .inl ⟨body, rfl, hline⟩
  | @bare run text nonempty unquoted solid maximal =>
    have hend : text = [] := by
      cases text with
      | nil => rfl
      | cons c tail =>
        have hsolid := h.solid c (by simp [hline])
        rw [maximal c rfl] at hsolid
        cases hsolid
    rw [hend, List.append_nil] at hline
    exact .inr ⟨by rw [hline], hline ▸ unquoted⟩

/-- A line that is an unbound reference selects nothing. -/
theorem not_selects_of_unbound {x : String} (hword : Word name) (href : reference? name = some x)
    (hunbound : s.context.bindings.find? x = none) : ¬ s.Selects name command text := by
  rintro ⟨spelled, hname, hbound, _⟩
  rcases hword.token hname with ⟨body, _, hquoted⟩ | ⟨htoken, _⟩
  · simp [reference?, hquoted] at href
  · rw [Spaced.Bound, htoken, Lexeme.text, String.ofList_toList] at hbound
    have hsome := hbound x href
    rw [hunbound] at hsome
    cases hsome

/-- In a shell without variables in which it is the only command, a command is selected by its name
only if that is selectable. -/
theorem selectable_of_selects {journal : Journal} {clock : Clock} (hword : Word command.name)
    (hregister : (Shell.bare journal clock).register command = .ok t)
    (hselect : t.Selects command.name command text) : Selectable command.name := by
  have ht : t.commands = NameMap.empty.insert command.name command ∧
      t.context.bindings = .empty := by
    unfold Shell.register at hregister
    split at hregister
    · cases hregister
    · rw [← Except.ok.inj hregister]
      exact ⟨rfl, rfl⟩
  have hselected := hselect
  obtain ⟨spelled, hname, _, hfind⟩ := hselected
  rw [Shell.find?, ht.1, ht.2, Spaced.expanded, expand_empty] at hfind
  rcases hword.token hname with ⟨body, htoken, hquoted⟩ | ⟨_, hunquoted⟩
  · -- without its quotes the name is shorter, in lower case as well
    have hshorter := length_lower_lt '"' body ('"' :: text)
    have hne : normalize (String.ofList spelled.token.text) ≠ normalize command.name := by
      intro heq
      have hlower := congrArg String.toList heq
      rw [toList_normalize, toList_normalize, hquoted, String.toList_ofList, htoken] at hlower
      exact absurd (congrArg List.length hlower) hshorter.ne
    rw [NameMap.find?_insert_ne _ hne] at hfind
    cases hfind
  · refine ⟨hunquoted, fun href => ?_⟩
    obtain ⟨x, hx⟩ := reference?_of_isReference href
    have hunbound : t.context.bindings.find? x = none := by rw [ht.2, NameMap.find?_empty]
    exact not_selects_of_unbound hword hx hunbound hselect

/-- A command that is made and registered is selected by its own name in every shell exactly if that
name is selectable: if it starts with no quote and is no reference. Then it runs, or shows its usage
if it needs arguments. The check on the names of commands asks for less, a single word. -/
theorem selected_by_name_iff {o : CommandOptions} {handler : Handler} {handlerName : String}
    {doc : Option String} (hmake : o.make label handler handlerName doc = .ok command) :
    (∀ s t : Shell, s.register command = .ok t → t.find? command.name = some command) ∧
    (Selectable command.name ↔ ∀ s : Shell, s.find? command.name = some command →
      ∃ text, s.Selects command.name command text) ∧
    (Selectable command.name → ∀ s : Shell, s.find? command.name = some command →
      (command.handler.isIntercepting = true → ∃ u, s.gate command.name = (.intercept command, u) ∧
        u.context.remainder = "") ∧
      (command.handler.isIntercepting = false → command.arity.least = 0 →
        ∃ u, s.gate command.name = (.call command, u) ∧ u.context.arguments = [] ∧
          u.context.options = .empty) ∧
      (command.handler.isIntercepting = false → 0 < command.arity.least →
        ∃ u, s.gate command.name = (.stop, u) ∧
          u.context.logged = [{ text := command.extendedText }])) := by
  have hword := word_of_make hmake
  refine ⟨fun s t => find?_register, ⟨?_, ?_⟩, ?_⟩
  · intro hselectable s hfind
    exact ⟨[], selects_name hword hselectable hfind⟩
  · intro hselects
    have hregister : (Shell.bare (.empty 1 Nat.one_pos) ⟨0, 0⟩).register command = .ok _ := rfl
    obtain ⟨text, hselect⟩ := hselects _ (find?_register hregister)
    exact selectable_of_selects hword hregister hselect
  · intro hselectable s hfind
    exact gate_of_name hword hselectable hfind

theorem selected_by_name_go : ∃ (command : Command) (t u : Shell),
    CommandOptions.make { name := .text " go " } "Command" (.plain "run" .done) "run" none =
        .ok command ∧
      command.name = "go" ∧ Shell.standard.register command = .ok t ∧
      t.gate "go" = (.call command, u) ∧ u.context.arguments = [] := by
  obtain ⟨command, t, hmake, hname, hregister, hplain, hleast⟩ : ∃ (command : Command) (t : Shell),
      CommandOptions.make { name := .text " go " } "Command" (.plain "run" .done) "run" none =
        .ok command ∧ command.name = "go" ∧ Shell.standard.register command = .ok t ∧
        command.handler.isIntercepting = false ∧ command.arity.least = 0 :=
    ⟨_, _, rfl, by decide, rfl, rfl, rfl⟩
  have hselectable : Selectable command.name := hname ▸ ⟨by decide, by decide⟩
  obtain ⟨hfind, _, houtcome⟩ := selected_by_name_iff hmake
  obtain ⟨u, hgate, hargs, _⟩ := (houtcome hselectable t (hfind _ t hregister)).2.1 hplain hleast
  exact ⟨command, t, u, hmake, hname, hregister, hname ▸ hgate, hargs⟩

/-- A name that is a reference is accepted, and the line that is this name selects nothing. -/
theorem reference_name_not_selected : ∃ (command : Command) (t : Shell),
    CommandOptions.make { name := .text "$go" } "Command" (.plain "run" .done) "run" none =
        .ok command ∧
      command.name = "$go" ∧ Shell.standard.register command = .ok t ∧
      (∀ text, ¬ t.Selects "$go" command text) ∧
      (t.dispatch "$go").1 = false ∧
      (t.dispatch "$go").2.context.logged = [(Fault.unboundReference "go").entry] := by
  obtain ⟨command, hmake, hname⟩ : ∃ command : Command,
      CommandOptions.make { name := .text "$go" } "Command" (.plain "run" .done) "run" none =
        .ok command ∧ command.name = "$go" := ⟨_, rfl, by decide⟩
  have hword : Word "$go" := hname ▸ word_of_make hmake
  refine ⟨_, _, rfl, by decide, rfl, ?_, by decide +kernel, by decide +kernel⟩
  intro text
  exact not_selects_of_unbound hword rfl rfl

end LineShell
