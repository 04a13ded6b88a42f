import LineShell.Proofs.Context.Resolution
import LineShell.Proofs.Shell.Session

/-! Sessions without references left over. Main statement: if the variables are empty at first and
no handler of a host binds one, then no variable is ever a reference, and neither is anything that a
line is found to name or that a handler is given. -/
namespace LineShell

open LineShell.Line LineShell.Text

variable {s s₀ t u : Shell} {line name : String} {command : Command} {n : Verdict × Shell}
  {p : Program} {m : Except Raised Program × Shell} {depth : Nat}
  {allowed : Shell.Operation → Prop}

theorem literal_start (h : s.context.bindings.Resolved) (line : String) :
    (s.context.start line).2.Literal := by
  have hnew : (s.context.reset.setInput line).Literal :=
    ⟨h, fun _ hmem => (nomatch hmem), fun _ hmem => nomatch hmem⟩
  exact hnew.readName _

theorem literal_judge (h : s.context.Literal) (name : String) :
    (s.judge name).2.context.Literal := by
  unfold Shell.judge
  split
  · exact h.of_eq rfl rfl rfl
  · split
    · exact h
    · exact h.examine _

theorem literal_gate (h : s.context.bindings.Resolved) (line : String) :
    (s.gate line).2.context.Literal := by
  have hstart := literal_start h line
  unfold Shell.gate
  dsimp only
  split
  · exact literal_judge hstart _
  · exact hstart

theorem literal_rewind (h : s.context.bindings.Resolved) : s.rewind.2.context.Literal := by
  have hnew : ({ s.context with arguments := [], options := .empty }.setInput
      s.context.remainder).Literal :=
    ⟨h, fun _ hmem => (nomatch hmem), fun _ hmem => nomatch hmem⟩
  exact hnew.readName _

theorem Shell.Reached.bindings (h : s.Reached line n) :
    n.2.context.bindings = s.context.bindings :=
  bindings_of_lasting h.lasting

/-- Whatever is decided on, nothing that was read is a reference: neither at the start of the line
nor after it was read again. -/
theorem Shell.Reached.literal (h : s.Reached line n) (hs : s.context.bindings.Resolved) :
    n.2.context.Literal := by
  cases h with
  | first => exact literal_gate hs line
  | @again command t u hbefore _ hrewind =>
    have hrewound := literal_rewind (s := t) (hbefore.bindings ▸ hs)
    rw [hrewind] at hrewound
    exact literal_judge (s := u.readClock.2) hrewound _

/-- Neither is any name under which a command is looked up. -/
theorem Shell.Consults.literal (h : s.Consults line t name) (hs : s.context.bindings.Resolved) :
    ¬ IsReference name := by
  cases h with
  | first hfound => exact literal_readName (c := s.context.reset.setInput line) hs hfound
  | @again t u v name command hbefore hjudge _ hrewind =>
    have hreached := hbefore.reached
    rw [hjudge] at hreached
    have hu : u.context.bindings.Resolved := hreached.bindings ▸ hs
    have hread : ({ u.context with arguments := [], options := .empty }.setInput
        u.context.remainder).readName (Scanner.ofLine u.context.remainder).skipBlanks =
          (true, v.context) := by
      obtain ⟨hread, hv⟩ := Prod.mk.inj hrewind
      exact Prod.ext hread (congrArg Shell.context hv)
    exact literal_readName
      (c := { u.context with arguments := [], options := .empty }.setInput u.context.remainder)
      hu hread

theorem logCommands_kept (s : Shell) :
    s.logCommands.context.bindings = s.context.bindings ∧ s.logCommands.commands = s.commands := by
  obtain ⟨hcontext, hcommands⟩ := listing_kept s
  have hbindings := congrArg Context.bindings hcontext
  exact ⟨hbindings, hcommands⟩

theorem showHelp_kept (s : Shell) :
    s.showHelp.context.bindings = s.context.bindings ∧ s.showHelp.commands = s.commands := by
  unfold Shell.showHelp
  split
  · exact logCommands_kept s
  · unfold Shell.logHelp
    split <;> exact ⟨rfl, rfl⟩

theorem registerAll_context (s : Shell) (items : List Registrable) :
    (s.registerAll items).2.context = s.context := by
  induction items generalizing s with
  | nil => rfl
  | cons item items ih =>
    rw [Shell.registerAll]
    split
    · next t hbind =>
      obtain ⟨c, _, hregister⟩ := ok_of_bind hbind
      have hmade : (Except.ok (some c)).bind s.registerAny = .ok t := hregister
      rw [ih t, registerAny_context hmade]
    · rfl

theorem operate_bindings (s : Shell) (op : Shell.Operation) :
    (s.operate op).context.bindings = s.context.bindings := by
  cases op with
  | register made => rw [operate_register, registerMade_context]
  | registerAll items => exact congrArg Context.bindings (registerAll_context s items)
  | listing => exact congrArg Context.bindings (listing_kept s).1
  | logCommands => exact (logCommands_kept s).1

/-- Of the built-in commands only `set` binds variables. -/
theorem bindings_runBuiltin {b : Builtin} (hb : b ≠ .set) (s : Shell) :
    (s.runBuiltin b).2.context.bindings = s.context.bindings := by
  cases b with
  | set => exact absurd rfl hb
  | log => exact bindings_logArgument s.context
  | help => exact (showHelp_kept s).1
  | _ => rfl

theorem resolved_runBuiltin (h : s.context.Literal) (b : Builtin) :
    (s.runBuiltin b).2.context.bindings.Resolved := by
  by_cases hb : b = .set
  · subst hb
    exact h.assign
  · exact bindings_runBuiltin hb s ▸ h.bindings

/-- No handler binds a variable. -/
def Abstains (allowed : Shell.Operation → Prop) (s₀ : Shell) : Prop :=
  ∀ depth name value next t,
    ¬ Acting (Session allowed s₀) depth (.ok (.ask (.setVariable name value) next), t)

theorem relates_resolved (hhandlers : Abstains allowed s₀) : Relates allowed s₀ fun s t =>
    s.context.bindings.Resolved → t.context.bindings.Resolved where
  trans h h' := h' ∘ h
  lasting h hs := by
    rw [Shell.bindings_of_lasting h]
    exact hs
  operated _ hs := by
    rw [operate_bindings]
    exact hs
  builtin hreached _ ht := resolved_runBuiltin (hreached.literal (hreached.bindings ▸ ht)) _
  ask hacting ht := by
    refine resolved_run ht fun name value hq => ?_
    subst hq
    exact hhandlers _ _ _ _ _ hacting.of_related
  register _ ht := by
    rw [registerMade_context]
    exact ht
  listing t ht := by
    rw [(listing_kept t).1]
    exact ht

/-- In a session whose variables are empty at first and in which no handler binds one, no variable
is a reference, whatever the lines. In no line, whoever hands it over, is a command looked up under
a name that is a reference, and no command that runs finds one among its arguments and the values of
its options, also if another command times it. -/
theorem references_resolved (hempty : s₀.context.bindings = .empty)
    (hhandlers : Abstains allowed s₀) :
    (∀ s, Occurs allowed s₀ s → ∀ entry ∈ s.context.bindings.entries,
      ¬ IsReference entry.1 ∧ ¬ IsReference entry.2) ∧
    ∀ depth s line, Session allowed s₀ depth s →
      (∀ t name, s.Consults line t name → ¬ IsReference name) ∧
      ∀ command t, s.Reached line (.call command, t) →
        (∀ a ∈ t.context.arguments, ¬ IsReference a) ∧
        ∀ o ∈ t.context.options.entries, ∀ value ∈ o.2, ¬ IsReference value := by
  have hstart : s₀.context.bindings.Resolved := hempty ▸ NameMap.resolved_empty
  refine ⟨fun s hoccurs => (relates_resolved hhandlers).later hoccurs.later hstart, ?_⟩
  intro depth s line hsession
  have hs := ((relates_resolved hhandlers).session hsession).2 hstart
  refine ⟨fun t name hconsults => hconsults.literal hs, fun command t hreached => ?_⟩
  have hliteral := hreached.literal hs
  exact ⟨hliteral.arguments, hliteral.options⟩

theorem runBuiltin_commands (s : Shell) (b : Builtin) : (s.runBuiltin b).2.commands = s.commands := by
  cases b with
  | help => exact (showHelp_kept s).2
  | _ => rfl

/-- All commands are built-in ones. -/
def Shell.Stock (s : Shell) : Prop :=
  ∀ entry ∈ s.commands.entries, ∃ b, entry.2.handler = .builtin b

theorem stock_standard : Shell.standard.Stock := by
  intro entry hmem
  obtain hnone | ⟨pair, hpair, hcommand⟩ := NameMap.mem_insertAll hmem
  · cases hnone
  · obtain ⟨b, _, rfl⟩ := List.mem_map.mp hpair
    exact ⟨b, congrArg CommandOf.handler hcommand⟩

theorem not_starts_of_stock (hs : s.Stock) (h : s.Reached line n) : ¬ Shell.Starts n p := by
  intro hstarts
  obtain ⟨name, command, hfind, hruns⟩ := h.runs_of_starts hstarts
  obtain ⟨b, hbuiltin⟩ := hs _ (NameMap.mem_of_lookup hfind)
  dsimp only at hbuiltin
  rw [hbuiltin] at hruns
  cases hruns

theorem relates_stock (h₀ : s₀.Stock) : Relates (fun _ => False) s₀ fun s t =>
    s.Stock → t.Stock where
  trans h h' := h' ∘ h
  lasting h hs := by
    rw [Shell.Stock, Shell.commands_of_lasting h]
    exact hs
  operated hop := hop.elim
  builtin _ _ hs := by
    rw [Shell.Stock, runBuiltin_commands]
    exact hs
  ask _ hs := hs
  register hacting := by
    obtain ⟨⟨_, hs⟩, hreached, hstarts, _⟩ := hacting
    exact absurd hstarts (not_starts_of_stock (hs h₀) hreached)
  listing t ht := by
    rw [Shell.Stock, (listing_kept t).2]
    exact ht

theorem abstains_of_stock (h₀ : s₀.Stock) : Abstains (fun _ => False) s₀ := by
  intro depth name value next t hacting
  obtain ⟨hsession, hreached, hstarts, _⟩ := hacting
  exact not_starts_of_stock (((relates_stock h₀).session hsession).2 h₀) hreached hstarts

theorem references_resolved_set : ∃ s : Shell, Occurs (fun _ => False) Shell.standard s ∧
    s.context.bindings.entries = [("x", "$"), ("$", "5")] ∧
    ∀ entry ∈ s.context.bindings.entries, ¬ IsReference entry.1 ∧ ¬ IsReference entry.2 := by
  obtain ⟨hresolved, _⟩ := references_resolved rfl (abstains_of_stock stock_standard)
  have hoccurs := Occurs.session (.dispatched (.dispatched
    (.opened : Session (fun _ => False) Shell.standard Shell.depthLimit Shell.standard)
    (.text "set X $")) (.text "set $x 5"))
  exact ⟨_, hoccurs, by decide +kernel, hresolved _ hoccurs⟩

end LineShell
