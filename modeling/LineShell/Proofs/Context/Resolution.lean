import LineShell.Proofs.Context.Access
import LineShell.Proofs.Context.RoundTrip
import LineShell.Proofs.NameMap.Dictionary

/-! References that leave no reference behind. As long as no variable has a reference for its name
or value, neither has anything that is read of a line, and so none that `set` binds has either. -/
namespace LineShell

open LineShell.Line LineShell.Text

variable {bindings : NameMap String} {token text name value : String} {c d : Context}
  {command : Command}

theorem isReference_of_normalize (h : IsReference (normalize name)) : IsReference name := by
  obtain ⟨hhead, hlength⟩ := h
  rw [toList_normalize] at hhead
  have hdollar := head_of_lower hhead
  refine ⟨hdollar, ?_⟩
  rw [← String.length_toList, toList_normalize] at hlength
  rw [← String.length_toList]
  cases hcs : name.toList with
  | nil => rw [hcs] at hdollar; cases hdollar
  | cons c rest =>
    cases rest with
    | nil =>
      rw [hcs] at hdollar hlength
      obtain rfl : c = '$' := Option.some.inj hdollar
      have hone : (lower ['$']).length = 1 := by decide +kernel
      omega
    | cons d rest => simp

namespace NameMap

variable {α : Type} {m : NameMap α}

theorem mem_place {key : String} {a : α} {entries : List (String × α)} {entry : String × α}
    (h : entry ∈ place key a entries) : entry ∈ entries ∨ entry = (key, a) := by
  induction entries with
  | nil => exact .inr (List.mem_singleton.mp h)
  | cons first rest ih =>
    obtain ⟨k, b⟩ := first
    rw [place] at h
    split at h
    · next hk =>
      rcases List.mem_cons.mp h with rfl | hrest
      · exact .inr (by rw [hk])
      · exact .inl (List.mem_cons_of_mem _ hrest)
    · rcases List.mem_cons.mp h with rfl | hrest
      · exact .inl List.mem_cons_self
      · exact (ih hrest).imp_left (List.mem_cons_of_mem _)

theorem mem_insertAll {pairs : List (String × α)} {entry : String × α}
    (h : entry ∈ (m.insertAll pairs).entries) :
    entry ∈ m.entries ∨ ∃ pair ∈ pairs, entry.2 = pair.2 := by
  induction pairs generalizing m with
  | nil => exact .inl h
  | cons pair pairs ih =>
    rcases ih h with hfirst | ⟨later, hmem, hlater⟩
    · rcases mem_place hfirst with hold | rfl
      · exact .inl hold
      · exact .inr ⟨pair, List.mem_cons_self, rfl⟩
    · exact .inr ⟨later, List.mem_cons_of_mem _ hmem, hlater⟩

/-- No name and no value is a reference. -/
def Resolved (m : NameMap String) : Prop :=
  ∀ entry ∈ m.entries, ¬ IsReference entry.1 ∧ ¬ IsReference entry.2

theorem resolved_empty : (empty : NameMap String).Resolved := fun _ h => nomatch h

theorem Resolved.insert (h : bindings.Resolved) (hname : ¬ IsReference name)
    (hvalue : ¬ IsReference value) : (bindings.insert name value).Resolved := by
  intro entry hmem
  rcases mem_place hmem with hold | rfl
  · exact h entry hold
  · exact ⟨mt isReference_of_normalize hname, hvalue⟩

theorem Resolved.erase (h : bindings.Resolved) (name : String) : (bindings.erase name).Resolved :=
  fun entry hmem => h entry (List.mem_of_mem_filter hmem)

end NameMap

/-- One substitution is enough: what a token stands for is no reference. -/
theorem literal_of_lookUp (h : bindings.Resolved) (hlook : lookUp bindings token = .ok text) :
    ¬ IsReference text := by
  unfold lookUp at hlook
  split at hlook
  · next hnone =>
    obtain rfl := Except.ok.inj hlook
    intro href
    obtain ⟨x, hx⟩ := reference?_of_isReference href
    rw [hx] at hnone
    cases hnone
  · split at hlook
    · next hfind =>
      obtain rfl := Except.ok.inj hlook
      exact (h _ (NameMap.mem_of_lookup hfind)).2
    · cases hlook

/-- What holds of every value holds of all that a loop collects. -/
theorem forall_of_loop {τ β : Type} {read : Scanner → Option (τ × Scanner)}
    {value : τ → Except String β} {P : β → Prop} (hvalue : ∀ token b, value token = .ok b → P b)
    {s e : Scanner} {bs : List β} {u : Option String} (h : Loop read value s bs u e) :
    ∀ b ∈ bs, P b := by
  induction h with
  | stop => exact fun _ hmem => nomatch hmem
  | unbound => exact fun _ hmem => nomatch hmem
  | next _ hfirst _ ih => exact List.forall_mem_cons.mpr ⟨hvalue _ _ hfirst, ih⟩

theorem literal_scanArguments (h : bindings.Resolved) (s : Scanner) :
    ∀ a ∈ (scanArguments bindings s).arguments, ¬ IsReference a :=
  forall_of_loop (fun _ _ => literal_of_lookUp h) (loop_arguments bindings s)

/-- No value of an option is a reference. -/
def LiteralOptions (options : List (String × Option String)) : Prop :=
  ∀ o ∈ options, ∀ value ∈ o.2, ¬ IsReference value

theorem literal_optionOf (h : bindings.Resolved) {token : OptionToken}
    {entry : String × Option String} (hentry : optionOf bindings token = .ok entry) :
    ∀ value ∈ entry.2, ¬ IsReference value := by
  unfold optionOf at hentry
  split at hentry
  · obtain rfl := Except.ok.inj hentry
    exact fun _ hvalue => nomatch hvalue
  · next raw _ =>
    cases hlook : lookUp bindings raw with
    | error name => rw [hlook] at hentry; cases hentry
    | ok text =>
      rw [hlook] at hentry
      obtain rfl := Except.ok.inj hentry
      intro value hvalue
      obtain rfl := Option.some.inj hvalue
      exact literal_of_lookUp h hlook

theorem literal_scanOptions (h : bindings.Resolved) (s : Scanner) :
    LiteralOptions (scanOptions bindings s).options :=
  forall_of_loop (fun _ _ => literal_optionOf h) (loop_options bindings s)

/-- No variable is a reference, and nothing is that was read of the line after its name. -/
structure Context.Literal (c : Context) : Prop where
  bindings : c.bindings.Resolved
  arguments : ∀ a ∈ c.arguments, ¬ IsReference a
  options : LiteralOptions c.options.entries

namespace Context.Literal

/-- Nothing but the variables and what was read is looked at. -/
theorem of_eq (h : c.Literal) (hb : d.bindings = c.bindings) (ha : d.arguments = c.arguments)
    (ho : d.options = c.options) : d.Literal :=
  ⟨hb ▸ h.bindings, ha ▸ h.arguments, ho ▸ h.options⟩

theorem readName (h : c.Literal) (s : Scanner) : (c.readName s).2.Literal := by
  unfold Context.readName
  split
  · split <;> exact h.of_eq rfl rfl rfl
  · next token t _ =>
    dsimp only [Context.substitute]
    cases lookUp c.bindings token <;> exact h.of_eq rfl rfl rfl

theorem readArguments (h : c.Literal) (s : Scanner) : (c.readArguments s).2.Literal := by
  have hargued : (c.argued (scanOperands c.bindings s).1).Literal := by
    refine ⟨h.bindings, ?_, h.options⟩
    intro a hmem
    rcases List.mem_append.mp hmem with hold | hnew
    · exact h.arguments a hold
    · exact literal_scanArguments h.bindings _ a hnew
  unfold Context.readArguments
  dsimp only
  split
  · exact hargued
  · exact hargued.of_eq rfl rfl rfl

theorem readOptions (h : c.Literal) (s : Scanner) : (c.readOptions s).2.Literal := by
  have hoptions : LiteralOptions
      (c.options.insertAll (scanOptions c.bindings s.skipBlanks).options).entries := by
    intro o hmem
    rcases NameMap.mem_insertAll hmem with hold | ⟨pair, hpair, hvalue⟩
    · exact h.options o hold
    · rw [hvalue]
      exact literal_scanOptions h.bindings _ pair hpair
  unfold Context.readOptions
  dsimp only
  split
  · exact ⟨h.bindings, h.arguments, hoptions⟩
  · split <;> exact ⟨h.bindings, h.arguments, hoptions⟩

theorem asksHelp (h : c.Literal) : c.asksHelp.2.Literal := by
  have hoptions : LiteralOptions (c.options.erase "help").entries :=
    fun o hmem => h.options o (List.mem_of_mem_filter hmem)
  have hreading := helpReading c
  generalize c.asksHelp = n at hreading ⊢
  cases hreading <;> exact ⟨h.bindings, h.arguments, hoptions⟩

theorem weigh (h : c.Literal) (command : Command) : (c.weigh command).2.Literal := by
  unfold Context.weigh
  dsimp only
  split
  · exact h.of_eq rfl rfl rfl
  · split
    · exact h.of_eq rfl rfl rfl
    · exact h.of_eq (warnExtras_keeps Context.bindings (fun _ _ => rfl) c _)
        (warnExtras_keeps Context.arguments (fun _ _ => rfl) c _)
        (warnExtras_keeps Context.options (fun _ _ => rfl) c _)

theorem settled (h : c.Literal) (command : Command) : (c.settled command).2.Literal := by
  unfold Context.settled
  split
  · exact h.asksHelp.of_eq rfl rfl rfl
  · split
    · exact h.asksHelp
    · exact h.asksHelp.weigh command

theorem examine (h : c.Literal) (command : Command) : (c.examine command).2.Literal := by
  cases hu : c.scanner with
  | none =>
    rw [examine_idle hu]
    split
    · exact h
    · exact h.settled command
  | some u =>
    rw [examine_phases hu]
    dsimp only
    split
    · exact h.readArguments u
    · split
      · exact (h.readArguments u).readOptions _
      · exact ((h.readArguments u).readOptions _).settled command

/-- What `set` binds is what was read. -/
theorem assign (h : c.Literal) : c.assign.bindings.Resolved := by
  unfold Context.assign
  split
  · exact h.bindings
  · split <;> exact h.bindings
  · next name value _ hargs =>
    have hname : name ∈ c.arguments := hargs ▸ List.mem_cons_self
    have hvalue : value ∈ c.arguments := hargs ▸ List.mem_cons_of_mem _ List.mem_cons_self
    exact h.bindings.insert (h.arguments name hname) (h.arguments value hvalue)

end Context.Literal

/-- A command name that is read is no reference. -/
theorem literal_readName (h : c.bindings.Resolved) {s : Scanner} (hfound : c.readName s = (true, d)) :
    ¬ IsReference (d.commandName.getD "") := by
  unfold Context.readName at hfound
  split at hfound
  · split at hfound <;> cases hfound
  · next token t _ =>
    dsimp only [Context.substitute] at hfound
    cases hlook : lookUp c.bindings token with
    | error name => rw [hlook] at hfound; cases hfound
    | ok text =>
      rw [hlook] at hfound
      obtain rfl := (Prod.mk.inj hfound).2
      exact literal_of_lookUp h hlook

theorem bindings_log (c : Context) (text : Value) (m : Message) :
    (c.log text m).2.bindings = c.bindings := by
  unfold Context.log
  split <;> rfl

theorem bindings_logArgument (c : Context) : c.logArgument.2.bindings = c.bindings := by
  have hargument := framed_bindings.argument c 0 (.text "value") none
  unfold Context.logArgument
  generalize c.argument 0 (.text "value") none = r at hargument ⊢
  obtain ⟨_ | v, e⟩ := r
  · exact hargument
  · exact (bindings_log e v _).trans hargument

/-- A query leaves the variables as they are, unless it binds one or takes one away. -/
theorem bindings_run (q : Query) (c : Context) : (q.run c).2.bindings = c.bindings ∨
    (∃ name value, q = .setVariable (.text name) value ∧
      (q.run c).2.bindings = c.bindings.insert name value) ∨
    ∃ name, q = .unsetVariable (.text name) ∧ (q.run c).2.bindings = c.bindings.erase name := by
  cases q with
  | setVariable name value =>
    cases name with
    | text name => exact .inr (.inl ⟨name, value, rfl, rfl⟩)
    | _ => exact .inl rfl
  | unsetVariable name =>
    cases name with
    | text name =>
      rw [Query.run, nameOf]
      dsimp only
      split
      · exact .inr (.inr ⟨name, rfl, rfl⟩)
      · exact .inl rfl
    | _ => exact .inl rfl
  | argument => exact .inl (framed_bindings.argument c _ _ _)
  | option => exact .inl (framed_bindings.option c _ _ _)
  | flag => exact .inl (framed_bindings.flag c _ _ _ _)
  | endParsing => exact .inl (framed_bindings.endParsing c)
  | log | entry => exact .inl (bindings_log c _ _)
  | lookUp name =>
    rw [Query.run]
    split
    · exact .inl rfl
    · split <;> exact .inl rfl
  | trigger raised => cases raised <;> exact .inl rfl
  | setErrorSeverities members => cases members <;> exact .inl rfl
  | setInput line => cases line <;> exact .inl rfl
  | parseName =>
    rw [Query.run, Context.parseName]
    split
    · exact .inl rfl
    · next s _ => exact .inl (readName_bindings c s)
  | parseArguments =>
    rw [Query.run, Context.parseArguments]
    split
    · exact .inl rfl
    · next s _ => exact .inl (framed_bindings.readArguments c s)
  | parseOptions =>
    rw [Query.run, Context.parseOptions]
    split
    · exact .inl rfl
    · next s _ => exact .inl (framed_bindings.readOptions c s)
  | substitute token => exact .inl (substitute_bindings c token)
  | _ => exact .inl rfl

theorem resolved_run (h : c.bindings.Resolved) {q : Query}
    (hq : ∀ name value, q ≠ .setVariable name value) : (q.run c).2.bindings.Resolved := by
  obtain hkept | ⟨name, value, rfl, _⟩ | ⟨name, _, herased⟩ := bindings_run q c
  · exact hkept ▸ h
  · exact absurd rfl (hq _ _)
  · exact herased ▸ h.erase name

end LineShell
