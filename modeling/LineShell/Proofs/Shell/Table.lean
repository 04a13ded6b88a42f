import LineShell.Proofs.Shell.Session
import LineShell.Proofs.NameMap.Dictionary
import LineShell.Shell.Host

/-! The table of commands and its listing. A shell registers a command at the end of its table, and
only if its canonical name is free. Main statement: in every state of a session each command stands
under its canonical name, nothing that is registered goes or is replaced, and the listing is that of
the commands there are. -/
namespace LineShell

variable {s s₀ t u : Shell} {line name : String} {c command : Command} {n : Verdict × Shell}
  {p q : Program} {m m' : Except Raised Program × Shell} {depth : Nat}
  {allowed : Shell.Operation → Prop} {items : List Registrable}

namespace NameMap

variable {α : Type} {key : String} {entries : List (String × α)}

theorem place_of_not_mem (hnew : key ∉ entries.map (·.1)) (a : α) :
    place key a entries = entries ++ [(key, a)] := by
  induction entries with
  | nil => rfl
  | cons entry rest ih =>
    obtain ⟨k, b⟩ := entry
    rw [List.map_cons, List.mem_cons, not_or] at hnew
    obtain ⟨hne, hrest⟩ := hnew
    rw [place, if_neg (Ne.symm hne), ih hrest, List.cons_append]

end NameMap

namespace Shell

/-- The shell with a command at the end of its table. -/
def add (s : Shell) (c : Command) : Shell :=
  { s with commands := ⟨s.commands.entries ++ [(c.key, c)]⟩, listingCache := none }

/-- The failure to register a command under a name that is there already. -/
def taken (c : Command) : Failure :=
  ⟨.value, s!"command {Text.quoted c.name} is already registered"⟩

/-- A command is registered at the end of the table, or refused if its canonical name is taken. -/
theorem register_eq (s : Shell) (c : Command) :
    s.register c = if c.key ∈ s.commands.keys then .error (taken c) else .ok (s.add c) := by
  unfold register
  by_cases htaken : c.key ∈ s.commands.keys
  · rw [if_pos ((NameMap.contains_iff _ _).mpr htaken), if_pos htaken]
    rfl
  · rw [if_neg (mt (NameMap.contains_iff _ _).mp htaken), if_neg htaken]
    refine congrArg (fun entries => Except.ok { s with commands := ⟨entries⟩, listingCache := none }) ?_
    exact NameMap.place_of_not_mem htaken c

theorem add_of_register (h : s.register c = .ok t) : c.key ∉ s.commands.keys ∧ t = s.add c := by
  rw [register_eq] at h
  split at h
  · cases h
  · next hfree => exact ⟨hfree, (Except.ok.inj h).symm⟩

theorem entries_addAll (s : Shell) (cs : List Command) :
    (cs.foldl add s).commands.entries = s.commands.entries ++ cs.map fun c => (c.key, c) := by
  induction cs generalizing s with
  | nil => simp
  | cons c cs ih => rw [List.foldl_cons, ih, add, List.append_assoc, List.map_cons,
      List.singleton_append]

/-- Of several commands those before the first that is refused are registered, and no other ones. -/
theorem registerAll_stops (s : Shell) (items : List Registrable) :
    ∃ (cs : List Command) (rest : List Registrable),
      items.map (·.command) = cs.map .ok ++ rest.map (·.command) ∧ rest <:+ items ∧
      (s.registerAll items).2 = cs.foldl add s ∧
      ((rest = [] ∧ (s.registerAll items).1 = .ok ()) ∨
        ∃ item later f, rest = item :: later ∧ (s.registerAll items).1 = .error f ∧
          item.command.bind (cs.foldl add s).register = .error f) := by
  induction items generalizing s with
  | nil => exact ⟨[], [], rfl, List.suffix_rfl, rfl, .inl ⟨rfl, rfl⟩⟩
  | cons item items ih =>
    cases hbind : item.command.bind s.register with
    | error f =>
      have hall : s.registerAll (item :: items) = (.error f, s) := by rw [registerAll, hbind]
      refine ⟨[], item :: items, rfl, List.suffix_rfl, ?_, .inr ⟨item, items, f, rfl, ?_, hbind⟩⟩
      · rw [hall, List.foldl_nil]
      · rw [hall]
    | ok t =>
      have hall : s.registerAll (item :: items) = t.registerAll items := by rw [registerAll, hbind]
      obtain ⟨c, hc, hregister⟩ := ok_of_bind hbind
      obtain ⟨_, rfl⟩ := add_of_register hregister
      obtain ⟨cs, rest, hitems, hsuffix, hstate, hend⟩ := ih (s.add c)
      refine ⟨c :: cs, rest, ?_, hsuffix.trans (List.suffix_cons item items), ?_, ?_⟩
      · rw [List.map_cons, hc, hitems, List.map_cons, List.cons_append]
      · rw [hall, hstate, List.foldl_cons]
      · rw [hall]
        exact hend

/-- Each command stands under its canonical name, no two under one, and a listing that is kept is
that of the commands there are. -/
structure Consistent (s : Shell) : Prop where
  keyed : ∀ entry ∈ s.commands.entries, entry.1 = entry.2.key
  distinct : s.commands.keys.Nodup
  listed : ∀ listing ∈ s.listingCache, listing = s.freshListing

theorem Consistent.add (h : s.Consistent) (hfree : c.key ∉ s.commands.keys) :
    (s.add c).Consistent := by
  refine ⟨?_, ?_, fun _ hlisting => nomatch hlisting⟩
  · intro entry hmem
    rcases List.mem_append.mp hmem with hold | hnew
    · exact h.keyed entry hold
    · rw [List.mem_singleton.mp hnew]
  · have hkeys : (s.add c).commands.keys = s.commands.keys.concat c.key := by
      simp [NameMap.keys, Shell.add]
    rw [hkeys]
    exact h.distinct.concat hfree

/-- A name finds the command of which it is a spelling. -/
theorem Consistent.find?_iff (h : s.Consistent) (name : String) (c : Command) :
    s.find? name = some c ↔ c ∈ s.commands.values ∧ normalize name = c.key := by
  constructor
  · intro hfind
    have hmem := NameMap.mem_of_lookup hfind
    exact ⟨List.mem_map_of_mem hmem, h.keyed _ hmem⟩
  · rintro ⟨hvalue, hname⟩
    obtain ⟨entry, hmem, rfl⟩ := List.mem_map.mp hvalue
    rw [find?, NameMap.find?, hname, ← h.keyed entry hmem]
    exact NameMap.lookup_of_mem h.distinct hmem

theorem Consistent.listing_eq (h : s.Consistent) : s.listing.1 = s.freshListing := by
  unfold listing
  split
  · next listing hkept =>
    dsimp only
    exact h.listed listing hkept
  · dsimp only

/-- The second shell has the commands of the first one in the same order, and perhaps more after
them; it is consistent if the first one is. -/
structure Grows (s t : Shell) : Prop where
  consistent : s.Consistent → t.Consistent
  keeps : s.commands.entries <+: t.commands.entries

theorem Grows.trans (h : s.Grows t) (h' : t.Grows u) : s.Grows u :=
  ⟨h'.consistent ∘ h.consistent, h.keeps.trans h'.keeps⟩

/-- What a name finds it will find. -/
theorem Grows.find? (h : s.Grows t) (hfind : s.find? name = some c) : t.find? name = some c := by
  obtain ⟨more, hmore⟩ := h.keeps
  rw [Shell.find?, NameMap.find?, ← hmore, List.lookup_append]
  rw [Shell.find?, NameMap.find?] at hfind
  rw [hfind, Option.some_or]

theorem grows_of_kept (hcommands : t.commands = s.commands)
    (hlisting : t.listingCache = s.listingCache) : s.Grows t := by
  have hfresh : t.freshListing = s.freshListing := by rw [freshListing, freshListing, hcommands]
  refine ⟨fun h => ⟨?_, ?_, ?_⟩, ?_⟩
  · exact hcommands ▸ h.keyed
  · exact hcommands ▸ h.distinct
  · rw [hlisting, hfresh]
    exact h.listed
  · exact hcommands ▸ List.prefix_rfl

theorem grows_of_lasting (h : t.lasting = s.lasting) : s.Grows t :=
  grows_of_kept (commands_of_lasting h) (congrArg (·.2.1) h)

theorem grows_of_register (h : s.register c = .ok t) : s.Grows t := by
  obtain ⟨hfree, rfl⟩ := add_of_register h
  exact ⟨fun h => h.add hfree, List.prefix_append _ _⟩

theorem grows_of_registerAny {made : Option Command} (h : s.registerAny made = .ok t) :
    s.Grows t := by
  cases made with
  | none => cases h
  | some c => exact grows_of_register h

theorem grows_registerMade (s : Shell) (made : Except Failure (Option Command)) :
    s.Grows (s.registerMade made).2 := by
  unfold registerMade
  split
  · next t hbind =>
    obtain ⟨made, _, hregister⟩ := ok_of_bind hbind
    exact grows_of_registerAny hregister
  · exact grows_of_lasting rfl

theorem grows_registerAll (s : Shell) (items : List Registrable) :
    s.Grows (s.registerAll items).2 := by
  induction items generalizing s with
  | nil => exact grows_of_lasting rfl
  | cons item items ih =>
    rw [registerAll]
    split
    · next t hbind =>
      obtain ⟨c, _, hregister⟩ := ok_of_bind hbind
      exact (grows_of_register hregister).trans (ih t)
    · exact grows_of_lasting rfl

theorem grows_listing (s : Shell) : s.Grows s.listing.2 := by
  unfold listing
  split
  · exact grows_of_lasting rfl
  · refine ⟨fun h => ⟨h.keyed, h.distinct, ?_⟩, List.prefix_rfl⟩
    intro listing hkept
    exact (Option.some.inj hkept).symm

theorem grows_logCommands (s : Shell) : s.Grows s.logCommands :=
  (grows_listing s).trans (grows_of_kept rfl rfl)

theorem grows_operate (s : Shell) (op : Operation) : s.Grows (s.operate op) := by
  cases op with
  | register made =>
    rw [operate_register]
    exact grows_registerMade s _
  | registerAll items => exact grows_registerAll s items
  | listing => exact grows_listing s
  | logCommands => exact grows_logCommands s

theorem grows_runBuiltin (s : Shell) (b : Builtin) : s.Grows (s.runBuiltin b).2 := by
  cases b with
  | help =>
    rw [runBuiltin, showHelp]
    split
    · exact grows_logCommands s
    · rw [logHelp]
      split <;> exact grows_of_kept rfl rfl
  | _ => exact grows_of_kept rfl rfl

end Shell

theorem relates_grows : Relates allowed s₀ Shell.Grows where
  trans := Shell.Grows.trans
  lasting := Shell.grows_of_lasting
  operated _ := Shell.grows_operate _ _
  builtin _ _ := Shell.grows_runBuiltin _ _
  ask _ := Shell.grows_of_kept rfl rfl
  register _ := Shell.grows_registerMade _ _
  listing := Shell.grows_listing

theorem consistent_of_make {o : ShellOptions} (hmake : Shell.make o items = .ok s) :
    s.Consistent := by
  unfold Shell.make at hmake
  obtain ⟨journal, _, hmake⟩ := ok_of_bind hmake
  dsimp only at hmake
  split at hmake
  · next _ t hall =>
    obtain rfl := Except.ok.inj hmake
    have hgrows := Shell.grows_registerAll
      { Shell.bare journal o.clock with
        context := (Shell.bare journal o.clock).context.setWarningsAsErrors o.warningsAsErrors
        colorful := o.colorful
        fancy := o.fancy }
      ((if o.builtins then Builtin.all else [.echo]).map (.ready ·.command) ++ items)
    rw [hall] at hgrows
    exact hgrows.consistent ⟨fun _ h => (nomatch h), List.nodup_nil, fun _ h => nomatch h⟩
  · cases hmake

/-- The program that registers commands and rows in order, up to the first that is refused. -/
def Program.registerAll (next : Except Failure Unit → Program) : List Registrable → Program
  | [] => next (.ok ())
  | item :: items => .register (item.command.map some) fun
    | .ok _ => registerAll next items
    | .error f => next (.error f)

/-- A handler that registers commands and rows does what a host does with all of them, and may catch
the failure of the first that is refused. -/
theorem run_registerAll (reenter : Dispatcher) (next : Except Failure Unit → Program)
    (items : List Registrable) (s : Shell) : (Program.registerAll next items).run reenter s =
      (next (s.registerAll items).1).run reenter (s.registerAll items).2 := by
  induction items generalizing s with
  | nil => rfl
  | cons item items ih =>
    have hmade : (item.command.map some).bind s.registerAny = item.command.bind s.register := by
      cases item.command <;> rfl
    rw [Program.registerAll, Program.run, Shell.registerMade, hmade, Shell.registerAll]
    cases item.command.bind s.register with
    | ok t => exact ih t
    | error f => rfl

/-- So does a handler that logs the listing. -/
theorem run_logCommands (reenter : Dispatcher) (next : Program) (s : Shell) :
    (Program.logCommands next).run reenter s = next.run reenter s.logCommands := by
  simp only [Program.logCommands, Program.run, Program.onward, Query.run, Journal.log,
    Value.render_text]
  rfl

/-- In every state of a session with a shell each command stands under its canonical name, a name
finds the command of which it is a spelling, and the listing is that of the commands there are, in
the order of their registration. A command is registered after those there are, or is refused if its
name is taken; what is refused changes nothing, and of several commands those before the first that
is refused are registered. A handler that registers commands or logs the listing does the same, and
goes on from what it is told. Whatever comes later, a command that is found stays where it is. -/
theorem table_of_session {o : ShellOptions} (hmake : Shell.make o items = .ok s₀)
    (hoccurs : Occurs allowed s₀ s) :
    (∀ entry ∈ s.commands.entries, entry.1 = normalize entry.2.name) ∧
    (∀ name c, s.find? name = some c ↔ c ∈ s.commands.values ∧ normalize name = c.key) ∧
    s.listing.1 = Layout.table ("Command", "Help") (s.commands.values.map fun c => (c.name, c.help)) ∧
    (∀ reenter next, (Program.logCommands next).run reenter s = next.run reenter s.logCommands) ∧
    (∀ c, s.register c =
      if c.key ∈ s.commands.keys then .error (Shell.taken c) else .ok (s.add c)) ∧
    (∀ made f, s.registerAny made = .error f → s.operate (.register made) = s ∧
      ∀ reenter next, (Program.register (.ok made) next).run reenter s =
        (next (.error f)).run reenter s) ∧
    (∀ items, ∃ (cs : List Command) (rest : List Registrable),
      items.map (·.command) = cs.map .ok ++ rest.map (·.command) ∧ rest <:+ items ∧
      (s.registerAll items).2 = cs.foldl Shell.add s ∧
      (cs.foldl Shell.add s).commands.entries =
        s.commands.entries ++ cs.map (fun c => (c.key, c)) ∧
      ((rest = [] ∧ (s.registerAll items).1 = .ok ()) ∨
        ∃ item later f, rest = item :: later ∧ (s.registerAll items).1 = .error f ∧
          item.command.bind (cs.foldl Shell.add s).register = .error f) ∧
      ∀ reenter next, (Program.registerAll next items).run reenter s =
        (next (s.registerAll items).1).run reenter (s.registerAll items).2) ∧
    (∀ t, Later allowed s₀ s t → s.commands.entries <+: t.commands.entries ∧
      ∀ name c, s.find? name = some c → t.find? name = some c) := by
  have hgrows : s₀.Grows s := relates_grows.later hoccurs.later
  have hconsistent := hgrows.consistent (consistent_of_make hmake)
  refine ⟨hconsistent.keyed, hconsistent.find?_iff, hconsistent.listing_eq,
    fun reenter next => run_logCommands reenter next s, s.register_eq, ?_, ?_, ?_⟩
  · intro made f hrefused
    refine ⟨by rw [Shell.operate, hrefused]; rfl, fun reenter next => ?_⟩
    have hbind : (Except.ok made).bind s.registerAny = .error f := hrefused
    rw [Program.run, Shell.registerMade, hbind]
  · intro items
    obtain ⟨cs, rest, hitems, hsuffix, hstate, hend⟩ := s.registerAll_stops items
    exact ⟨cs, rest, hitems, hsuffix, hstate, s.entries_addAll cs, hend,
      fun reenter next => run_registerAll reenter next items s⟩
  · intro t hlater
    have hafter : s.Grows t := relates_grows.later hlater
    exact ⟨hafter.keeps, fun _ _ => hafter.find?⟩

/-- A command whose handler registers another one, tries to register the same one again, and logs
the listing whether or not it is let. -/
def teaching : Command where
  name := "teach"
  arity := Builtin.echo.arity
  help := "Teach a command"
  extended := .ofText ""
  tolerant := false
  handler := .plain "teach" <| .register (.ok (some Builtin.noop.command)) <| .onward fun _ =>
    .register (.ok (some Builtin.noop.command)) fun _ => .logCommands .done

theorem table_of_session_teach : ∃ s₀ s : Shell,
    Shell.make { builtins := false, clock := ⟨0, 0⟩ } [.ready teaching] = .ok s₀ ∧
      Occurs (fun _ => False) s₀ s ∧ s.commands.keys = ["echo", "teach", "noop"] ∧
      s.context.journal.messages.map (·.severity) = [.shell] ∧
      s.listing.1 = Layout.table ("Command", "Help")
        (s.commands.values.map fun c => (c.name, c.help)) ∧
      s.register { teaching with name := "NoOp" } =
        .error (Shell.taken { teaching with name := "NoOp" }) := by
  obtain ⟨s₀, hmake, hkeys, hlogged⟩ : ∃ s₀ : Shell,
      Shell.make { builtins := false, clock := ⟨0, 0⟩ } [.ready teaching] = .ok s₀ ∧
        (Shell.runLineAny Shell.reenter (.text "teach") s₀).2.commands.keys =
          ["echo", "teach", "noop"] ∧
        (Shell.runLineAny Shell.reenter (.text "teach") s₀).2.context.journal.messages.map
          (·.severity) = [.shell] := ⟨_, rfl, by decide +kernel, by decide +kernel⟩
  have hoccurs : Occurs (fun _ => False) s₀
      (Shell.runLineAny Shell.reenter (.text "teach") s₀).2 := .session (.dispatched .opened _)
  obtain ⟨_, _, hlisting, _, hregister, _⟩ := table_of_session hmake hoccurs
  refine ⟨s₀, _, hmake, hoccurs, hkeys, hlogged, hlisting, ?_⟩
  rw [hregister, if_pos]
  rw [hkeys]
  decide +kernel

end LineShell
