import LineShell.Proofs.Context.Substitution
import LineShell.Proofs.Shell.Resolution
import LineShell.Proofs.Shell.Table
import LineShell.Proofs.Shell.Verbatim

/-! Variables from line to line. A name keeps its value for as long as no call of `set` and no query
of a handler rebinds it, whatever else lines do, however they end and whoever hands them over. Main
statement: what `set` has bound comes back wherever a line refers to it, as it was given. -/
namespace LineShell

open LineShell.Line LineShell.Text

variable {s t u : Shell} {line inner name value : String} {lines arguments : List String}
  {command : Command} {depth : Nat} {c : Context} {n : Verdict × Shell}

/-- A query that binds a name anew or takes its value away. -/
def Query.Rebinds (name : String) : Query → Prop
  | .setVariable (.text other) _ | .unsetVariable (.text other) => normalize other = normalize name
  | _ => False

theorem find?_run {q : Query} (hq : ¬ q.Rebinds name) (c : Context) :
    (q.run c).2.bindings.find? name = c.bindings.find? name := by
  obtain hkept | ⟨other, value, rfl, hbound⟩ | ⟨other, rfl, herased⟩ := bindings_run q c
  · rw [hkept]
  · rw [hbound]
    exact NameMap.find?_insert_ne _ (Ne.symm hq) value
  · rw [herased]
    exact NameMap.find?_erase_ne _ (Ne.symm hq)

theorem find?_assign (h : ∀ other value rest, c.arguments = other :: value :: rest →
    normalize other ≠ normalize name) : c.assign.bindings.find? name = c.bindings.find? name := by
  unfold Context.assign
  split
  · rfl
  · split <;> rfl
  · next other value rest hargs =>
    exact NameMap.find?_insert_ne _ (h other value rest hargs).symm value

/-- The lines that are run where a line is: the line itself, and those that handlers hand over, each
with how deep its own handler may hand over further ones and the shell in which it begins. -/
inductive Shell.Spawns (s : Shell) (line : String) : Nat → Shell → String → Prop
  | self : s.Spawns line Shell.depthLimit s line
  | handed {depth : Nat} {t u : Shell} {outer inner : String} {n : Verdict × Shell} {p : Program}
      {next : Except Failure Bool → Program} (h : s.Spawns line (depth + 1) t outer)
      (hreached : t.Reached outer n) (hstarts : Shell.Starts n p)
      (hcomes : p.Comes (Shell.dispatcher (depth + 1)) n.2
        (.ok (.dispatch (.text inner) next), u)) : s.Spawns line depth u inner

/-- While a line is run, nothing rebinds a name: no call of `set`, and no query of a handler. -/
structure Shell.Spares (s : Shell) (line name : String) : Prop where
  set : ∀ {depth : Nat} {t u : Shell} {inner other value : String} {rest : List String}
    {command : Command}, s.Spawns line depth t inner → t.Reached inner (.call command, u) →
      command.handler = .builtin .set → u.context.arguments = other :: value :: rest →
      normalize other ≠ normalize name
  query : ∀ {depth : Nat} {t u : Shell} {inner : String} {n : Verdict × Shell} {p : Program}
    {q : Query} {next : Except Failure Value → Program}, s.Spawns line depth t inner →
      t.Reached inner n → Shell.Starts n p →
      p.Comes (Shell.dispatcher depth) n.2 (.ok (.ask q next), u) →
      ¬ q.Rebinds name

namespace Shell.Spares

/-- No step in the course of a line that spares a name changes what is bound to it. -/
theorem steps (h : s.Spares line name) : Steps (s.Spawns line) fun t u =>
    u.context.bindings.find? name = t.context.bindings.find? name where
  trans h h' := h'.trans h
  lasting h := by rw [bindings_of_lasting h]
  builtin := by
    intro depth t u inner command b hspawn hreached hhandler
    by_cases hb : b = .set
    · subst hb
      exact find?_assign fun other value rest hargs => h.set hspawn hreached hhandler hargs
    · rw [bindings_runBuiltin hb]
  ask := by
    rintro depth t u q next ⟨hspawn, hreached, hstarts, hcomes⟩
    exact find?_run (h.query hspawn hreached hstarts hcomes) u.context
  register _ := by rw [registerMade_context]
  listing t := by rw [(listing_kept t).1]
  handed := by
    rintro depth t u inner next ⟨hspawn, hreached, hstarts, hcomes⟩ _
    exact .handed hspawn hreached hstarts hcomes

theorem find?_dispatch (h : s.Spares line name) :
    (s.dispatch line).2.context.bindings.find? name = s.context.bindings.find? name :=
  h.steps.ran (h.steps.nested _) .self

theorem find?_of_spawns (h : s.Spares line name) (hspawn : s.Spawns line depth t inner) :
    t.context.bindings.find? name = s.context.bindings.find? name := by
  induction hspawn with
  | self => rfl
  | handed hspawn hreached hstarts hcomes ih =>
    exact (h.steps.acted (h.steps.nested _) ⟨hspawn, hreached, hstarts, hcomes⟩).trans ih

end Shell.Spares

/-- While lines are run one after the other, nothing rebinds a name. -/
inductive Shell.SparesAll (name : String) : Shell → List String → Prop
  | nil {s : Shell} : Shell.SparesAll name s []
  | cons {s : Shell} {line : String} {lines : List String} (h : s.Spares line name)
      (hrest : Shell.SparesAll name (s.dispatch line).2 lines) :
      Shell.SparesAll name s (line :: lines)

/-- The shells in which a line may begin when lines are run one after the other: where one of them
begins, where one that a handler hands over begins, and after all of them. -/
inductive Shell.Begins : Shell → List String → Shell → Prop
  | after {s : Shell} : s.Begins [] s
  | within {s t : Shell} {line inner : String} {lines : List String} {depth : Nat}
      (h : s.Spawns line depth t inner) : s.Begins (line :: lines) t
  | later {s t : Shell} {line : String} {lines : List String}
      (h : (s.dispatch line).2.Begins lines t) : s.Begins (line :: lines) t

theorem Shell.Begins.find? (hbegins : s.Begins lines t) (h : Shell.SparesAll name s lines) :
    t.context.bindings.find? name = s.context.bindings.find? name := by
  induction hbegins with
  | after => rfl
  | within hspawn =>
    cases h with
    | cons h _ => exact h.find?_of_spawns hspawn
  | later _ ih =>
    cases h with
    | cons h hrest => exact (ih hrest).trans h.find?_dispatch

/-- In a shell of built-in commands no handler hands over a line. -/
theorem Shell.Spawns.eq_of_stock (hs : s.Stock) (h : s.Spawns line depth t inner) :
    t = s ∧ inner = line := by
  induction h with
  | self => exact ⟨rfl, rfl⟩
  | handed _ hreached hstarts _ ih =>
    obtain ⟨rfl, rfl⟩ := ih
    exact absurd hstarts (not_starts_of_stock hs hreached)

/-- In a shell of built-in commands, a line that times none of them spares every name but the one
that its first argument gives. -/
theorem spares_of_stock (hs : s.Stock) (huntimed : (s.gate line).1.isTimer = false)
    (hother : ∀ other ∈ (s.gate line).2.context.arguments.head?, normalize other ≠ normalize name) :
    s.Spares line name where
  set := by
    intro depth t u inner other value rest command hspawn hreached _ hargs
    obtain ⟨rfl, rfl⟩ := hspawn.eq_of_stock hs
    have hgate := reached_of_untimed (fun command hcall => by rwa [hcall] at huntimed) hreached
    refine hother other ?_
    rw [← hgate]
    simp [hargs]
  query := by
    intro depth t u inner n p q next hspawn hreached hstarts _
    obtain ⟨rfl, rfl⟩ := hspawn.eq_of_stock hs
    exact absurd hstarts (not_starts_of_stock hs hreached)

theorem session_dispatch (s : Shell) (line : String) :
    Session (fun _ => False) s Shell.depthLimit (s.dispatch line).2 :=
  Session.opened.dispatched (.text line)

theorem stock_dispatch (hs : s.Stock) (line : String) : (s.dispatch line).2.Stock :=
  ((relates_stock hs).session (session_dispatch s line)).2 hs

theorem grows_dispatch (s : Shell) (line : String) : s.Grows (s.dispatch line).2 :=
  (relates_grows.session (session_dispatch s line)).2

theorem Shell.Spawns.session (h : s.Spawns line depth t inner) :
    Session (fun _ => False) s depth t := by
  induction h with
  | self => exact .opened
  | handed _ hreached hstarts hcomes ih => exact ih.within hreached hstarts hcomes

theorem Shell.Begins.grows (h : s.Begins lines t) : s.Grows t := by
  induction h with
  | after => exact grows_of_lasting rfl
  | within hspawn => exact (relates_grows.session hspawn.session).2
  | later _ ih => exact (grows_dispatch _ _).trans ih

/-- Arguments between quotes, with a space before each. -/
def quotedArguments (arguments : List String) : List Char :=
  arguments.flatMap fun a => ' ' :: '"' :: (a.toList ++ ['"'])

/-- A line that calls a command by a plain word and gives it arguments between quotes. -/
def quotedLine (name : String) (arguments : List String) : String :=
  String.ofList (name.toList ++ quotedArguments arguments)

example : quotedLine "set" ["x", "y z"] = "set \"x\" \"y z\"" := by decide +kernel

/-- The operands on such a line. -/
def quotedOperands (arguments : List String) : Operands :=
  ⟨arguments.map fun a => ⟨[' '], .quoted a.toList⟩, [], []⟩

theorem cut_quotedArguments (h : ∀ a ∈ arguments, '"' ∉ a.toList) :
    (quotedOperands arguments).Cut (quotedArguments arguments) := by
  suffices htokens : TokensAt StringAt (quotedOperands arguments).arguments
      (quotedArguments arguments) [] from ⟨[], htokens, .done, by simp [quotedOperands, Blank]⟩
  induction arguments with
  | nil => exact .done
  | cons a arguments ih =>
    obtain ⟨hfirst, hrest⟩ := List.forall_mem_cons.mp h
    have hmore := TokensAt.next (show Blank [' '] by simp [Blank]; decide)
      (stringAt_quoted hfirst (quotedArguments arguments)) (ih hrest)
    simpa [quotedArguments, quotedOperands] using hmore

theorem heads_quotedLine (h : PlainWord name) (arguments : List String) :
    Spaced.Heads ⟨[], .bare name.toList⟩ (quotedLine name arguments).toList
      (quotedArguments arguments) := by
  rw [quotedLine, String.toList_ofList]
  refine heads_iff.mpr ⟨_, by simp [Blank], rfl, ?_⟩
  refine .bare h.unquoted.nonempty h.unquoted.unquoted h.unquoted.solid ?_
  cases arguments with
  | nil => exact atGap_nil
  | cons a arguments => simp [quotedArguments, AtGap]; decide

/-- A command that takes as many arguments as it is given between quotes runs, and finds them with
their references resolved. -/
theorem gate_quotedLine (hname : PlainWord name) (hfind : s.find? name = some command)
    (hplain : command.handler.isIntercepting = false) (hsome : arguments ≠ [])
    (hleast : command.arity.least ≤ arguments.length)
    (hgreatest : ∀ greatest ∈ command.arity.greatest, arguments.length ≤ greatest)
    (hclosed : ∀ a ∈ arguments, '"' ∉ a.toList)
    (hbound : ∀ a ∈ arguments, Bound s.context.bindings a) :
    ∃ c, s.gate (quotedLine name arguments) = (.call command, { s with context := c }) ∧
      c.arguments = arguments.map (expand s.context.bindings) ∧ Silent s.context c := by
  have hliteral := hname.not_reference
  have htexts : (quotedOperands arguments).texts s.context.bindings =
      arguments.map (expand s.context.bindings) := by
    simp [quotedOperands, Operands.texts, Lexeme.text]
  have hlength : (quotedOperands arguments).arguments.length = arguments.length := by
    simp [quotedOperands]
  have hoperands : (quotedOperands arguments).Bound s.context.bindings := by
    refine ⟨fun t ht => ?_, by simp [quotedOperands]⟩
    obtain ⟨a, ha, rfl⟩ := List.mem_map.mp ht
    rw [Lexeme.text, String.ofList_toList]
    exact hbound a ha
  obtain ⟨c, hgate, hsilent, hargs, _⟩ := gate_of_arguments (heads_quotedLine hname arguments)
    (bound_bare hliteral) (by rwa [expanded_bare hliteral]) hplain (cut_quotedArguments hclosed) rfl
    hoperands (by simpa [quotedOperands] using hsome) (by rwa [hlength]) (by rwa [hlength])
  exact ⟨c, hgate, hargs.trans htexts, hsilent⟩

/-- The handler of a built-in command that the gate lets through does its work, unless it times
another command. -/
theorem dispatch_of_call {b : Builtin} (hgate : s.gate line = (.call b.command, t))
    (hb : b ≠ .time)
    (hafter : Shell.settle ((t.runBuiltin b).1.mapError .failure, (t.runBuiltin b).2) = u) :
    s.dispatch line = (!u.context.hasErrors, u) := by
  have htimer : b.command.handler.isTimer = false := decide_eq_false hb
  have henact : Shell.enact Shell.reenter (s.gate line) = u := by
    rw [hgate, Shell.enact, htimer, if_neg Bool.false_ne_true, ← hafter]
    rfl
  rw [dispatch_eq, henact]

/-- What is bound is the value between the second quotes, under the name between the first. -/
theorem bindings_set (hset : s.find? "set" = some Builtin.set.command)
    (hname : '"' ∉ name.toList) (hvalue : '"' ∉ value.toList) (hliteral : ¬ IsReference name)
    (hplain : ¬ IsReference value) :
    (s.dispatch (quotedLine "set" [name, value])).2.context.bindings =
      s.context.bindings.insert name value := by
  have hword : PlainWord "set" := ⟨by decide, by decide, by decide⟩
  obtain ⟨c, hgate, hargs, hsilent⟩ := gate_quotedLine hword hset rfl
    (List.cons_ne_nil name [value]) (by simp [Builtin.command, Builtin.arity])
    (by simp [Builtin.command, Builtin.arity]) (by simp [hname, hvalue])
    (by simp [bound_of_plain, hliteral, hplain])
  simp only [List.map_cons, List.map_nil, expand_of_plain hliteral, expand_of_plain hplain] at hargs
  have hafter : Shell.settle ((Shell.runBuiltin { s with context := c } .set).1.mapError .failure,
      (Shell.runBuiltin { s with context := c } .set).2) =
        { s with context := c.bindVariable name value } := by
    simp only [Shell.runBuiltin, Shell.settle, Shell.mapContext, Context.assign, hargs,
      Except.mapError]
  rw [dispatch_of_call hgate (by decide) hafter]
  exact congrArg (NameMap.insert · name value) hsilent.bindings

/-- A value is logged as it is bound. -/
theorem dispatch_log (hlog : s.find? "log" = some Builtin.log.command) (hname : name ≠ "")
    (hclosed : '"' ∉ name.toList) (hfind : s.context.bindings.find? name = some value)
    (hmessage : .message ∉ s.context.errorSeverities) :
    ∃ t, s.dispatch (quotedLine "log" ["$" ++ name]) = (true, t) ∧
      t.context.logged = [{ text := value }] ∧
      t.context.journal = s.context.journal.write { text := value } := by
  have hword : PlainWord "log" := ⟨by decide, by decide, by decide⟩
  have hlook := lookUp_dollar hname hfind
  obtain ⟨hbound, hexpand⟩ := expand_of_lookUp hlook
  obtain ⟨c, hgate, hargs, hsilent⟩ := gate_quotedLine hword hlog rfl
    (List.cons_ne_nil ("$" ++ name) []) (by simp [Builtin.command, Builtin.arity])
    (by simp [Builtin.command, Builtin.arity]) (by simpa using hclosed)
    (by simpa using hbound)
  rw [List.map_singleton, ← hexpand] at hargs
  have hafter : Shell.settle ((Shell.runBuiltin { s with context := c } .log).1.mapError .failure,
      (Shell.runBuiltin { s with context := c } .log).2) =
        { s with context := c.write { text := value } } := by
    simp [Shell.runBuiltin, Shell.settle, Context.logArgument, Context.argument, Context.parserOf,
      Context.argumentAt, hargs, Context.readRaw, Context.log, Except.mapError, Except.map]
  have herrors : (c.write { text := value }).hasErrors = false := by
    rw [hasErrors_write (by rwa [hsilent.errorSeverities]), hsilent.hasErrors]
  refine ⟨{ s with context := c.write { text := value } }, ?_, ?_, ?_⟩
  · rw [dispatch_of_call hgate (by decide) hafter]
    exact congrArg (Prod.mk · _) (congrArg (!·) herrors)
  · rw [Context.write_logged, hsilent.logged]
    rfl
  · rw [Context.write, hsilent.journal]

/-- In a shell with the built-in commands, bind a value to a name by `set`, both between quotes, and
run any lines that do not rebind the name. Wherever a line then begins, a reference to the name in
any case, between quotes or, if there is no white space in it, as a bare word, is read as the value
as a whole: as the command name, as one argument or as the value of one option. Nothing of it is read
again. In particular `log` logs exactly the value. -/
theorem variable_comes_back {bound other : String}
    (hset : s.find? "set" = some Builtin.set.command)
    (hlog : s.find? "log" = some Builtin.log.command) (hsome : bound ≠ "")
    (hclosed : '"' ∉ bound.toList) (hvalue : '"' ∉ value.toList) (hliteral : ¬ IsReference bound)
    (hplain : ¬ IsReference value)
    (hspares : Shell.SparesAll bound (s.dispatch (quotedLine "set" [bound, value])).2 lines)
    (hbegins : (s.dispatch (quotedLine "set" [bound, value])).2.Begins lines t)
    (hsame : normalize other = normalize bound) :
    (∀ l : Lexeme, String.ofList l.text = "$" ++ other → TakenAs t.context.bindings l value) ∧
    (∀ rest, StringAt (.quoted ('$' :: other.toList))
      ('"' :: '$' :: (other.toList ++ '"' :: rest)) rest) ∧
    ((∀ c ∈ other.toList, isBlank c = false) → ∀ rest, AtGap rest →
      StringAt (.bare ('$' :: other.toList)) ('$' :: (other.toList ++ rest)) rest) ∧
    (.message ∉ t.context.errorSeverities →
      ∃ u, t.dispatch (quotedLine "log" ["$" ++ other]) = (true, u) ∧
        u.context.logged = [{ text := value }] ∧
        u.context.journal = t.context.journal.write { text := value }) := by
  have hother : other ≠ "" := by
    rintro rfl
    exact hsome (normalize_eq_empty.mp (hsame ▸ normalize_eq_empty.mpr rfl))
  have hunquoted : '"' ∉ other.toList := by
    rwa [← quote_mem_normalize, hsame, quote_mem_normalize]
  have hfind : t.context.bindings.find? other = some value := by
    have hkept := hbegins.find? hspares
    rw [bindings_set hset hclosed hvalue hliteral hplain, NameMap.find?_insert_self] at hkept
    rwa [NameMap.find?, hsame]
  have hgrows : s.Grows t := (grows_dispatch s _).trans hbegins.grows
  refine ⟨fun l hl => takenAs_of_lookUp (hl ▸ lookUp_dollar hother hfind), fun rest => ?_,
    fun hsolid rest hgap => stringAt_dollar hsolid hgap,
    dispatch_log (hgrows.find? hlog) hother hunquoted hfind⟩
  exact stringAt_quoted (List.not_mem_cons_of_ne_of_not_mem (by decide) hunquoted) rest

theorem variable_comes_back_greeting : ∃ s t u v : Shell,
    Shell.standard.dispatch (quotedLine "set" ["greeting", "-a  b"]) = (true, s) ∧
    s.dispatch "oops" = (false, t) ∧ t.dispatch "set other 5" = (true, u) ∧
    Shell.SparesAll "greeting" s ["oops", "set other 5"] ∧
    u.dispatch (quotedLine "log" ["$Greeting"]) = (true, v) ∧
    v.context.logged = [{ text := "-a  b" }] := by
  have hs := stock_dispatch stock_standard (quotedLine "set" ["greeting", "-a  b"])
  have hspares : Shell.SparesAll "greeting"
      (Shell.standard.dispatch (quotedLine "set" ["greeting", "-a  b"])).2
      ["oops", "set other 5"] := by
    refine .cons (spares_of_stock hs (by decide +kernel) (by decide +kernel)) ?_
    refine .cons (spares_of_stock (stock_dispatch hs _) (by decide +kernel) (by decide +kernel)) ?_
    exact .nil
  have hsame : normalize "Greeting" = normalize "greeting" := by decide +kernel
  obtain ⟨_, _, _, hlog⟩ := variable_comes_back rfl rfl (by decide) (by decide) (by decide)
    (by decide) (by decide) hspares (.later (.later .after)) hsame
  obtain ⟨v, hdispatch, hlogged, _⟩ := hlog (by decide +kernel)
  exact ⟨_, _, _, v, Prod.ext (by decide +kernel) rfl, Prod.ext (by decide +kernel) rfl,
    Prod.ext (by decide +kernel) rfl, hspares, hdispatch, hlogged⟩

end LineShell
