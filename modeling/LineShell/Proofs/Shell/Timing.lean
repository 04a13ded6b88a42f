import LineShell.Proofs.Shell.Gate

/-! Timing a command. The line after the word `time` is run as if it had been given alone, and one
message on the time that it took follows. -/
namespace LineShell

open LineShell.Line LineShell.Text

variable {s t : Shell} {line name : String} {command : Command} {text : List Char} {d : Operands}
  {bindings : NameMap String} {c : Context}

/-- A line with the word `time` in front of it. -/
def timeLine (line : String) : String := "time " ++ line

/-- A line with a number of words `time` in front of it. -/
def timeLines : Nat → String → String
  | 0, line => line
  | k + 1, line => timeLine (timeLines k line)

/-- A line that can be timed: it starts with a token, and what follows the word `time` can be read
as arguments, at least one, and options, none of which asks for help. -/
structure Timeable (bindings : NameMap String) (line : String) : Prop where
  solid : ∀ c ∈ line.toList.head?, isBlank c = false
  operands : ∃ d : Operands, d.Cut (' ' :: line.toList) ∧ d.Bound bindings ∧ d.arguments ≠ [] ∧
    (d.optionMap bindings).find? "help" = none

/-- The word `time` as a line spells it. -/
def timeWord : Lexeme := .bare "time".toList

theorem nameAt_time {text : List Char} (hgap : AtGap text) :
    NameAt timeWord ("time".toList ++ text) text := by
  have hall : "time".toList.all (!isBlank ·) = true := by decide
  have hsolid : ∀ c ∈ "time".toList, isBlank c = false :=
    fun c hc => by simpa using List.all_eq_true.mp hall c hc
  exact .bare (by decide) (by decide) hsolid hgap

theorem stringAt_of_time {cs text : List Char} (h : NameAt timeWord cs text) :
    StringAt timeWord cs text := by
  refine ⟨h, ?_⟩
  rintro ⟨c, tail, heq, _⟩
  rw [nameAt_spelling h] at heq
  cases heq

/-- White space that sets a word off from what follows it. -/
structure Gap (gap : List Char) : Prop where
  blank : Blank gap
  nonempty : gap ≠ []

theorem Gap.atGap {gap : List Char} (h : Gap gap) (text : List Char) : AtGap (gap ++ text) := by
  intro c hc
  obtain ⟨c', tail, rfl⟩ := List.exists_cons_of_ne_nil h.nonempty
  obtain rfl : c' = c := by simpa using hc
  exact h.blank c' List.mem_cons_self

theorem gap_space : Gap [' '] := by
  refine ⟨?_, by simp⟩
  simp [Blank]
  decide

theorem toList_timeLine (line : String) :
    (timeLine line).toList = "time".toList ++ ([' '] ++ line.toList) := by simp [timeLine]

theorem heads_time (line : String) :
    Spaced.Heads ⟨[], timeWord⟩ (timeLine line).toList (' ' :: line.toList) := by
  refine heads_iff.mpr ⟨(timeLine line).toList, by simp [Blank], rfl, ?_⟩
  rw [toList_timeLine]
  exact nameAt_time (gap_space.atGap line.toList)

theorem bound_time : Bound bindings (String.ofList timeWord.text) :=
  bound_of_plain (by decide)

theorem expand_time : expand bindings (String.ofList timeWord.text) = "time" :=
  expand_of_plain (by decide)

/-- A line that can be read after the word `time` can be timed. -/
theorem timeable_of_readLine {r : LineReading} (hsolid : ∀ c ∈ line.toList.head?, isBlank c = false)
    (hr : c.reset.readLine (timeLine line) = .ok r) (hcomplete : r.complete = true)
    (hargs : r.context.arguments ≠ []) (hhelp : r.context.options.find? "help" = none) :
    Timeable c.bindings line := by
  obtain ⟨d, hcut, hbound⟩ := cut_of_readLine hr hcomplete
  obtain ⟨t, ht, _, htexts, hentries⟩ := readLine_of_cut (c := c.reset) hcut hbound
  obtain rfl := Except.ok.inj (hr.symm.trans ht)
  obtain ⟨text, hname, hoperands⟩ := hcut
  obtain ⟨_, rfl⟩ := heads_unique hname (heads_time line)
  refine ⟨hsolid, d.operands, hoperands, hbound.2, ?_, ?_⟩
  · intro hnone
    refine hargs (htexts.trans ?_)
    rw [Operands.texts, hnone]
    rfl
  · rw [Operands.optionMap]
    rw [Context.reset_bindings] at hentries
    rw [← hentries]
    exact hhelp

/-- A line that can be timed can be read after the word `time`. -/
theorem readLine_of_timeable (h : Timeable c.bindings line) :
    ∃ r, c.reset.readLine (timeLine line) = .ok r ∧ r.complete = true ∧
      r.context.arguments ≠ [] ∧ r.context.options.find? "help" = none := by
  obtain ⟨d, hcut, hbound, hsome, hhelp⟩ := h.operands
  have hline : Segments.Cut ⟨⟨[], timeWord⟩, d⟩ (timeLine line).toList :=
    ⟨_, heads_time line, hcut⟩
  obtain ⟨t, ht, _, htexts, hentries⟩ :=
    readLine_of_cut (c := c.reset) hline ⟨bound_time, hbound⟩
  refine ⟨_, ht, rfl, ?_, ?_⟩
  · intro hnone
    have hnil := htexts.symm.trans hnone
    rw [Operands.texts, List.map_eq_nil_iff] at hnil
    exact hsome hnil
  · rw [Context.reset_bindings] at hentries
    rw [Operands.optionMap, ← hentries] at hhelp
    exact hhelp

/-- A printed line can be timed unless its name looks like an option or it asks for help. -/
theorem timeable_printLine {arguments : List String} {options : List (String × Option String)}
    (h : Printable name arguments options) (hname : StringText name)
    (hhelp : (NameMap.empty.insertAll options).find? "help" = none) :
    Timeable bindings (printLine name arguments options) := by
  have hmore : Printable name (name :: arguments) options := by
    refine ⟨h.name, ?_, h.options⟩
    intro a ha
    rcases List.mem_cons.mp ha with rfl | ha
    · exact ⟨hname, h.name.2⟩
    · exact h.arguments a ha
  have hrest := atGap_spaced_end (options.map spellOption)
  have htokens := tokensAt_arguments (fun a ha => (hmore.arguments a ha).1) hrest
  refine ⟨?_, (segmentsOf name (name :: arguments) options).operands,
    ⟨spaced (options.map spellOption), ?_, ?_, ?_⟩,
    (bound_segmentsOf hmore).2, by simp [segmentsOf], ?_⟩
  · rw [toList_printLine]
    exact nameAt_solid (nameAt_spell h.name.1 (atGap_spaced _ hrest))
  · rw [toList_printLine]
    simpa [spaced, segmentsOf] using htokens
  · exact tokensAt_options fun o ho => (hmore.options o ho).1
  · simp [segmentsOf, Blank]
  · rw [Operands.optionMap, entries_segmentsOf hmore]
    exact hhelp

/-- A text in which `time` finds nothing wrong: it can be read as arguments and options, and help is
not asked for. -/
def Passable (bindings : NameMap String) (text : List Char) : Prop :=
  ∃ d : Operands, d.Cut text ∧ d.Bound bindings ∧ HelpDeclined (d.optionMap bindings)

/-- A token in front of a text does not matter to `time` if it can be read as an argument. -/
theorem passable_token {gap cs : List Char} {l : Lexeme} (hgap : Blank gap)
    (htoken : StringAt l cs text) (hbound : Bound bindings (String.ofList l.text)) :
    Passable bindings (gap ++ cs) ↔ Passable bindings text := by
  constructor
  · rintro ⟨d, ⟨mid, hargs, hopts, hblank⟩, ⟨hargs', hopts'⟩, hdeclined⟩
    generalize hcs : gap ++ cs = text' at hargs
    generalize hts : d.arguments = ts at hargs hargs'
    cases hargs with
    | done =>
      have hahead : TokenAhead StringAt mid := ⟨gap, l, cs, text, hgap, hcs.symm, htoken⟩
      exact absurd hahead (not_stringAhead_of_options hopts hblank)
    | @next gap' cs' mid' _ l' ts hgap' htoken' hmore =>
      obtain ⟨rfl, rfl⟩ := blank_append_unique hgap hgap' (stringAt_kind.solid htoken)
        (stringAt_kind.solid htoken') hcs
      obtain ⟨rfl, rfl⟩ := stringAt_kind.unique htoken htoken'
      refine ⟨{ d with arguments := ts }, ⟨mid, hmore, hopts, hblank⟩, ⟨?_, hopts'⟩, hdeclined⟩
      exact fun t ht => hargs' t (List.mem_cons_of_mem _ ht)
  · rintro ⟨d, ⟨mid, hargs, hrest⟩, ⟨hargs', hopts'⟩, hdeclined⟩
    refine ⟨{ d with arguments := ⟨gap, l⟩ :: d.arguments }, ⟨mid, .next hgap htoken hargs, hrest⟩,
      ⟨?_, hopts'⟩, hdeclined⟩
    intro t ht
    rcases List.mem_cons.mp ht with rfl | ht
    · exact hbound
    · exact hargs' t ht

/-- A line that `time` runs, and the rest of it that is run: behind the word `time` stands a token
that can be read as an argument, and nothing is wrong with what follows. -/
inductive Times (bindings : NameMap String) (line rest : String) : Prop
  | word {gap text : List Char} {l : Lexeme} (hgap : Blank gap)
      (hhead : NameAt timeWord line.toList (gap ++ rest.toList))
      (htoken : StringAt l rest.toList text) (hbound : Bound bindings (String.ofList l.text))
      (h : Passable bindings text)

/-- A line that comes to another one once a number of words `time` have been taken off. -/
inductive TimesTo (bindings : NameMap String) : Nat → String → String → Prop
  | done {line : String} : TimesTo bindings 0 line line
  | more {k : Nat} {line rest inner : String} (h : Times bindings line rest)
      (h' : TimesTo bindings k rest inner) : TimesTo bindings (k + 1) line inner

theorem Timeable.times (h : Timeable bindings line) : Times bindings (timeLine line) line := by
  obtain ⟨d, ⟨mid, hargs, hrest⟩, hbound, hsome, hhelp⟩ := h.operands
  generalize hcs : ' ' :: line.toList = cs at hargs
  generalize hts : d.arguments = ts at hargs
  cases hargs with
  | done => exact absurd hts hsome
  | @next gap cs mid' _ l ts hgap htoken hmore =>
    obtain ⟨rfl, rfl⟩ := blank_append_unique gap_space.blank hgap h.solid
      (stringAt_kind.solid htoken) hcs
    have hhead := nameAt_time (gap_space.atGap line.toList)
    rw [← toList_timeLine] at hhead
    refine .word hgap hhead htoken (hbound.1 ⟨[' '], l⟩ (by simp [hts])) ?_
    refine ⟨{ d with arguments := ts }, ⟨mid, hmore, hrest⟩, ⟨?_, hbound.2⟩, .inl hhelp⟩
    exact fun t ht => hbound.1 t (hts ▸ List.mem_cons_of_mem _ ht)

/-- A line that `time` runs can be timed once more. -/
theorem Times.nest {rest : String} (h : Times bindings line rest) :
    Times bindings (timeLine line) line := by
  cases h with
  | @word gap text l hgap hhead htoken hbound h =>
    have houter := nameAt_time (gap_space.atGap line.toList)
    rw [← toList_timeLine] at houter
    refine .word gap_space.blank houter (stringAt_of_time hhead) bound_time ?_
    exact (passable_token hgap htoken hbound).mpr h

theorem timesTo_timeLines (h : Timeable bindings line) (k : Nat) :
    TimesTo bindings k (timeLines k line) line := by
  have htimes : ∀ k, Times bindings (timeLines (k + 1) line) (timeLines k line) := by
    intro k
    induction k with
    | zero => exact h.times
    | succ k ih => exact ih.nest
  induction k with
  | zero => exact .done
  | succ k ih => exact .more (htimes k) ih

/-- A name at the start of what is left of a line is found again. -/
theorem rewind_of_heads {name : Spaced Lexeme} (hline : s.context.remainder = line)
    (hname : name.Heads line.toList text) (hbound : name.Bound s.context.bindings) :
    s.rewind = (true, { s with
      context := ({ s.context with arguments := [], options := .empty }.setInput line).named
        (pastName line name) (name.expanded s.context.bindings) }) := by
  have hread : ({ s.context with arguments := [], options := .empty }.setInput line).readName
      (Scanner.ofLine line).skipBlanks = _ := readName_of_heads hname hbound
  rw [Shell.rewind, hline, hread]
  rfl

/-- The gate lets `time` run, which comes to the point where the rest of the line stands alone. -/
theorem gate_time {rest : String} (htime : s.find? "time" = some Builtin.time.command)
    (h : Times s.context.bindings line rest) :
    ∃ t, s.gate line = (.call Builtin.time.command, t) ∧
      t.rewind = (true, { s with context := (s.context.start rest).2 }) := by
  cases h with
  | @word gap text l hgap hhead htoken hbound h =>
    obtain ⟨d, ⟨mid, hargs, hrest⟩, ⟨hargs', hopts'⟩, hdeclined⟩ := h
    let e : Operands := { d with arguments := ⟨gap, l⟩ :: d.arguments }
    have hcut : e.Cut (gap ++ rest.toList) := ⟨mid, .next hgap htoken hargs, hrest⟩
    have hbounds : e.Bound s.context.bindings := ⟨List.forall_mem_cons.mpr ⟨hbound, hargs'⟩, hopts'⟩
    have hsuits : Suits Builtin.time.command s.context.bindings e := by
      refine ⟨hbounds, hdeclined, ?_, ?_, .inl ?_⟩
      · rintro ⟨_, hnone, _⟩
        cases hnone
      · exact Nat.succ_pos _
      · simp [Builtin.command, Builtin.arity]
    have hname : Spaced.Heads ⟨[], timeWord⟩ line.toList (gap ++ rest.toList) :=
      heads_iff.mpr ⟨_, by simp [Blank], rfl, hhead⟩
    have hfind : s.find? (Spaced.expanded ⟨[], timeWord⟩ s.context.bindings) =
        some Builtin.time.command := by
      rw [Spaced.expanded, expand_time, htime]
    obtain ⟨u, hgate⟩ := gate_of_suits hname bound_time hfind rfl hcut hsuits
    refine ⟨_, hgate, ?_⟩
    have hremainder : (pastName line ⟨[], timeWord⟩).remaining = rest := by
      rw [Scanner.remaining, pastName_rest hname, dropWhile_run hgap (stringAt_kind.solid htoken),
        String.ofList_toList]
    have hinner : Spaced.Heads ⟨[], l⟩ rest.toList text :=
      heads_iff.mpr ⟨_, by simp [Blank], rfl, htoken.1⟩
    rw [start_of_heads hinner hbound]
    exact rewind_of_heads hremainder hinner hbound

/-- A command name has been read, and nothing of what follows it. -/
def Context.Pending (c : Context) : Prop :=
  ∃ u, c.scanner = some u ∧ c.remainder = u.remaining ∧
    (∀ x ∈ u.rest.head?, isBlank x = false) ∧ c.arguments = []

theorem pending_of_readName (hargs : c.arguments = [])
    (h : (c.readName (Scanner.ofLine line).skipBlanks).1 = true) :
    (c.readName (Scanner.ofLine line).skipBlanks).2.Pending := by
  have hreading := nameReading c line
  generalize c.readName (Scanner.ofLine line).skipBlanks = n at hreading h ⊢
  cases hreading with
  | read hname hbound ht =>
    refine ⟨_, rfl, rfl, ?_, hargs⟩
    rw [ht]
    exact stop_dropWhile _ _
  | blank | malformed | unbound => cases h

theorem pending_of_rewind {u : Shell} (h : s.rewind = (true, u)) : u.context.Pending := by
  unfold Shell.rewind at h
  obtain ⟨hfound, rfl⟩ := Prod.mk.inj h
  exact pending_of_readName rfl hfound

/-- A command that needs arguments has been given one, which is the name of a command as well. -/
theorem rewind_of_judge (hpending : s.context.Pending) (h : s.judge name = (.call command, t))
    (hleast : 0 < command.arity.least) : t.rewind.1 = true := by
  obtain ⟨u, hu, hremainder, hsolid, hnone⟩ := hpending
  unfold Shell.judge at h
  split at h
  · cases h
  · split at h
    · cases h
    · next command' hfind hplain =>
      generalize hexamine : s.context.examine command' = n at h
      obtain ⟨verdict, e⟩ := n
      obtain ⟨rfl, rfl⟩ := Prod.mk.inj h
      obtain ⟨rfl, hargs, hbindings, hcount⟩ := examine_call hu hexamine
      have hstill := Context.examine_remainder s.context command
      rw [hexamine, hremainder] at hstill
      have hnothing : Blank [] := by simp [Blank]
      have hrest : u.rest = u.rest.dropWhile isBlank := (dropWhile_run hnothing hsolid).symm
      obtain ⟨ts, os, mid, rest, hscan, _⟩ := scanOperands_scans s.context.bindings hrest
      have hsome : (scanOperands s.context.bindings u).1.arguments ≠ [] := by
        intro hnil
        rw [hargs, hnone, hnil] at hcount
        exact absurd hleast (Nat.not_lt.mpr hcount)
      obtain ⟨gap, text, l, mid, token, hgap, htext, htoken, hvalue⟩ := head_of_scans hscan hsome
      have hname : Spaced.Heads ⟨gap, l⟩ u.remaining.toList mid := by
        rw [Scanner.remaining, String.toList_ofList]
        exact heads_iff.mpr ⟨text, hgap, htext, htoken.1⟩
      have hbound : Spaced.Bound ⟨gap, l⟩ e.bindings := by
        rw [hbindings]
        exact bound_of_lookUp hvalue
      rw [rewind_of_heads hstill hname hbound]

/-- What the gate decides in the course of running a line: at first, and again wherever a command
that times another one has found the name of that. -/
inductive Shell.Reached (s : Shell) (line : String) : Verdict × Shell → Prop
  | first : s.Reached line (s.gate line)
  | again {command : Command} {t u : Shell} (h : s.Reached line (.call command, t))
      (htimer : command.handler.isTimer = true) (hrewind : t.rewind = (true, u)) :
      s.Reached line (u.readClock.2.judge (u.context.commandName.getD ""))

theorem Shell.Reached.trans {line' : String} {n : Verdict × Shell}
    (h : s.Reached line (t.gate line')) (h' : t.Reached line' n) : s.Reached line n := by
  induction h' with
  | first => exact h
  | again _ htimer hrewind ih => exact .again ih htimer hrewind

/-- Whatever the gate decides, a command name has been read before. -/
theorem Shell.Reached.judged {n : Verdict × Shell} (h : s.Reached line n) :
    n.1 = .stop ∨ ∃ u name, u.context.Pending ∧ n = Shell.judge u name := by
  cases h with
  | first =>
    unfold Shell.gate
    dsimp only
    split
    · next hfound =>
      refine .inr ⟨_, _, ?_, rfl⟩
      exact pending_of_readName rfl hfound
    · exact .inl rfl
  | @again command t u _ _ hrewind =>
    have hpending : u.context.Pending := pending_of_rewind hrewind
    exact .inr ⟨u.readClock.2, _, hpending, rfl⟩

/-- Wherever `time` runs, it finds the name of a command to run. -/
theorem Shell.Reached.rewinds (h : s.Reached line (.call command, t))
    (hleast : 0 < command.arity.least) : t.rewind.1 = true := by
  rcases h.judged with hstop | ⟨u, name, hpending, hjudge⟩
  · cases hstop
  · exact rewind_of_judge hpending hjudge.symm hleast

/-- The shell after some readings of its clock. -/
def Shell.later (s : Shell) (count : Nat) : Shell :=
  { s with clock := { s.clock with readings := s.clock.readings + count } }

theorem later_later (s : Shell) (i j : Nat) : (s.later i).later j = s.later (i + j) := by
  simp [Shell.later, Nat.add_assoc]

/-- The message on the time that a command took. -/
def timing (name duration : String) : Message where
  text := s!"The command {name} took {duration} ms."

/-- The shell after messages for each of which the clock was read. -/
def Shell.timed (s : Shell) (ms : List Message) : Shell :=
  { s.later ms.length with context := ms.foldl Context.write s.context }

theorem timed_timed (s : Shell) (ms ns : List Message) :
    (s.timed ms).timed ns = s.timed (ms ++ ns) := by
  simp [Shell.timed, Shell.later, Nat.add_assoc]

/-- A command that times another one runs it between two readings of the clock. -/
theorem enact_again (reenter : Dispatcher) {u : Shell} (htimer : command.handler.isTimer = true)
    (hrewind : t.rewind = (true, u)) :
    Shell.enact reenter (.call command, t) =
      let name := u.context.commandName.getD ""
      let ended := (Shell.enact reenter (u.readClock.2.judge name)).readClock
      ended.2.logTiming name u.readClock.1 ended.1 := by
  rw [Shell.enact, if_pos htimer, Shell.runTimer, hrewind]
  dsimp only
  rw [runNamed_eq]

/-- It logs one message after that command. -/
theorem enact_timer (reenter : Dispatcher) {u : Shell} (htimer : command.handler.isTimer = true)
    (hrewind : t.rewind = (true, u)) :
    ∃ duration, Shell.enact reenter (.call command, t) =
      (Shell.enact reenter ((u.later 1).judge (u.context.commandName.getD ""))).timed
        [timing (u.context.commandName.getD "") duration] :=
  ⟨_, enact_again reenter htimer hrewind⟩

/-- Where `time` has found the name of a command, the gate decides as on the rest of the line
alone. -/
theorem gate_again {rest : String} (htime : s.find? "time" = some Builtin.time.command)
    (h : Times s.context.bindings line rest) :
    ∃ t u name, s.gate line = (.call Builtin.time.command, t) ∧
      t.rewind = (true, u) ∧ u.context.commandName = some name ∧
      (s.context.start rest).2.commandName = some name ∧
      (u.later 1).judge name = (s.later 1).gate rest := by
  obtain ⟨t, hgate, hrewind⟩ := gate_time htime h
  cases h with
  | @word gap text l _ _ htoken hbound _ =>
    have hname : Spaced.Heads ⟨[], l⟩ rest.toList text :=
      heads_iff.mpr ⟨_, by simp [Blank], rfl, htoken.1⟩
    have hstart := start_of_heads hname hbound
    have hlater : (s.later 1).gate rest = _ := gate_of_start (s := s.later 1) hstart
    rw [hstart] at hrewind ⊢
    exact ⟨t, _, Spaced.expanded ⟨[], l⟩ s.context.bindings, hgate, hrewind, rfl, rfl, hlater.symm⟩

/-- Running the rest of a timed line is running that rest alone. -/
theorem enact_time {rest : String} (reenter : Dispatcher)
    (htime : s.find? "time" = some Builtin.time.command)
    (h : Times s.context.bindings line rest) :
    ∃ name duration, (s.context.start rest).2.commandName = some name ∧
      Shell.enact reenter (s.gate line) =
        (Shell.enact reenter ((s.later 1).gate rest)).timed [timing name duration] := by
  obtain ⟨t, u, name, hgate, hrewind, hnamed, hname, hjudge⟩ := gate_again htime h
  have htimer : Builtin.time.command.handler.isTimer = true := rfl
  obtain ⟨duration, henact⟩ := enact_timer reenter htimer hrewind
  rw [hnamed, Option.getD_some, hjudge, ← hgate] at henact
  exact ⟨name, duration, hname, henact⟩

/-- The word `time` reads as the name of the command. -/
theorem start_time {rest : String} (h : Times s.context.bindings line rest) :
    (s.context.start line).2.commandName = some "time" := by
  cases h with
  | word _ hhead _ _ _ =>
    have hname : Spaced.Heads ⟨[], timeWord⟩ line.toList _ :=
      heads_iff.mpr ⟨_, by simp [Blank], rfl, hhead⟩
    rw [start_of_heads hname bound_time, Spaced.expanded, expand_time]
    rfl

section TimesTo

variable {k : Nat} {inner : String} (reenter : Dispatcher)
  (htime : s.find? "time" = some Builtin.time.command)

include htime

theorem reached_timesTo (h : TimesTo s.context.bindings k line inner) :
    s.Reached line ((s.later k).gate inner) := by
  induction k generalizing s line with
  | zero =>
    cases h
    exact .first
  | succ k ih =>
    cases h with
    | more h h' =>
      obtain ⟨t, u, name, hgate, hrewind, hnamed, _, hjudge⟩ := gate_again htime h
      have hfirst : s.Reached line (.call Builtin.time.command, t) := hgate ▸ .first
      have hagain : s.Reached line ((u.later 1).judge (u.context.commandName.getD "")) :=
        hfirst.again rfl hrewind
      rw [hnamed, Option.getD_some, hjudge] at hagain
      have hmore := ih (s := s.later 1) htime h'
      rw [later_later, Nat.add_comm] at hmore
      exact hagain.trans hmore

/-- Words `time` in front of a line add a message each, the innermost first. -/
theorem enact_timesTo (h : TimesTo s.context.bindings (k + 1) line inner) :
    ∃ name durations, (s.context.start inner).2.commandName = some name ∧
      durations.length = k + 1 ∧
      Shell.enact reenter (s.gate line) =
        (Shell.enact reenter ((s.later (k + 1)).gate inner)).timed
          (List.zipWith timing (name :: List.replicate k "time") durations) := by
  induction k generalizing s line with
  | zero =>
    cases h with
    | more h h' =>
      cases h'
      obtain ⟨name, duration, hname, henact⟩ := enact_time reenter htime h
      exact ⟨name, [duration], hname, rfl, henact⟩
  | succ k ih =>
    cases h with
    | @more _ _ rest _ h h' =>
      obtain ⟨outer, duration, houter, henact⟩ := enact_time reenter htime h
      have hrest : (s.context.start rest).2.commandName = some "time" := by
        cases h' with
        | more h' _ => exact start_time h'
      obtain rfl := Option.some.inj (hrest.symm.trans houter)
      obtain ⟨name, durations, hname, hlength, hinner⟩ := ih (s := s.later 1) htime h'
      refine ⟨name, durations ++ [duration], hname, by simp [hlength], ?_⟩
      rw [henact, hinner, timed_timed, later_later, Nat.add_comm 1]
      rw [List.replicate_succ', ← List.cons_append, List.zipWith_append (by simp [hlength])]
      rfl

theorem reached_timeLines (h : Timeable s.context.bindings line) (k : Nat) :
    s.Reached (timeLines k line) ((s.later k).gate line) :=
  reached_timesTo htime (timesTo_timeLines h k)

theorem enact_timeLines (h : Timeable s.context.bindings line) (k : Nat) :
    ∃ name durations, (s.context.start line).2.commandName = some name ∧
      durations.length = k + 1 ∧
      Shell.enact reenter (s.gate (timeLines (k + 1) line)) =
        (Shell.enact reenter ((s.later (k + 1)).gate line)).timed
          (List.zipWith timing (name :: List.replicate k "time") durations) :=
  enact_timesTo reenter htime (timesTo_timeLines h (k + 1))

end TimesTo

/-- Messages that do not count as errors leave the answer as it was. -/
theorem hasErrors_timed {ms : List Message} (hms : ∀ m ∈ ms, m.severity = .message)
    (h : .message ∉ s.context.errorSeverities) :
    (s.timed ms).context.hasErrors = s.context.hasErrors := by
  unfold Shell.timed
  generalize s.context = c at h
  induction ms generalizing c with
  | nil => rfl
  | cons m ms ih =>
    have hm := hms m (by simp)
    have hrest := ih (fun n hn => hms n (by simp [hn])) (c.write m) h
    exact hrest.trans (hasErrors_write (hm ▸ h))

theorem mem_timings {names durations : List String} {m : Message}
    (h : m ∈ List.zipWith timing names durations) : m.severity = .message := by
  obtain ⟨i, hi, rfl⟩ := List.mem_iff_getElem.mp h
  rw [List.getElem_zipWith]
  rfl

/-- A line behind words `time` runs as it runs alone once the clock has been read for each of them:
with the same command, name, arguments, options and remainder, and with the same answer. All that it
leaves besides is one message for each word, the innermost first. Wherever `time` runs at all, it
finds the name of a command to run. -/
theorem time_transparent {r : LineReading} (k : Nat)
    (htime : s.find? "time" = some Builtin.time.command)
    (hmessage : .message ∉ s.context.errorSeverities)
    (hkeeps : ((s.later (k + 1)).dispatch line).2.context.errorSeverities =
      s.context.errorSeverities)
    (hsolid : ∃ c tail, line.toList = c :: tail ∧ isBlank c = false)
    (hr : s.context.reset.readLine (timeLine line) = .ok r) (hcomplete : r.complete = true)
    (hargs : r.context.arguments ≠ []) (hhelp : r.context.options.find? "help" = none) :
    ∃ answer u v name durations,
      (s.later (k + 1)).dispatch line = (answer, u) ∧
      s.dispatch (timeLines (k + 1) line) = (answer, v) ∧
      s.Reached (timeLines (k + 1) line) ((s.later (k + 1)).gate line) ∧
      (s.context.start line).2.commandName = some name ∧ durations.length = k + 1 ∧
      v = u.timed (List.zipWith timing (name :: List.replicate k "time") durations) ∧
      v.commands = u.commands ∧ v.context.bindings = u.context.bindings ∧
      v.context.logged =
        u.context.logged ++ List.zipWith timing (name :: List.replicate k "time") durations ∧
      v.context.journal = (List.zipWith timing (name :: List.replicate k "time") durations).foldl
        Journal.write u.context.journal ∧
      ∀ line' t, s.Reached line' (.call Builtin.time.command, t) → t.rewind.1 = true := by
  have hsolid' : ∀ c ∈ line.toList.head?, isBlank c = false := by
    obtain ⟨c, tail, hline, hc⟩ := hsolid
    simpa [hline] using hc
  have h := timeable_of_readLine hsolid' hr hcomplete hargs hhelp
  obtain ⟨name, durations, hname, hlength, henact⟩ :=
    enact_timeLines Shell.reenter htime h k
  have halone : (s.later (k + 1)).dispatch line = _ := runLine_eq Shell.reenter line _
  have htimed : s.dispatch (timeLines (k + 1) line) = _ := runLine_eq Shell.reenter _ s
  generalize Shell.enact Shell.reenter ((s.later (k + 1)).gate line) = u at henact halone
  have hnone : .message ∉ u.context.errorSeverities := by
    rw [halone] at hkeeps
    rw [hkeeps]
    exact hmessage
  rw [henact, hasErrors_timed (fun m => mem_timings) hnone] at htimed
  refine ⟨_, u, u.timed _, name, durations, halone, htimed, reached_timeLines htime h (k + 1),
    hname, hlength, rfl, rfl, ?_, foldl_write_logged _ _, foldl_write_journal _ _, ?_⟩
  · exact foldl_write_keeps Context.bindings (fun _ _ => rfl) _ _
  · intro line' t hreached
    exact hreached.rewinds (by decide)

theorem time_transparent_noop : ∃ r : LineReading,
    Shell.standard.context.reset.readLine (timeLine (printLine "noop" [] [])) = .ok r ∧
      r.complete = true ∧ r.context.arguments ≠ [] ∧ r.context.options.find? "help" = none ∧
      ∃ v durations, Shell.standard.dispatch (timeLines 2 (printLine "noop" [] [])) = (true, v) ∧
        v.context.logged = List.zipWith timing ["noop", "time"] durations ∧
        durations.length = 2 := by
  have hprintable : Printable "noop" [] [] := by decide
  have htimeable : Timeable Shell.standard.context.bindings (printLine "noop" [] []) :=
    timeable_printLine hprintable (by decide) rfl
  obtain ⟨r, hr, hcomplete, hargs, hhelp⟩ := readLine_of_timeable htimeable
  refine ⟨r, hr, hcomplete, hargs, hhelp, ?_⟩
  have hsuits : Suits Builtin.noop.command (Shell.standard.later 2).context.bindings
      (segmentsOf "noop" [] []).operands := by
    refine ⟨(bound_segmentsOf hprintable).2, .inl rfl, ?_, by decide, .inl (by decide)⟩
    rintro ⟨hleast, _⟩
    cases hleast
  obtain ⟨text, hname, hcut⟩ := hprintable.cut
  obtain ⟨u, hgate⟩ := gate_of_suits (s := Shell.standard.later 2) hname
    (bound_segmentsOf hprintable).1 rfl rfl hcut hsuits
  have hrun : (Shell.standard.later 2).dispatch (printLine "noop" [] []) = _ :=
    runLine_eq Shell.reenter _ _
  rw [hgate] at hrun
  have hkeeps : ((Shell.standard.later 2).dispatch (printLine "noop" [] [])).2.context.errorSeverities
      = Shell.standard.context.errorSeverities := by
    rw [hrun]
    rfl
  have hsolid : ∃ c tail, (printLine "noop" [] []).toList = c :: tail ∧ isBlank c = false :=
    ⟨'"', _, rfl, by decide⟩
  obtain ⟨answer, v, w, name, durations, halone, htimed, _, hnamed, hlength, _, _, _, hlogged, _⟩ :=
    time_transparent 1 rfl (by decide) hkeeps hsolid hr hcomplete hargs hhelp
  obtain ⟨rfl, rfl⟩ := Prod.mk.inj (hrun.symm.trans halone)
  rw [start_of_heads hname (bound_segmentsOf hprintable).1, expanded_segmentsOf hprintable] at hnamed
  obtain rfl : "noop" = name := Option.some.inj hnamed
  exact ⟨w, durations, htimed, hlogged, hlength⟩

end LineShell
