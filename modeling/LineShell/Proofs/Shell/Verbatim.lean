import LineShell.Proofs.Shell.Course

/-! Commands that take the rest of their line as it stands. Where such a command stands alone it
sees that text untouched, whatever the text holds. Behind `time` it sees it untouched as well, but
only if it runs at all: `time` reads its own operands first, and these are the name and the same
text. -/
namespace LineShell

open LineShell.Line LineShell.Text

variable {s : Shell} {command : Command} {bindings : NameMap String} {name : String}

/-- Words `time` in front of a text, each with the given white space after it. -/
def timeWords (gaps : List (List Char)) (text : List Char) : List Char :=
  gaps.foldr (fun gap text => "time".toList ++ (gap ++ text)) text

/-- What stands around the name of a command in a line that calls it: the white space after each
word `time` in front of the name, the white space after the name, and the text that follows. -/
structure Call where
  gaps : List (List Char)
  gap : List Char
  rest : List Char
  parted : ∀ g ∈ gaps, Gap g
  blank : Blank gap
  ended : AtGap (gap ++ rest)
  solid : ∀ c ∈ rest.head?, isBlank c = false

/-- What follows the words `time` in a call of a command. -/
def Call.named (call : Call) (name : String) : List Char :=
  name.toList ++ (call.gap ++ call.rest)

/-- The line of a call. -/
def Call.line (call : Call) (name : String) : String :=
  String.ofList (timeWords call.gaps (call.named name))

/-- A word that a line can spell as it is, and that is no reference and no option. -/
structure PlainWord (name : String) : Prop where
  unquoted : Unquoted name.toList
  dollar : name.toList.head? ≠ some '$'
  hyphen : name.toList.head? ≠ some '-'

theorem PlainWord.not_reference (h : PlainWord name) : ¬ IsReference name :=
  fun href => h.dollar href.1

theorem Call.nameAt (call : Call) (h : PlainWord name) :
    NameAt (.bare name.toList) (call.named name) (call.gap ++ call.rest) :=
  .bare h.unquoted.nonempty h.unquoted.unquoted h.unquoted.solid call.ended

theorem Call.stringAt (call : Call) (h : PlainWord name) :
    StringAt (.bare name.toList) (call.named name) (call.gap ++ call.rest) := by
  refine ⟨call.nameAt h, ?_⟩
  rintro ⟨c, tail, heq, _⟩
  obtain ⟨d, more, hname⟩ := List.exists_cons_of_ne_nil h.unquoted.nonempty
  rw [Call.named, hname, List.cons_append] at heq
  obtain ⟨rfl, _⟩ := List.cons.inj heq
  exact h.hyphen (by rw [hname]; rfl)

/-- The first token of a text behind words `time`: the next such word, or what the text starts
with. -/
theorem token_timeWords {gaps : List (List Char)} {text rest : List Char} {l : Lexeme}
    (hgaps : ∀ g ∈ gaps, Gap g) (htoken : StringAt l text rest)
    (hbound : Bound bindings (String.ofList l.text)) :
    ∃ l' rest', StringAt l' (timeWords gaps text) rest' ∧
      Bound bindings (String.ofList l'.text) ∧
      (Passable bindings rest' ↔ Passable bindings rest) := by
  induction gaps with
  | nil => exact ⟨l, rest, htoken, hbound, .rfl⟩
  | cons gap gaps ih =>
    obtain ⟨hgap, hgaps⟩ := List.forall_mem_cons.mp hgaps
    obtain ⟨l', rest', htoken', hbound', hpass⟩ := ih hgaps
    refine ⟨timeWord, gap ++ timeWords gaps text, ?_, bound_time, ?_⟩
    · exact stringAt_of_time (nameAt_time (hgap.atGap _))
    · exact (passable_token hgap.blank htoken' hbound').trans hpass

/-- Where nothing is wrong with a text, all words `time` in front of its name run. -/
theorem timesTo_timeWords {gaps : List (List Char)} {text rest : List Char} {l : Lexeme}
    (hgaps : ∀ g ∈ gaps, Gap g) (htoken : StringAt l text rest)
    (hbound : Bound bindings (String.ofList l.text)) (hpass : Passable bindings rest) :
    TimesTo bindings gaps.length (String.ofList (timeWords gaps text)) (String.ofList text) := by
  induction gaps with
  | nil => exact .done
  | cons gap gaps ih =>
    obtain ⟨hgap, hgaps⟩ := List.forall_mem_cons.mp hgaps
    obtain ⟨l', rest', htoken', hbound', hpass'⟩ := token_timeWords hgaps htoken hbound
    refine .more ?_ (ih hgaps)
    refine .word hgap.blank ?_ (String.toList_ofList ▸ htoken') hbound' (hpass'.mpr hpass)
    rw [String.toList_ofList, String.toList_ofList]
    exact nameAt_time (hgap.atGap _)

/-- A line that selects a command that takes the rest of the line as it stands lets it run. -/
theorem gate_of_intercepting {line : String} {text : List Char} {name : Spaced Lexeme}
    (hname : name.Heads line.toList text) (hbound : name.Bound s.context.bindings)
    (hfind : s.find? (name.expanded s.context.bindings) = some command)
    (hraw : command.handler.isIntercepting = true) :
    ∃ t, s.gate line = (.intercept command, t) ∧
      t.context.remainder = String.ofList (text.dropWhile isBlank) ∧ t.context.arguments = [] ∧
      t.context.options = .empty ∧ Silent s.context t.context := by
  let c := (s.context.reset.setInput line).named (pastName line name)
    (name.expanded s.context.bindings)
  have hjudge : { s with context := c }.judge (name.expanded s.context.bindings) =
      (.intercept command, { s with context := c }) := by
    have hsome : { s with context := c }.find? (name.expanded s.context.bindings) = some command :=
      hfind
    unfold Shell.judge
    simp only [hsome, hraw]
    rfl
  refine ⟨{ s with context := c }, (gate_of_start (start_of_heads hname hbound)).trans hjudge, ?_,
    rfl, rfl, ⟨rfl, rfl, rfl, rfl, rfl, rfl⟩⟩
  rw [← pastName_rest hname]
  rfl

theorem Call.heads (call : Call) (h : PlainWord name) :
    Spaced.Heads ⟨[], .bare name.toList⟩ (call.named name) (call.gap ++ call.rest) :=
  heads_iff.mpr ⟨_, by simp [Blank], rfl, call.nameAt h⟩

theorem bound_bare (h : ¬ IsReference name) :
    Bound bindings (String.ofList (Lexeme.bare name.toList).text) := by
  rw [Lexeme.text, String.ofList_toList]
  exact bound_of_plain h

theorem expanded_bare (h : ¬ IsReference name) :
    Spaced.expanded ⟨[], .bare name.toList⟩ bindings = name := by
  rw [Spaced.expanded, Lexeme.text, String.ofList_toList]
  exact expand_of_plain h

/-- Nothing is wrong with a text if it is scanned to its end and asks for no help. -/
theorem passable_iff_scans {u : Scanner} {text : List Char}
    (hu : u.rest = text.dropWhile isBlank) : Passable bindings text ↔
      ScansAll (scanOperands bindings u) ∧
        HelpDeclined (NameMap.empty.insertAll (scanOperands bindings u).2.options) := by
  constructor
  · rintro ⟨d, hcut, hbound, hdeclined⟩
    obtain ⟨hall, _, hentries⟩ := scanOperands_of_cut hu hcut hbound
    rw [hentries]
    exact ⟨hall, hdeclined⟩
  · rintro ⟨hall, hdeclined⟩
    obtain ⟨d, hcut, hbound⟩ := cut_of_scanOperands hu hall
    obtain ⟨_, _, hentries⟩ := scanOperands_of_cut hu hcut hbound
    rw [hentries] at hdeclined
    exact ⟨d, hcut, hbound, hdeclined⟩

/-- The text of a call in which the words `time` find nothing wrong. -/
def Call.Clear (call : Call) (bindings : NameMap String) : Prop :=
  call.gaps = [] ∨ Passable bindings (call.gap ++ call.rest)

theorem Call.timesTo {call : Call} (h : PlainWord name) (hclear : call.Clear bindings) :
    TimesTo bindings call.gaps.length (call.line name) (String.ofList (call.named name)) := by
  rcases hclear with hnone | hpass
  · rw [Call.line, hnone]
    exact .done
  · exact timesTo_timeWords call.parted (call.stringAt h) (bound_bare h.not_reference) hpass

/-- What is logged where a line selects a command that does not run on what follows. -/
theorem Abort.refusal {line : String} {text : List Char} {m : Message} (h : Abort s line m)
    (hselect : s.Selects line command text) : Refusal command s.context.bindings text m := by
  obtain ⟨name, hname, hbound, hfind⟩ := hselect
  cases h with
  | malformed _ hnone => exact absurd hname (hnone name text)
  | unbound hname' hbound' =>
    obtain ⟨rfl, rfl⟩ := heads_unique hname hname'
    exact absurd hbound hbound'
  | unknown hname' _ hnone =>
    obtain ⟨rfl, rfl⟩ := heads_unique hname hname'
    rw [hnone] at hfind
    cases hfind
  | refused hselect' _ hrefusal =>
    obtain ⟨rfl, rfl⟩ := Shell.Selects.unique ⟨name, hname, hbound, hfind⟩ hselect'
    exact hrefusal

/-- A line with a word `time` in front of a text that this cannot read makes no handler run. -/
theorem gate_of_impassable {line : String} {text : List Char}
    (htime : s.find? "time" = some Builtin.time.command)
    (hname : Spaced.Heads ⟨[], timeWord⟩ line.toList text)
    (hno : ¬ Passable s.context.bindings text) (herror : .error ∈ s.context.errorSeverities) :
    ∃ m, (s.gate line).1 = .stop ∧ Refusal Builtin.time.command s.context.bindings text m ∧
      (s.gate line).2.context.logged = [m] := by
  have hselect : s.Selects line Builtin.time.command text := by
    refine ⟨_, hname, bound_time, ?_⟩
    rw [Spaced.expanded, expand_time, htime]
  have hstop : (s.gate line).1 = .stop := by
    cases hverdict : (s.gate line).1 with
    | stop => rfl
    | intercept command =>
      obtain ⟨hraw, text', hselect'⟩ := (gate_intercept_iff herror).mp hverdict
      obtain ⟨rfl, rfl⟩ := hselect.unique hselect'
      cases hraw
    | call command =>
      obtain ⟨_, text', hselect', d, hcut, hsuits⟩ := (gate_call_iff herror).mp hverdict
      obtain ⟨rfl, rfl⟩ := hselect.unique hselect'
      exact absurd ⟨d, hcut, hsuits.bound, hsuits.declined⟩ hno
  rcases gate_stop herror hstop with ⟨hblank, _⟩ | ⟨_, m, habort, hlogged, _⟩
  · exact absurd hselect (not_selects_of_blank hblank)
  · exact ⟨m, hstop, habort.refusal hselect, hlogged⟩

/-- The text that the first word `time` of a call reads. -/
theorem Call.impassable {call : Call} (h : PlainWord name) (hclear : ¬ call.Clear bindings) :
    ∃ text, Spaced.Heads ⟨[], timeWord⟩ (call.line name).toList text ∧
      ¬ Passable bindings text := by
  obtain ⟨hsome, hno⟩ := not_or.mp hclear
  obtain ⟨gap, gaps, hgaps⟩ := List.exists_cons_of_ne_nil hsome
  have hparted := call.parted
  rw [hgaps] at hparted
  obtain ⟨hgap, hparted⟩ := List.forall_mem_cons.mp hparted
  have hname : Bound bindings _ := bound_bare h.not_reference
  obtain ⟨l, rest, htoken, hbound, hpass⟩ := token_timeWords hparted (call.stringAt h) hname
  refine ⟨gap ++ timeWords gaps (call.named name), ?_, ?_⟩
  · rw [Call.line, hgaps, String.toList_ofList]
    exact heads_iff.mpr ⟨_, by simp [Blank], rfl, nameAt_time (hgap.atGap _)⟩
  · rw [passable_token hgap.blank htoken hbound, hpass]
    exact hno

/-- A clear call runs its command behind all words `time`, and each of these adds a message. -/
theorem Call.enacts {call : Call} (reenter : Dispatcher)
    (htime : s.find? "time" = some Builtin.time.command) (h : PlainWord name)
    (hclear : call.Clear s.context.bindings) :
    ∃ ms, Timings ms ∧ ms.length = call.gaps.length ∧
      Shell.enact reenter (s.gate (call.line name)) = (Shell.enact reenter
        ((s.later call.gaps.length).gate (String.ofList (call.named name)))).timed ms := by
  have hto := call.timesTo h hclear
  cases hk : call.gaps.length with
  | zero =>
    have halone : call.line name = String.ofList (call.named name) := by
      rw [Call.line, List.length_eq_zero_iff.mp hk]
      rfl
    have hlater : s.later 0 = s := rfl
    refine ⟨[], by simp [Timings], rfl, ?_⟩
    rw [halone, hlater, timed_nil]
  | succ k =>
    rw [hk] at hto
    obtain ⟨_, durations, _, hlength, henact⟩ := enact_timesTo reenter htime hto
    refine ⟨_, ?_, by simp [hlength], henact⟩
    intro m hm
    obtain ⟨i, hi, rfl⟩ := List.mem_iff_getElem.mp hm
    rw [List.getElem_zipWith]
    exact ⟨_, _, rfl⟩

/-- A command that takes the rest of its line as it stands is handed exactly the text behind its
name, with nothing read of it, where it stands alone, and behind words `time` where these find
nothing wrong with that text: where it can be read as arguments and options and does not ask for
help. Otherwise the first `time` refuses it, and the command does not run. -/
theorem intercept_verbatim (s : Shell) (command : Command) (call : Call)
    (htime : s.find? "time" = some Builtin.time.command)
    (hfind : s.find? command.name = some command)
    (hraw : command.handler.isIntercepting = true) (hword : PlainWord command.name) :
    (call.Clear s.context.bindings → ∃ t u ms,
      s.Reached (call.line command.name) (.intercept command, t) ∧
      t.context.remainder = String.ofList call.rest ∧ t.context.arguments = [] ∧
      t.context.options = .empty ∧ Silent s.context t.context ∧
      u = (Shell.settle (Shell.intercept Shell.reenter command.handler (String.ofList call.rest)
        t)).timed ms ∧
      Timings ms ∧ ms.length = call.gaps.length ∧
      s.dispatch (call.line command.name) = (!u.context.hasErrors, u)) ∧
    (¬ call.Clear s.context.bindings → .error ∈ s.context.errorSeverities → ∃ t text m,
      (∀ n, s.Reached (call.line command.name) n → n = (.stop, t)) ∧
      s.dispatch (call.line command.name) = (!t.context.hasErrors, t) ∧
      Spaced.Heads ⟨[], timeWord⟩ (call.line command.name).toList text ∧
      Refusal Builtin.time.command s.context.bindings text m ∧ t.context.logged = [m]) := by
  have hdispatch := dispatch_eq s (call.line command.name)
  constructor
  · intro hclear
    obtain ⟨ms, hms, hlength, henact⟩ := call.enacts Shell.reenter htime hword hclear
    have hreached := reached_timesTo htime (call.timesTo hword hclear)
    have hname := call.heads hword
    rw [← String.toList_ofList (l := call.named command.name)] at hname
    have hfind' : (s.later call.gaps.length).find? (Spaced.expanded
        ⟨[], .bare command.name.toList⟩ (s.later call.gaps.length).context.bindings) =
        some command := by
      rw [expanded_bare hword.not_reference]
      exact hfind
    obtain ⟨t, hgate, hremainder, hargs, hopts, hsilent⟩ :=
      gate_of_intercepting hname (bound_bare hword.not_reference) hfind' hraw
    rw [dropWhile_run call.blank call.solid] at hremainder
    rw [hgate] at hreached henact
    rw [Shell.enact, hremainder] at henact
    rw [henact] at hdispatch
    exact ⟨t, _, ms, hreached, hremainder, hargs, hopts, hsilent, rfl, hms, hlength, hdispatch⟩
  · intro hclear herror
    obtain ⟨text, hname, hno⟩ := call.impassable hword hclear
    obtain ⟨m, hstop, hrefusal, hlogged⟩ := gate_of_impassable htime hname hno herror
    have hgate : s.gate (call.line command.name) =
        (.stop, (s.gate (call.line command.name)).2) := by rw [← hstop]
    refine ⟨(s.gate (call.line command.name)).2, text, m, ?_, ?_, hname, hrefusal, hlogged⟩
    · intro n hn
      exact (reached_of_stop hstop hn).trans hgate
    · rw [hgate, Shell.enact] at hdispatch
      exact hdispatch

theorem intercept_verbatim_echo : ∃ (call : Call) (t u : Shell) (ms : List Message),
    call.line "echo" = "time time echo \"a b\" -5 $ -x = 1" ∧
      Shell.standard.find? "time" = some Builtin.time.command ∧
      Shell.standard.find? Builtin.echo.command.name = some Builtin.echo.command ∧
      PlainWord Builtin.echo.command.name ∧ call.Clear Shell.standard.context.bindings ∧
      Shell.standard.Reached (call.line "echo") (.intercept Builtin.echo.command, t) ∧
      t.context.remainder = "\"a b\" -5 $ -x = 1" ∧
      Shell.standard.dispatch (call.line "echo") = (!u.context.hasErrors, u) ∧
      ms.length = 2 ∧ u.context.logged = { text := "\"a b\" -5 $ -x = 1" } :: ms := by
  let call : Call :=
    { gaps := [[' '], [' ']], gap := [' '], rest := "\"a b\" -5 $ -x = 1".toList
      parted := by simp [gap_space]
      blank := gap_space.blank, ended := gap_space.atGap _, solid := by rintro _ ⟨⟩; decide }
  have hword : PlainWord Builtin.echo.command.name := ⟨by decide, by decide, by decide⟩
  have hclear : call.Clear Shell.standard.context.bindings := by
    refine .inr ((passable_iff_scans (u := Scanner.ofLine "\"a b\" -5 $ -x = 1") rfl).mpr ?_)
    exact ⟨⟨by decide +kernel, by decide +kernel, by decide +kernel⟩, .inl (by decide +kernel)⟩
  obtain ⟨t, u, ms, hreached, hremainder, _, _, hsilent, rfl, _, hlength, hdispatch⟩ :=
    (intercept_verbatim Shell.standard Builtin.echo.command call rfl rfl rfl hword).1 hclear
  refine ⟨call, t, _, ms, by decide, rfl, rfl, hword, hclear, hreached, hremainder, hdispatch,
    hlength, ?_⟩
  have hlogged := foldl_write_logged ms (t.context.logText "\"a b\" -5 $ -x = 1")
  rw [Context.logText, Context.write_logged, hsilent.logged] at hlogged
  exact hlogged

/-- Behind `time` a command need not see its text: here the text is a reference, which `time` looks
up in vain. -/
theorem timed_echo_refused : ∃ call : Call,
    call.line "echo" = "time echo $x" ∧ String.ofList call.rest = "$x" ∧
      Shell.standard.find? "time" = some Builtin.time.command ∧
      Shell.standard.find? "echo" = some Builtin.echo.command ∧
      Builtin.echo.command.handler.isIntercepting = true ∧ PlainWord "echo" ∧
      (∀ t, ¬ Shell.standard.Reached "time echo $x" (.intercept Builtin.echo.command, t)) ∧
      (Shell.standard.dispatch "time echo $x").1 = false ∧
      (Shell.standard.dispatch "time echo $x").2.context.logged =
        [(Fault.unboundReference "x").entry] := by
  let call : Call :=
    { gaps := [[' ']], gap := [' '], rest := ['$', 'x']
      parted := List.forall_mem_singleton.mpr gap_space
      blank := gap_space.blank, ended := gap_space.atGap _, solid := by rintro _ ⟨⟩; decide }
  have hword : PlainWord "echo" := ⟨by decide, by decide, by decide⟩
  have hline : call.line "echo" = "time echo $x" := by decide
  have hclear : ¬ call.Clear Shell.standard.context.bindings := by
    rintro (hnone | hpass)
    · cases hnone
    · obtain ⟨⟨hunbound, _⟩, _⟩ := (passable_iff_scans (u := Scanner.ofLine "$x") rfl).mp hpass
      exact absurd hunbound (by decide +kernel)
  obtain ⟨text, hname, hno⟩ := call.impassable hword hclear
  rw [hline] at hname
  obtain ⟨m, hstop, _⟩ := gate_of_impassable (s := Shell.standard) rfl hname hno (by decide)
  refine ⟨call, hline, rfl, rfl, rfl, rfl, hword, ?_, by decide +kernel, by decide +kernel⟩
  intro t ht
  have hgate := reached_of_stop hstop ht
  rw [← hgate] at hstop
  cases hstop

end LineShell
