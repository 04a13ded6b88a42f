import LineShell.Proofs.Context.Logging
import LineShell.Proofs.Context.Progress
import LineShell.Proofs.Context.RoundTrip

/-! Where the readings of arguments and options stop, and what they leave. What was read before the
first token that cannot be taken is kept, the cursor stands at that token, and one message says what
is wrong with it. -/
namespace LineShell

open LineShell.Line LineShell.Text

variable {bindings : NameMap String} {c c₀ : Context} {line : String} {text mid tail : List Char}
  {ts : List (Spaced Lexeme)} {os : List (Spaced OptionLexeme)} {s : Scanner} {n m : Bool × Context}
  {o : OptionLexeme} {missing : String}

/-- The value of an option is a reference to a variable that is not bound. -/
def Line.OptionLexeme.Unbound (bindings : NameMap String) (o : OptionLexeme) (missing : String) :
    Prop :=
  ∃ a ∈ o.assignment, LineShell.Unbound bindings (String.ofList a.value.text) missing

theorem not_bound_of_unbound_option (h : o.Unbound bindings missing) : ¬ o.Bound bindings := by
  obtain ⟨a, ha, hunbound⟩ := h
  exact fun hbound => not_bound_of_unbound hunbound (hbound a ha)

theorem unbound_of_entryValue (h : entryValue bindings o = .error missing) :
    o.Unbound bindings missing := by
  rw [entryValue, optionOf, OptionLexeme.token] at h
  cases ha : o.assignment with
  | none => rw [ha] at h; cases h
  | some a =>
    rw [ha] at h
    dsimp only [Option.map_some] at h
    cases hvalue : lookUp bindings (String.ofList a.value.text) with
    | error name =>
      rw [hvalue] at h
      obtain rfl : name = missing := Except.error.inj h
      exact ⟨a, ha, lookUp_eq_error.mp hvalue⟩
    | ok value => rw [hvalue] at h; cases h

/-- The values of arguments that stand on a line. -/
def argumentTexts (bindings : NameMap String) (ts : List (Spaced Lexeme)) : List String :=
  ts.map fun t => expand bindings (String.ofList t.token.text)

/-- Options that stand on a line, in a map: of a name that comes again the last value counts. -/
def optionTable (bindings : NameMap String) (os : List (Spaced OptionLexeme)) :
    NameMap (Option String) :=
  NameMap.empty.insertAll (os.map fun o => o.token.entry bindings)

/-- How the reading of the arguments ends that a text holds before `rest`: at the first one that is
an unbound reference, or past the last one. -/
inductive ArgumentReading (c : Context) (line : String) (text : List Char)
    (ts : List (Spaced Lexeme)) (rest : List Char) : Bool × Context → Prop
  | unbound {before later : List (Spaced Lexeme)} {t : Spaced Lexeme} {missing : String}
      {s : Scanner} {after : List Char} {d : Context} (split : ts = before ++ t :: later)
      (bound : ∀ x ∈ before, Bound c.bindings (String.ofList x.token.text))
      (unbound : Unbound c.bindings (String.ofList t.token.text) missing)
      (source : s.source = line.toList) (position : TokensAt StringAt before text (t.gap ++ s.rest))
      (token : StringAt t.token s.rest after)
      (gains : Context.Gains
        { c with scanner := some s, arguments := argumentTexts c.bindings before }
        (Fault.unboundReference missing).entry d) :
      ArgumentReading c line text ts rest (false, d)
  | complete {s : Scanner} (bound : ∀ x ∈ ts, Bound c.bindings (String.ofList x.token.text))
      (source : s.source = line.toList) (position : s.rest = rest.dropWhile isBlank)
      (stop : s.rest = [] ∨ OptionAhead s.rest ∨ OpenQuote s.rest) :
      ArgumentReading c line text ts rest (true,
        { c with scanner := some s, arguments := argumentTexts c.bindings ts })

/-- How the reading of the options ends that a text holds before `rest`: at the first one whose
value is an unbound reference, at something that is no option, or at the end of the line. -/
inductive OptionReading (c : Context) (line : String) (text : List Char)
    (os : List (Spaced OptionLexeme)) (rest : List Char) : Bool × Context → Prop
  | unbound {before later : List (Spaced OptionLexeme)} {o : Spaced OptionLexeme}
      {missing : String} {s : Scanner} {after : List Char} {d : Context}
      (split : os = before ++ o :: later)
      (bound : ∀ x ∈ before, x.token.Bound c.bindings)
      (unbound : o.token.Unbound c.bindings missing)
      (source : s.source = line.toList) (position : TokensAt OptionAt before text (o.gap ++ s.rest))
      (token : OptionAt o.token s.rest after)
      (gains : Context.Gains { c with scanner := some s, options := optionTable c.bindings before }
        (Fault.unboundReference missing).entry d) :
      OptionReading c line text os rest (false, d)
  | left {s : Scanner} {d : Context} (bound : ∀ x ∈ os, x.token.Bound c.bindings)
      (source : s.source = line.toList) (position : s.rest = rest.dropWhile isBlank)
      (remains : s.rest ≠ []) (noOption : ∀ o after, ¬ OptionAt o s.rest after)
      (gains : Context.Gains { c with scanner := some s, options := optionTable c.bindings os }
        (Fault.malformed (String.ofList s.rest) Context.optionAdvice).entry d) :
      OptionReading c line text os rest (false, d)
  | complete {s : Scanner} (bound : ∀ x ∈ os, x.token.Bound c.bindings)
      (source : s.source = line.toList) (ended : s.rest = []) (blank : Blank rest) :
      OptionReading c line text os rest (true,
        { c with scanner := some s, options := optionTable c.bindings os })

theorem ArgumentReading.failed_iff (h : ArgumentReading c line text ts mid n) :
    n.1 = false ↔ ∃ t ∈ ts, ¬ Bound c.bindings (String.ofList t.token.text) := by
  cases h with
  | @unbound _ _ t _ _ _ _ split _ unbound =>
    exact iff_of_true rfl ⟨t, by simp [split], not_bound_of_unbound unbound⟩
  | complete bound =>
    exact iff_of_false (nomatch ·) fun ⟨t, ht, hunbound⟩ => hunbound (bound t ht)

theorem OptionReading.failed_iff (h : OptionReading c line text os tail m) :
    m.1 = false ↔ (∃ o ∈ os, ¬ o.token.Bound c.bindings) ∨ ¬ Blank tail := by
  cases h with
  | @unbound _ _ o _ _ _ _ split _ unbound =>
    exact iff_of_true rfl (.inl ⟨o, by simp [split], not_bound_of_unbound_option unbound⟩)
  | left _ _ position remains =>
    rw [position] at remains
    exact iff_of_true rfl (.inr fun hblank => remains (List.dropWhile_eq_nil_iff.mpr hblank))
  | complete bound _ _ blank =>
    refine iff_of_false (nomatch ·) ?_
    rintro (⟨o, ho, hunbound⟩ | hrest)
    · exact hunbound (bound o ho)
    · exact hrest blank

/-- Behind the last argument the line ends, or an option or a quote that is not closed follows. -/
theorem stop_of_argumentRun (h : TokenRun StringAt ts text mid) :
    mid.dropWhile isBlank = [] ∨ OptionAhead (mid.dropWhile isBlank) ∨
      OpenQuote (mid.dropWhile isBlank) := by
  have hnone : readString? (mid.dropWhile isBlank) = none := by
    rw [Option.eq_none_iff_forall_ne_some]
    intro l hread
    obtain ⟨rest, htoken⟩ := readString?_iff.mp hread
    exact h.maximal (tokenAhead_of_dropWhile htoken)
  rcases readString?_eq_none_iff.mp hnone with hahead | hgap | hopen
  · exact .inr (.inl hahead)
  · refine .inl (List.head?_eq_none_iff.mp (Option.eq_none_iff_forall_not_mem.mpr ?_))
    intro c hc
    have hsolid := stop_dropWhile isBlank mid c hc
    rw [hgap c hc] at hsolid
    cases hsolid
  · exact .inr (.inr hopen)

/-- What a reader takes leaves it on its line. -/
theorem source_of_taken {τ ω : Type} {taken : Option ω} {accept : ω → τ × Scanner} {token : τ}
    {t : Scanner} (haccept : ∀ l, (accept l).2.source = s.source)
    (h : taken.map accept = some (token, t)) : t.source = s.source := by
  obtain ⟨l, _, hacc⟩ := Option.map_eq_some_iff.mp h
  rw [← haccept l, hacc]

theorem source_scanArguments (bindings : NameMap String) (s : Scanner) :
    (scanArguments bindings s).scanner.source = s.source :=
  source_of_loop (source_of_taken fun _ => rfl) (loop_arguments bindings s)

theorem source_scanOptions (bindings : NameMap String) (s : Scanner) :
    (scanOptions bindings s).scanner.source = s.source :=
  source_of_loop (source_of_taken fun _ => rfl) (loop_options bindings s)

/-- The reading of arguments, from a scanner past what was read before them. -/
theorem argumentReading (hrun : TokenRun StringAt ts text mid) (hnew : c.arguments = [])
    (hsource : s.source = line.toList) (hs : s.rest = text.dropWhile isBlank) :
    ArgumentReading c line text ts mid (c.readArguments s) := by
  have hstart : s.skipBlanks.rest = text.dropWhile isBlank := by
    rw [Scanner.skipBlanks_rest, hs, List.dropWhile_idempotent]
  have hline := (source_scanArguments c.bindings s.skipBlanks).trans hsource
  obtain ⟨before, stop, hscans, hrest⟩ := scans_arguments c.bindings s.skipBlanks hstart
  obtain ⟨hbound, htexts⟩ := eq_map_of_scans expand_of_lookUp hscans
  obtain ⟨us, rest, hrun', hend⟩ := end_of_scans stringAt_shorter hscans
  obtain ⟨rfl, rfl⟩ := hrun'.unique stringAt_kind hrun
  unfold Context.readArguments
  rcases hend with ⟨hu, rfl, rfl⟩ | ⟨missing, t, cs, after, later, hu, rfl, hgap, rfl, htoken, herror⟩
  · simp only [hu, hnew, List.nil_append, htexts]
    exact .complete hbound hline hrest (hrest ▸ stop_of_argumentRun hrun)
  · rw [dropWhile_run hgap (stringAt_kind.solid htoken)] at hrest
    simp only [hu, hnew, List.nil_append, htexts]
    have hposition := tokensAt_of_scans hscans
    rw [← hrest] at hposition htoken
    exact .unbound rfl hbound (lookUp_eq_error.mp herror) hline hposition htoken (gains_trigger _ _)

/-- The reading of options, from a scanner past what was read before them. -/
theorem optionReading (hrun : TokenRun OptionAt os mid tail) (hnew : c.options = .empty)
    (hsource : s.source = line.toList) (hs : s.rest = mid.dropWhile isBlank) :
    OptionReading c line mid os tail (c.readOptions s) := by
  have hstart : s.skipBlanks.rest = mid.dropWhile isBlank := by
    rw [Scanner.skipBlanks_rest, hs, List.dropWhile_idempotent]
  have hline := (source_scanOptions c.bindings s.skipBlanks).trans hsource
  obtain ⟨before, stop, hscans, hrest⟩ := scans_options c.bindings s.skipBlanks hstart
  obtain ⟨hbound, hentries⟩ := eq_map_of_scans entry_of_entryValue hscans
  obtain ⟨us, rest, hrun', hend⟩ := end_of_scans optionAt_shorter hscans
  obtain ⟨rfl, rfl⟩ := hrun'.unique optionAt_kind hrun
  unfold Context.readOptions
  rcases hend with ⟨hu, rfl, rfl⟩ | ⟨missing, o, cs, after, later, hu, rfl, hgap, rfl, htoken, herror⟩
  · simp only [hu, hnew, hentries]
    split
    next hempty =>
      have hnil := isEmpty_iff_rest.mp hempty
      exact .complete hbound hline hnil (List.dropWhile_eq_nil_iff.mp (hrest ▸ hnil))
    next hempty =>
      refine .left hbound hline hrest (fun hnil => hempty (isEmpty_iff_rest.mpr hnil)) ?_
        (gains_trigger _ _)
      intro o after htoken
      rw [hrest] at htoken
      exact hrun.maximal (tokenAhead_of_dropWhile htoken)
  · rw [dropWhile_run hgap (optionAt_kind.solid htoken)] at hrest
    simp only [hu, hnew, hentries]
    have hposition := tokensAt_of_scans hscans
    rw [← hrest] at hposition htoken
    exact .unbound rfl hbound (unbound_of_entryValue herror) hline hposition htoken
      (gains_trigger _ _)

/-- Where all arguments were taken, the options are read from behind them. -/
theorem ArgumentReading.options (h : ArgumentReading c line text ts mid n)
    (hread : n.1 = true) (hnew : c.options = .empty) (hrun : TokenRun OptionAt os mid tail) :
    n.2.bindings = c.bindings ∧
      ∃ m, n.2.parseOptions = .ok m ∧ OptionReading n.2 line mid os tail m := by
  cases h with
  | unbound => cases hread
  | complete _ source position => exact ⟨rfl, _, rfl, optionReading hrun hnew source position⟩

/-- A context whose command name was just read stands past it. -/
theorem named_of_parseName (h : (c₀.setInput line).parseName = .ok (true, c)) :
    ∃ (name : Spaced Lexeme) (text : List Char), name.Heads line.toList text ∧
      name.Bound c₀.bindings ∧
      c = (c₀.setInput line).named (pastName line name) (name.expanded c₀.bindings) := by
  have hread : (c₀.setInput line).readName (Scanner.ofLine line).skipBlanks = (true, c) :=
    Except.ok.inj h
  have hreading := nameReading (c₀.setInput line) line
  rw [hread] at hreading
  cases hreading with
  | @read name text t hname hbound _ =>
    rw [readName_of_heads hname hbound] at hread
    exact ⟨name, text, hname, hbound, (Prod.mk.inj hread).2.symm⟩

/-- After the command name of a line, arguments are read up to the first unbound reference, and
behind them options up to the first unbound reference or the first thing that is no option. What was
read before is kept, the cursor stands where the reading ended, and what ended it early is logged,
and nothing else. -/
theorem readings_keep_what_came_before
    (h : (c₀.reset.setInput line).parseName = .ok (true, c)) :
    ∃ (name : Spaced Lexeme) (text mid tail : List Char) (ts : List (Spaced Lexeme))
      (os : List (Spaced OptionLexeme)),
      name.Heads line.toList text ∧ TokenRun StringAt ts text mid ∧ TokenRun OptionAt os mid tail ∧
      c.bindings = c₀.bindings ∧ c.logged = [] ∧
      ∃ n, c.parseArguments = .ok n ∧ ArgumentReading c line text ts mid n ∧
        (n.1 = false ↔ ∃ t ∈ ts, ¬ Bound c.bindings (String.ofList t.token.text)) ∧
        (n.1 = true → ∃ m, n.2.parseOptions = .ok m ∧ OptionReading n.2 line mid os tail m ∧
          (m.1 = false ↔ (∃ o ∈ os, ¬ o.token.Bound c.bindings) ∨ ¬ Blank tail)) := by
  obtain ⟨name, text, hname, _, rfl⟩ := named_of_parseName h
  obtain ⟨ts, mid, harguments⟩ := tokenRun_exists stringAt_shorter text
  obtain ⟨os, tail, hoptions⟩ := tokenRun_exists optionAt_shorter mid
  have hreading := argumentReading
    (c := (c₀.reset.setInput line).named (pastName line name) (name.expanded c₀.reset.bindings))
    harguments rfl rfl (pastName_rest hname)
  refine ⟨name, text, mid, tail, ts, os, hname, harguments, hoptions, rfl, rfl, _, rfl, hreading,
    hreading.failed_iff, fun hread => ?_⟩
  obtain ⟨hbindings, m, hm, hmore⟩ := hreading.options hread rfl hoptions
  exact ⟨m, hm, hmore, hbindings ▸ hmore.failed_iff⟩

theorem readings_keep_what_came_before_reference :
    ∃ c n, ((Context.fresh (.empty 1 Nat.one_pos)).reset.setInput
        (printLine "put" ["a", "$x"] [])).parseName = .ok (true, c) ∧
      c.parseArguments = .ok n ∧ n.1 = false ∧ n.2.arguments = ["a"] := by
  have h : ((Context.fresh (.empty 1 Nat.one_pos)).reset.setInput
    (printLine "put" ["a", "$x"] [])).parseName = .ok (true, _) := rfl
  obtain ⟨_, _, _, _, _, _, hname, hrun, _, _, _, n, hn, _, hfailed, _⟩ :=
    readings_keep_what_came_before h
  have hput : NameText "put" := by decide
  obtain ⟨_, hhead, _, harguments, hoptions, hblank⟩ := cut_printLine hput
    (show ∀ a ∈ ["a", "$x"], StringText a by decide) (List.forall_mem_nil OptionText)
  obtain ⟨_, rfl⟩ := heads_unique hname hhead
  obtain ⟨rfl, _⟩ := hrun.unique stringAt_kind
    ⟨harguments, not_stringAhead_of_options hoptions hblank⟩
  refine ⟨_, n, h, hn, hfailed.mpr ⟨_, .tail _ (.head _), ?_⟩, ?_⟩
  · exact not_bound_of_unbound (show Unbound _ _ "x" from ⟨rfl, rfl⟩)
  · obtain rfl := Except.ok.inj hn
    decide +kernel

end LineShell
