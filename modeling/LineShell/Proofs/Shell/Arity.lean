import LineShell.Proofs.Shell.Calling

/-! The number of arguments that a line gives to a command. A command that needs some and is given
nothing at all shows its usage; one that does not take the number it is given says which bound was
missed; any other one runs, after a warning about each argument beyond its greatest number. -/
namespace LineShell

open LineShell.Line LineShell.Text

variable {s : Shell} {line label : String} {command : Command} {text : List Char} {d : Operands}
  {count : Nat} {bindings : NameMap String} {least greatest : Int}

/-- A bound on the number of arguments. -/
inductive ArityBound
  | exactly (limit : Nat)
  | atLeast (limit : Nat)
  | atMost (limit : Nat)

namespace ArityBound

/-- A number of arguments is within the bound. -/
def Allows : ArityBound → Nat → Prop
  | exactly limit, count => count = limit
  | atLeast limit, count => limit ≤ count
  | atMost limit, count => count ≤ limit

def word : ArityBound → String
  | exactly _ => "exactly"
  | atLeast _ => "at least"
  | atMost _ => "at most"

def limit : ArityBound → Nat
  | exactly limit | atLeast limit | atMost limit => limit

/-- The text of a complaint that states the bound. -/
def complaint (b : ArityBound) (command : Command) (count : Nat) : String :=
  let noun := pluralize "argument" b.limit
  s!"Command '{command.name}' expects {b.word} {b.limit} {noun}, got {count}."

end ArityBound

/-- A complaint about the number of arguments states a bound that was missed, and that the command
can be called within. -/
theorem wrongArity_states (h : ¬ Takes command count) : ∃ b : ArityBound,
    (Fault.wrongArity command count).text = b.complaint command count ∧ ¬ b.Allows count ∧
      ∃ n, Takes command n ∧ b.Allows n := by
  have hleast : Takes command command.arity.least := ⟨le_rfl, .inl command.arity.least_le⟩
  by_cases hexact : command.arity.greatest = some command.arity.least
  · refine ⟨.exactly command.arity.least, ?_, ?_, _, hleast, rfl⟩
    · simp only [Fault.wrongArity, if_pos hexact]
      rfl
    · rintro rfl
      exact h hleast
  · by_cases hfew : count < command.arity.least
    · refine ⟨.atLeast command.arity.least, ?_, Nat.not_le.mpr hfew, _, hleast, le_rfl⟩
      simp only [Fault.wrongArity, if_neg hexact, if_pos hfew]
      rfl
    · -- there are enough, so a greatest number was passed
      obtain ⟨most, hmost, hmany⟩ : ∃ most, command.arity.greatest = some most ∧ most < count := by
        by_contra hnone
        refine h ⟨Nat.not_lt.mp hfew, .inl fun most hmost => Nat.not_lt.mp fun hlt => ?_⟩
        exact hnone ⟨most, hmost, hlt⟩
      have htakes : Takes command most := by
        refine ⟨command.arity.least_le most hmost, .inl fun n hn => ?_⟩
        rw [Option.mem_def, hmost] at hn
        exact (Option.some.inj hn).le
      refine ⟨.atMost most, ?_, Nat.not_le.mpr hmany, most, htakes, le_rfl⟩
      simp only [Fault.wrongArity, if_neg hexact, if_neg hfew]
      rw [hmost]
      rfl

/-- The numbers of arguments that a host gives for a command. Minus one stands for no greatest
number. -/
structure Arity.Given (a : Arity) (least greatest : Int) : Prop where
  lower : (a.least : Int) = least
  upper : greatest = -1 ∧ a.greatest = none ∨ least ≤ greatest ∧ a.greatest = some greatest.toNat

theorem arity_of_make {H : Type} {o : CommandOptions} {handler : H} {handlerName : String}
    {doc : Option String} {c : CommandOf H} (h : o.make label handler handlerName doc = .ok c) :
    ∃ least greatest : Int, o.least = .int least ∧ o.greatest = .int greatest ∧
      c.arity.Given least greatest := by
  unfold CommandOptions.make at h
  obtain ⟨name, _, h⟩ := ok_of_bind h
  obtain ⟨least, hleast, h⟩ := ok_of_bind h
  obtain ⟨greatest, hgreatest, h⟩ := ok_of_bind h
  obtain ⟨arity, harity, h⟩ := ok_of_bind h
  obtain ⟨help, _, h⟩ := ok_of_bind h
  obtain ⟨extended, _, h⟩ := ok_of_bind h
  obtain rfl := Except.ok.inj h
  have hint : ∀ {field : String} {v : Value} {n : Int},
      CommandOptions.checkCount label field v = .ok n → v = .int n := by
    intro field v n hv
    cases v with
    | int m => exact congrArg Value.int (Except.ok.inj hv)
    | _ => cases hv
  refine ⟨least, greatest, hint hleast, hint hgreatest, ?_⟩
  unfold CommandOptions.checkArity at harity
  split at harity
  · cases harity
  · next hpositive =>
    split at harity
    · next hall =>
      obtain rfl := Except.ok.inj harity
      exact ⟨Int.toNat_of_nonneg (Int.not_lt.mp hpositive), .inl ⟨hall, rfl⟩⟩
    · split at harity
      · next hle =>
        obtain rfl := Except.ok.inj harity
        exact ⟨Int.toNat_of_nonneg (Int.not_lt.mp hpositive), .inr ⟨hle, rfl⟩⟩
      · cases harity

/-- A command that needs arguments is given nothing at all. -/
def GivenNothing (least : Int) (d : Operands) : Prop :=
  0 < least ∧ d.arguments = [] ∧ d.options = []

/-- A number of arguments that is too small, or too great for a command that does not put up with
it. Minus one is no greatest number. -/
def Misses (least greatest : Int) (tolerant : Bool) (count : Nat) : Prop :=
  count < least ∨ greatest ≠ -1 ∧ greatest < count ∧ tolerant = false

theorem misses_iff (h : command.arity.Given least greatest) :
    Misses least greatest command.tolerant count ↔ ¬ Takes command count := by
  obtain ⟨rfl, ⟨rfl, hnone⟩ | ⟨hle, hsome⟩⟩ := h
  · simp [Misses, Takes, hnone]
  · have hbound : greatest ≠ -1 := by omega
    have hmany : ¬ count ≤ greatest.toNat ↔ greatest < count := by omega
    simp [Misses, Takes, hsome, hbound, ← hmany, imp_iff_not_or]

/-- The option that asks for help is not on the line. -/
def Line.Operands.Helpless (d : Operands) : Prop :=
  ∀ t ∈ d.options, normalize (String.ofList t.token.name) ≠ "help"

theorem find?_of_helpless (h : d.Helpless) : (d.optionMap bindings).find? "help" = none := by
  rw [Operands.optionMap, NameMap.find?_insertAll, NameMap.lastUnder, Option.map_eq_none_iff,
    List.find?_eq_none]
  intro entry hmem
  obtain ⟨t, ht, rfl⟩ := List.mem_map.mp (List.mem_reverse.mp hmem)
  have hlower : normalize "help" = "help" := by decide +kernel
  simpa [OptionLexeme.entry, hlower] using h t ht

theorem bare_iff_givenNothing (h : d.Helpless) (harity : command.arity.Given least greatest) :
    Bare command bindings d ↔ GivenNothing least d := by
  have hkept : d.kept bindings = d.optionMap bindings :=
    NameMap.erase_of_find?_none (find?_of_helpless h)
  have hkeys : (d.kept bindings).entries = [] ↔ d.options = [] := by
    rw [hkept]
    constructor
    · intro hnone
      have hnames : (d.optionMap bindings).keys = [] := by
        rw [NameMap.keys, hnone, List.map_nil]
      rw [Operands.optionMap, NameMap.keys_insertAll] at hnames
      cases hoptions : d.options with
      | nil => rfl
      | cons t ts => simp [Operands.entries, hoptions, List.eraseDups_cons] at hnames
    · intro hnone
      simp [Operands.optionMap, Operands.entries, hnone, NameMap.insertAll, NameMap.empty]
  rw [Bare, GivenNothing, hkeys, ← harity.lower, Int.natCast_pos]

/-- The messages are warnings about the arguments beyond a greatest number: one for each of them, in
their order, that names the argument and its position. -/
structure WarnsExtras (most : Nat) (arguments : List String) (ms : List Message) : Prop where
  length : ms.length = arguments.length - most
  each : ∀ k m, ms[k]? = some m → m.severity = .warning ∧ m.code = some .extraArgument ∧
    ∃ a, arguments[most + k]? = some a ∧
      m.text = s!"Extra argument '{a}' at position {most + k}."

theorem warnsExtras_warnings {a : Arity} {most : Nat} (h : a.greatest = some most)
    (arguments : List String) : WarnsExtras most arguments (a.warnings arguments) := by
  rw [Arity.warnings, Arity.extras, h]
  constructor
  · simp
  · intro k m hm
    rw [List.getElem?_map, List.getElem?_drop, List.getElem?_zipIdx, Option.map_map,
      Option.map_eq_some_iff] at hm
    obtain ⟨argument, hargument, rfl⟩ := hm
    refine ⟨rfl, rfl, argument, hargument, ?_⟩
    simp [Fault.extraArgument, Fault.entry, Fault.text, Fault.ofCode]

theorem Arity.Given.warnings {a : Arity} (h : a.Given least greatest) (arguments : List String) :
    (greatest = -1 → a.warnings arguments = []) ∧
      (greatest ≠ -1 → WarnsExtras greatest.toNat arguments (a.warnings arguments)) := by
  obtain ⟨rfl, ⟨hall, hnone⟩ | ⟨hle, hmost⟩⟩ := h
  · refine ⟨fun _ => ?_, fun hbounded => absurd hall hbounded⟩
    rw [Arity.warnings, Arity.extras, hnone]
    rfl
  · refine ⟨fun hall => ?_, fun _ => warnsExtras_warnings hmost arguments⟩
    omega

/-- Once the rest of a line has been read for a command and no help was asked for, the number of
arguments decides. If the command needs some and is given nothing at all, its extended help is
logged. Otherwise, if it does not take that many, one error is logged; the bound that this states was
missed, and the command takes a number within it. Otherwise the command runs once and finds all
arguments, and before it runs there is one warning for each argument beyond its greatest number, if
it has one, whatever counts as an error. -/
theorem arity_decides {o : CommandOptions} {handler : Handler} {handlerName : String}
    {doc : Option String} (hmake : o.make label handler handlerName doc = .ok command)
    (hplain : command.handler.isIntercepting = false) (hselect : s.Selects line command text)
    (hcut : d.Cut text) (hbound : d.Bound s.context.bindings) (hhelp : d.Helpless) :
    ∃ (least greatest : Int) (verdict : Verdict) (t : Shell),
      o.least = .int least ∧ o.greatest = .int greatest ∧ s.gate line = (verdict, t) ∧
      s.dispatch line = (!(Shell.enact Shell.reenter (verdict, t)).context.hasErrors,
        Shell.enact Shell.reenter (verdict, t)) ∧
      t.context.journal = t.context.logged.foldl Journal.write s.context.journal ∧
      (GivenNothing least d →
        verdict = .stop ∧ t.context.logged = [{ text := command.extendedText }]) ∧
      (¬ GivenNothing least d → Misses least greatest command.tolerant d.arguments.length →
        verdict = .stop ∧ ∃ m, t.context.logged = [m] ∧ m.severity = .error ∧
          m.code = some .arityMismatch ∧ ∃ b : ArityBound,
            m.text = b.complaint command d.arguments.length ∧ ¬ b.Allows d.arguments.length ∧
            ∃ n, ¬ Misses least greatest command.tolerant n ∧ b.Allows n) ∧
      (¬ GivenNothing least d → ¬ Misses least greatest command.tolerant d.arguments.length →
        verdict = .call command ∧ t.context.arguments = d.texts s.context.bindings ∧
        (greatest = -1 → t.context.logged = []) ∧
        (greatest ≠ -1 →
          WarnsExtras greatest.toNat (d.texts s.context.bindings) t.context.logged)) := by
  obtain ⟨least, greatest, hleast, hgreatest, harity⟩ := arity_of_make hmake
  obtain ⟨name, hname, hnamed, hfind⟩ := hselect
  have hdeclined : HelpDeclined (d.optionMap s.context.bindings) := .inl (find?_of_helpless hhelp)
  have hbare : Bare command s.context.bindings d ↔ GivenNothing least d :=
    bare_iff_givenNothing hhelp harity
  have hmisses : ∀ n, Misses least greatest command.tolerant n ↔ ¬ Takes command n :=
    fun _ => misses_iff harity
  refine ⟨least, greatest, (s.gate line).1, (s.gate line).2, hleast, hgreatest, rfl,
    dispatch_eq s line, ?_⟩
  by_cases hnothing : GivenNothing least d
  · have hgate := gate_of_examine hname hnamed hfind hplain
      (examine_of_bare rfl (pastName_rest hname) ⟨rfl, rfl⟩ rfl hcut hbound hdeclined
        (hbare.mpr hnothing))
    rw [hgate]
    exact ⟨rfl, fun _ => ⟨rfl, rfl⟩, fun h => absurd hnothing h, fun h => absurd hnothing h⟩
  · have hsupplied := mt hbare.mp hnothing
    by_cases hmiss : Misses least greatest command.tolerant d.arguments.length
    · have hcount := (hmisses _).mp hmiss
      have hgate := gate_of_examine hname hnamed hfind hplain
        (examine_of_miscounted rfl (pastName_rest hname) ⟨rfl, rfl⟩ rfl hcut hbound hdeclined
          hsupplied hcount)
      obtain ⟨b, htext, hmissed, n, htakes, hallowed⟩ := wrongArity_states hcount
      rw [hgate]
      refine ⟨rfl, fun h => absurd h hnothing, fun _ _ => ⟨rfl, _, rfl, rfl, rfl, b, htext, hmissed,
        n, ?_, hallowed⟩, fun _ h => absurd hmiss h⟩
      exact fun h => (hmisses n).mp h htakes
    · have hcount : Takes command d.arguments.length :=
        not_not.mp (mt (hmisses _).mpr hmiss)
      obtain ⟨c, hgate, hsilent, hargs⟩ := gate_call_of_suits hname hnamed hfind hplain hcut
        ⟨hbound, hdeclined, hsupplied, hcount⟩
      have hlogged : (c.warnExtras command.arity).logged =
          command.arity.warnings (d.texts s.context.bindings) := by
        rw [warnExtras_eq, foldl_write_logged, hsilent.logged, hargs, List.nil_append]
      have hjournal : (c.warnExtras command.arity).journal =
          (c.warnExtras command.arity).logged.foldl Journal.write s.context.journal := by
        rw [hlogged, warnExtras_eq, foldl_write_journal, hargs, hsilent.journal]
      rw [hgate]
      refine ⟨hjournal, fun h => absurd h hnothing, fun _ h => absurd h hmiss, fun _ _ => ?_⟩
      obtain ⟨hunlimited, hlimited⟩ := harity.warnings (d.texts s.context.bindings)
      refine ⟨rfl, ?_, fun h => hlogged.trans (hunlimited h), fun h => hlogged ▸ hlimited h⟩
      exact (warnExtras_keeps Context.arguments (fun _ _ => rfl) c _).trans hargs

/-- A tolerant command that takes at most one argument runs with all of three, after two
warnings. -/
theorem arity_decides_tolerant : ∃ (command : Command) (s t : Shell),
    CommandOptions.make { name := .text "loose", greatest := .int 1, tolerant := .bool true }
        "Command" (.plain "run" .done) "run" none = .ok command ∧
      Shell.standard.register command = .ok s ∧
      s.gate (printLine "loose" ["a", "b", "c"] []) = (.call command, t) ∧
      t.context.arguments = ["a", "b", "c"] ∧ WarnsExtras 1 ["a", "b", "c"] t.context.logged := by
  obtain ⟨command, s, hmake, hregister, hplain, htolerant, hfind⟩ :
      ∃ (command : Command) (s : Shell),
        CommandOptions.make { name := .text "loose", greatest := .int 1, tolerant := .bool true }
          "Command" (.plain "run" .done) "run" none = .ok command ∧
        Shell.standard.register command = .ok s ∧ command.handler.isIntercepting = false ∧
        command.tolerant = true ∧ s.find? "loose" = some command :=
    ⟨_, _, rfl, rfl, rfl, rfl, rfl⟩
  have hprintable : Printable "loose" ["a", "b", "c"] [] := by decide
  obtain ⟨text, hselect, hcut⟩ := selects_printLine hprintable hfind
  obtain ⟨least, greatest, verdict, t, hleast, hgreatest, hgate, _, _, _, _, hruns⟩ :=
    arity_decides hmake hplain hselect hcut (bound_segmentsOf hprintable).2 (by nofun)
  obtain rfl : 0 = least := Value.int.inj hleast
  obtain rfl : 1 = greatest := Value.int.inj hgreatest
  have hsupplied : ¬ GivenNothing 0 (segmentsOf "loose" ["a", "b", "c"] []).operands :=
    fun h => absurd h.1 (by decide)
  have htaken : ¬ Misses 0 1 command.tolerant
      (segmentsOf "loose" ["a", "b", "c"] []).operands.arguments.length := by
    rintro (hfew | ⟨_, _, hstrict⟩)
    · exact absurd hfew (by decide)
    · rw [htolerant] at hstrict
      cases hstrict
  obtain ⟨rfl, hargs, _, hwarns⟩ := hruns hsupplied htaken
  rw [texts_segmentsOf hprintable] at hargs hwarns
  exact ⟨command, s, t, hmake, hregister, hgate, hargs, hwarns (by decide)⟩

end LineShell
