import LineShell.Proofs.Context.Logging
import LineShell.Proofs.Context.Reading

/-! The examination of a line whose command name has been read. It ends at the first thing that is
wrong with the operands, or it passes with all of them read. -/
namespace LineShell

open LineShell.Line LineShell.Text

variable {c : Context} {s t : Scanner} {text : List Char} {command : Command} {f : Fault}
  {d : Operands}

/-- The options of the operands: of a name that comes again the last value counts. -/
def Line.Operands.optionMap (d : Operands) (bindings : NameMap String) : NameMap (Option String) :=
  NameMap.empty.insertAll (d.entries bindings)

/-- The options without the one that asks for help. -/
def Line.Operands.kept (d : Operands) (bindings : NameMap String) : NameMap (Option String) :=
  (d.optionMap bindings).erase "help"

/-- Help is asked for: by a flag, or by an option that says yes. -/
def HelpAsked (options : NameMap (Option String)) : Prop :=
  options.find? "help" = some none ∨
    ∃ value, options.find? "help" = some (some value) ∧ normalize value = "true"

/-- Help is not asked for: there is no such option, or it says no. -/
def HelpDeclined (options : NameMap (Option String)) : Prop :=
  options.find? "help" = none ∨
    ∃ value, options.find? "help" = some (some value) ∧ normalize value = "false"

/-- What a text that cannot be read is refused with. -/
inductive ReadingFault : Fault → Prop
  | malformed (rest advice : String) : ReadingFault (.malformed rest advice)
  | unbound (name : String) : ReadingFault (.unboundReference name)

theorem ReadingFault.severity (h : ReadingFault f) : f.kind.severity = .error := by
  cases h <;> rfl

theorem readArguments_unbound {name : String}
    (h : (scanOperands c.bindings s).1.unbound = some name) : c.readArguments s =
      (false, (c.argued (scanOperands c.bindings s).1).trigger (.unboundReference name)) := by
  dsimp only [scanOperands] at h
  simp only [Context.readArguments, h]
  rfl

theorem readOptions_unbound {name : String}
    (h : (scanOperands c.bindings s).2.unbound = some name) :
    (c.argued (scanOperands c.bindings s).1).readOptions (scanOperands c.bindings s).1.scanner =
      (false, (c.filled (scanOperands c.bindings s)).trigger (.unboundReference name)) := by
  dsimp only [scanOperands] at h
  simp only [Context.readOptions, Context.argued, scanOperands, h]
  rfl

theorem readOptions_left (h : (scanOperands c.bindings s).2.unbound = none)
    (hleft : (scanOperands c.bindings s).2.scanner.isEmpty = false) :
    (c.argued (scanOperands c.bindings s).1).readOptions (scanOperands c.bindings s).1.scanner =
      (false, (c.filled (scanOperands c.bindings s)).trigger
        (.malformed (scanOperands c.bindings s).2.scanner.remaining Context.optionAdvice)) := by
  dsimp only [scanOperands] at h hleft
  simp only [Context.readOptions, Context.argued, scanOperands, h, hleft]
  rfl

/-- The readings of arguments and of options: either both go to their ends, or the first that does
not logs one fault. -/
theorem readOperands_cases (c : Context) (s : Scanner) :
    ScansAll (scanOperands c.bindings s) ∨
    ¬ ScansAll (scanOperands c.bindings s) ∧ ∃ f, ReadingFault f ∧
      (c.readArguments s = (false, (c.argued (scanOperands c.bindings s).1).trigger f) ∨
      (scanOperands c.bindings s).1.unbound = none ∧
        (c.argued (scanOperands c.bindings s).1).readOptions (scanOperands c.bindings s).1.scanner =
          (false, (c.filled (scanOperands c.bindings s)).trigger f)) := by
  cases hu : (scanOperands c.bindings s).1.unbound with
  | some name =>
    have hnot : ¬ ScansAll (scanOperands c.bindings s) := fun h => by simp [ScansAll, hu] at h
    exact .inr ⟨hnot, _, .unbound name, .inl (readArguments_unbound hu)⟩
  | none =>
    cases hv : (scanOperands c.bindings s).2.unbound with
    | some name =>
      have hnot : ¬ ScansAll (scanOperands c.bindings s) := fun h => by simp [ScansAll, hv] at h
      exact .inr ⟨hnot, _, .unbound name, .inr ⟨rfl, readOptions_unbound hv⟩⟩
    | none =>
      cases hempty : (scanOperands c.bindings s).2.scanner.isEmpty with
      | true => exact .inl ⟨hu, hv, hempty⟩
      | false =>
        have hnot : ¬ ScansAll (scanOperands c.bindings s) :=
          fun h => by simp [ScansAll, hempty] at h
        exact .inr ⟨hnot, _, .malformed _ _, .inr ⟨rfl, readOptions_left hv hempty⟩⟩

/-- The value of the option that asks for help, if it can be told, and the context in which the
option has been consumed. -/
inductive HelpReading (c : Context) : Bool × Context → Prop
  | declined (h : HelpDeclined c.options) :
      HelpReading c (false, { c with options := c.options.erase "help" })
  | asked (h : HelpAsked c.options) :
      HelpReading c (true, { c with options := c.options.erase "help" })
  | misread {value : String} (h : c.options.find? "help" = some (some value))
      (hyes : normalize value ≠ "true") (hno : normalize value ≠ "false") (problem : String) :
      HelpReading c (false,
        { c with options := c.options.erase "help" }.trigger (.flagMismatch "help" problem))

theorem readRaw_boolean (raw : String) :
    Context.readRaw (some .boolean) raw =
      if normalize raw = "true" then .ok (.bool true, none)
      else if normalize raw = "false" then .ok (.bool false, none)
      else .ok (.bool false, some s!"Expected input compatible with type bool, got '{raw}'.") := by
  by_cases hyes : normalize raw = "true"
  · simp [Context.readRaw, Parser.run, Parser.boolean, Parser.vocabulary, Parser.withText, hyes,
      Summary.isError, Summary.success, Except.map]
  · by_cases hno : normalize raw = "false"
    · simp [Context.readRaw, Parser.run, Parser.boolean, Parser.vocabulary, Parser.withText, hno,
        Summary.isError, Summary.success, Except.map]
    · simp [Context.readRaw, Parser.run, Parser.boolean, Parser.vocabulary, Parser.withText, hyes,
        hno, Summary.isError, Summary.mismatch, Except.map, bind, Except.bind, pure, Except.pure]
      rfl

theorem helpReading (c : Context) : HelpReading c c.asksHelp := by
  unfold Context.asksHelp Context.takeFlag NameMap.take?
  cases hhelp : c.options.find? "help" with
  | none =>
    have hdeclined := HelpReading.declined (.inl hhelp)
    rw [NameMap.erase_of_find?_none hhelp] at hdeclined
    exact hdeclined
  | some value =>
    cases value with
    | none => exact .asked (.inl hhelp)
    | some raw =>
      simp only [Option.map_some, readRaw_boolean]
      by_cases hyes : normalize raw = "true"
      · simp only [hyes, if_true]
        exact .asked (.inr ⟨raw, hhelp, hyes⟩)
      · by_cases hno : normalize raw = "false"
        · simp only [hno]
          exact .declined (.inr ⟨raw, hhelp, hno⟩)
        · simp only [hyes, hno, if_false]
          exact .misread hhelp hyes hno _

/-- A command that needs arguments is given neither these nor options. -/
def Bare (command : Command) (bindings : NameMap String) (d : Operands) : Prop :=
  0 < command.arity.least ∧ d.arguments = [] ∧ (d.kept bindings).entries = []

/-- A command takes a number of arguments. -/
def Takes (command : Command) (count : Nat) : Prop :=
  command.arity.least ≤ count ∧
    ((∀ greatest ∈ command.arity.greatest, count ≤ greatest) ∨ command.tolerant = true)

/-- Operands with which a command runs. -/
structure Suits (command : Command) (bindings : NameMap String) (d : Operands) : Prop where
  bound : d.Bound bindings
  declined : HelpDeclined (d.optionMap bindings)
  supplied : ¬ Bare command bindings d
  counted : Takes command d.arguments.length

/-- What is logged where a command does not run on a text. -/
inductive Refusal (command : Command) (bindings : NameMap String) (text : List Char) :
    Message → Prop
  | unread {f : Fault} (hf : ReadingFault f)
      (h : ∀ d : Operands, d.Cut text → ¬ d.Bound bindings) :
      Refusal command bindings text f.entry
  | misread {d : Operands} {value : String} (hcut : d.Cut text) (hbound : d.Bound bindings)
      (h : (d.optionMap bindings).find? "help" = some (some value))
      (hyes : normalize value ≠ "true") (hno : normalize value ≠ "false") (problem : String) :
      Refusal command bindings text (Fault.flagMismatch "help" problem).entry
  | helped {d : Operands} (hcut : d.Cut text) (hbound : d.Bound bindings)
      (h : HelpAsked (d.optionMap bindings)) :
      Refusal command bindings text { text := command.extendedText }
  | bare {d : Operands} (hcut : d.Cut text) (hbound : d.Bound bindings)
      (hdeclined : HelpDeclined (d.optionMap bindings)) (h : Bare command bindings d) :
      Refusal command bindings text { text := command.extendedText }
  | miscounted {d : Operands} (hcut : d.Cut text) (hbound : d.Bound bindings)
      (hdeclined : HelpDeclined (d.optionMap bindings)) (hsupplied : ¬ Bare command bindings d)
      (h : ¬ Takes command d.arguments.length) :
      Refusal command bindings text (Fault.wrongArity command d.arguments.length).entry

/-- The context with other operands. -/
def Context.holding (c : Context) (s : Scanner) (arguments : List String)
    (options : NameMap (Option String)) : Context :=
  { c with scanner := some s, arguments, options }

/-- The context with its operands read and the request for help taken out. -/
def Context.taking (c : Context) (s : Scanner) (d : Operands) : Context :=
  c.holding s (d.texts c.bindings) (d.kept c.bindings)

/-- How an examination ends: with one message, or with all operands that a command is to see. -/
inductive Examination (c : Context) (command : Command) (text : List Char) :
    Verdict × Context → Prop
  | stop {m : Message} (h : Refusal command c.bindings text m) (s : Scanner)
      (arguments : List String) (options : NameMap (Option String)) :
      Examination c command text (.stop, (c.holding s arguments options).write m)
  | pass {d : Operands} (hcut : d.Cut text) (h : Suits command c.bindings d) (s : Scanner) :
      Examination c command text (.call command, (c.taking s d).warnExtras command.arity)

theorem bare_iff {bindings : NameMap String} : Bare command bindings d ↔
    (0 < command.arity.least && (d.texts bindings).isEmpty && (d.kept bindings).entries.isEmpty) =
      true := by
  simp [Bare, Operands.texts, and_assoc]

theorem takes_iff {count : Nat} : Takes command count ↔
    ¬ (!command.arity.enough count || (!command.arity.within count && !command.tolerant)) =
      true := by
  cases htolerant : command.tolerant <;> cases hmost : command.arity.greatest <;>
    simp [Takes, Arity.enough, Arity.within, htolerant, hmost]

theorem weigh_of_suits (hsupplied : ¬ Bare command c.bindings d)
    (hcount : Takes command d.arguments.length) (s : Scanner) :
    (c.taking s d).weigh command = (.call command, (c.taking s d).warnExtras command.arity) := by
  have hlength : (d.texts c.bindings).length = d.arguments.length := by
    simp [Operands.texts]
  unfold Context.weigh Context.taking Context.holding
  simp only [hlength]
  rw [if_neg fun h => hsupplied (bare_iff.mpr h), if_neg (takes_iff.mp hcount)]

theorem weigh_of_bare (h : Bare command c.bindings d) (s : Scanner) :
    (c.taking s d).weigh command = (.stop, (c.taking s d).logText command.extendedText) := by
  unfold Context.weigh Context.taking Context.holding
  exact if_pos (bare_iff.mp h)

theorem weigh_of_miscounted (hsupplied : ¬ Bare command c.bindings d)
    (hcount : ¬ Takes command d.arguments.length) (s : Scanner) :
    (c.taking s d).weigh command =
      (.stop, (c.taking s d).trigger (.wrongArity command d.arguments.length)) := by
  have hlength : (d.texts c.bindings).length = d.arguments.length := by
    simp [Operands.texts]
  unfold Context.weigh Context.taking Context.holding
  simp only [hlength]
  rw [if_neg fun h => hsupplied (bare_iff.mpr h),
    if_pos (Decidable.not_not.mp fun h => hcount (takes_iff.mpr h))]

/-- Where a text has been read to its end, the number of arguments decides. -/
theorem weigh_examination (hcut : d.Cut text) (hbound : d.Bound c.bindings)
    (hdeclined : HelpDeclined (d.optionMap c.bindings)) (s : Scanner) :
    Examination c command text ((c.taking s d).weigh command) := by
  by_cases hbare : Bare command c.bindings d
  · rw [weigh_of_bare hbare]
    exact .stop (.bare hcut hbound hdeclined hbare) s (d.texts c.bindings) (d.kept c.bindings)
  · by_cases hcount : Takes command d.arguments.length
    · rw [weigh_of_suits hbare hcount]
      exact .pass hcut ⟨hbound, hdeclined, hbare, hcount⟩ s
    · rw [weigh_of_miscounted hbare hcount]
      exact .stop (.miscounted hcut hbound hdeclined hbare hcount) s (d.texts c.bindings)
        (d.kept c.bindings)

theorem not_declined_of_asked {options : NameMap (Option String)} (h : HelpAsked options) :
    ¬ HelpDeclined options := by
  intro hdeclined
  rcases h with hflag | ⟨value, hvalue, hyes⟩ <;>
    rcases hdeclined with hnone | ⟨value', hvalue', hno⟩ <;> simp_all

theorem not_declined_of_misread {options : NameMap (Option String)} {value : String}
    (h : options.find? "help" = some (some value)) (hno : normalize value ≠ "false") :
    ¬ HelpDeclined options := by
  intro hdeclined
  rcases hdeclined with hnone | ⟨value', hvalue', hno'⟩ <;> simp_all

theorem asksHelp_of_declined (h : HelpDeclined c.options) :
    c.asksHelp = (false, { c with options := c.options.erase "help" }) := by
  have hreading := helpReading c
  generalize c.asksHelp = n at hreading ⊢
  cases hreading with
  | declined => rfl
  | asked hasked => exact absurd h (not_declined_of_asked hasked)
  | misread hvalue _ hno => exact absurd h (not_declined_of_misread hvalue hno)

/-- What is decided on a line once all of it has been read. -/
def Context.settled (c : Context) (command : Command) : Verdict × Context :=
  if c.asksHelp.1 then (.stop, c.asksHelp.2.logText command.extendedText)
  else if c.asksHelp.2.hasErrors then (.stop, c.asksHelp.2)
  else c.asksHelp.2.weigh command

/-- The phases of an examination: the arguments, the options, and what is decided on them. -/
theorem examine_phases (hs : c.scanner = some s) : c.examine command =
    let argued := (c.readArguments s).2
    let closed := (argued.readOptions (scanOperands c.bindings s).1.scanner).2
    if argued.hasErrors then (.stop, argued)
    else if closed.hasErrors then (.stop, closed)
    else closed.settled command := by
  unfold Context.examine Context.settled
  simp only [hs, readArguments_scanner]

/-- Without a line there is nothing to read. -/
theorem examine_idle (hs : c.scanner = none) : c.examine command =
    if c.hasErrors then (.stop, c) else c.settled command := by
  unfold Context.examine Context.settled
  simp only [hs]
  split
  · rfl
  · rfl

theorem settled_of_declined (hdeclined : HelpDeclined (d.optionMap c.bindings))
    (hclean : c.hasErrors = false) (s : Scanner) :
    (c.holding s (d.texts c.bindings) (d.optionMap c.bindings)).settled command =
      (c.taking s d).weigh command := by
  have hstill : (c.taking s d).hasErrors = false := hclean
  rw [Context.settled, asksHelp_of_declined hdeclined, if_neg Bool.false_ne_true]
  exact if_neg (Bool.eq_false_iff.mp hstill)

theorem settled_examination (hcut : d.Cut text) (hbound : d.Bound c.bindings)
    (hclean : c.hasErrors = false) (herror : .error ∈ c.errorSeverities) (s : Scanner) :
    Examination c command text
      ((c.holding s (d.texts c.bindings) (d.optionMap c.bindings)).settled command) := by
  have hreading := helpReading (c.holding s (d.texts c.bindings) (d.optionMap c.bindings))
  generalize hn : (c.holding s (d.texts c.bindings) (d.optionMap c.bindings)).asksHelp = n
    at hreading
  cases hreading with
  | declined hdeclined =>
    rw [settled_of_declined hdeclined hclean]
    exact weigh_examination hcut hbound hdeclined s
  | asked hasked =>
    rw [Context.settled, hn]
    exact .stop (.helped hcut hbound hasked) s (d.texts c.bindings) (d.kept c.bindings)
  | misread hvalue hyes hno problem =>
    have hstop := hasErrors_trigger (c := c.taking s d) (f := .flagMismatch "help" problem) rfl
      herror
    rw [Context.settled, hn, if_neg Bool.false_ne_true]
    refine (if_pos hstop).symm ▸ ?_
    exact .stop (.misread hcut hbound hvalue hyes hno problem) s (d.texts c.bindings)
      (d.kept c.bindings)

theorem examine_argued {u : Scanner} (hu : c.scanner = some u) (hclean : c.hasErrors = false)
    (hargued : (scanOperands c.bindings u).1.unbound = none) {e : Bool × Context}
    (he : (c.argued (scanOperands c.bindings u).1).readOptions (scanOperands c.bindings u).1.scanner
      = e) :
    c.examine command = if e.2.hasErrors then (.stop, e.2) else e.2.settled command := by
  have hstill : (c.argued (scanOperands c.bindings u).1).hasErrors = false := hclean
  rw [examine_phases hu, readArguments_bound hargued]
  dsimp only
  rw [if_neg (Bool.eq_false_iff.mp hstill), he]

section Examine

variable {u : Scanner} (hu : c.scanner = some u) (hrest : u.rest = text.dropWhile isBlank)
  (hnew : c.arguments = [] ∧ c.options = .empty) (hclean : c.hasErrors = false)

include hrest hnew in
theorem filled_of_cut (hcut : d.Cut text) (hbound : d.Bound c.bindings) :
    c.filled (scanOperands c.bindings u) = c.holding (scanOperands c.bindings u).2.scanner
      (d.texts c.bindings) (d.optionMap c.bindings) := by
  obtain ⟨_, htexts, hentries⟩ := scanOperands_of_cut hrest hcut hbound
  simp only [Context.filled, Context.holding, hnew.1, hnew.2, htexts, hentries]
  rfl

include hu hrest hnew hclean

theorem examine_of_bound (hcut : d.Cut text) (hbound : d.Bound c.bindings) : c.examine command =
    (c.holding (scanOperands c.bindings u).2.scanner (d.texts c.bindings)
      (d.optionMap c.bindings)).settled command := by
  obtain ⟨hall, _⟩ := scanOperands_of_cut hrest hcut hbound
  have hstill : (c.filled (scanOperands c.bindings u)).hasErrors = false := hclean
  rw [examine_argued hu hclean hall.1 (readOptions_all hall), ← filled_of_cut hrest hnew hcut hbound]
  exact if_neg (Bool.eq_false_iff.mp hstill)

/-- Operands that suit a command let it run, whatever counts as an error. -/
theorem examine_of_suits (hcut : d.Cut text) (h : Suits command c.bindings d) :
    c.examine command = (.call command,
      (c.taking (scanOperands c.bindings u).2.scanner d).warnExtras command.arity) := by
  rw [examine_of_bound hu hrest hnew hclean hcut h.bound, settled_of_declined h.declined hclean,
    weigh_of_suits h.supplied h.counted]

/-- A command that needs arguments and is given nothing shows its usage, whatever counts as an
error. -/
theorem examine_of_bare (hcut : d.Cut text) (hbound : d.Bound c.bindings)
    (hdeclined : HelpDeclined (d.optionMap c.bindings)) (h : Bare command c.bindings d) :
    c.examine command = (.stop,
      (c.taking (scanOperands c.bindings u).2.scanner d).logText command.extendedText) := by
  rw [examine_of_bound hu hrest hnew hclean hcut hbound, settled_of_declined hdeclined hclean,
    weigh_of_bare h]

/-- A command that does not take the number of arguments it is given says so, whatever counts as an
error. -/
theorem examine_of_miscounted (hcut : d.Cut text) (hbound : d.Bound c.bindings)
    (hdeclined : HelpDeclined (d.optionMap c.bindings)) (hsupplied : ¬ Bare command c.bindings d)
    (hcount : ¬ Takes command d.arguments.length) :
    c.examine command = (.stop, (c.taking (scanOperands c.bindings u).2.scanner d).trigger
      (.wrongArity command d.arguments.length)) := by
  rw [examine_of_bound hu hrest hnew hclean hcut hbound, settled_of_declined hdeclined hclean,
    weigh_of_miscounted hsupplied hcount]

theorem examination (herror : .error ∈ c.errorSeverities) :
    Examination c command text (c.examine command) := by
  rcases readOperands_cases c u with hall | ⟨hnot, f, hf, hfail⟩
  · obtain ⟨d, hcut, hbound⟩ := cut_of_scanOperands hrest hall
    rw [examine_of_bound hu hrest hnew hclean hcut hbound]
    exact settled_examination hcut hbound hclean herror _
  · have hnone : ∀ d : Operands, d.Cut text → ¬ d.Bound c.bindings :=
      fun d hcut hbound => hnot (scanOperands_of_cut hrest hcut hbound).1
    rcases hfail with hfail | ⟨hu', hfail⟩
    · have hstop := hasErrors_trigger (c := c.argued (scanOperands c.bindings u).1) hf.severity
        herror
      rw [examine_phases hu, hfail]
      dsimp only
      rw [if_pos hstop]
      exact .stop (.unread hf hnone) _ _ _
    · have hstop := hasErrors_trigger (c := c.filled (scanOperands c.bindings u)) hf.severity herror
      rw [examine_argued hu hclean hu' hfail, if_pos hstop]
      exact .stop (.unread hf hnone) _ _ _

end Examine

/-- A command does not run on a text for which it was refused. -/
theorem Refusal.not_suits {bindings : NameMap String} {m : Message}
    (h : Refusal command bindings text m) (hcut : d.Cut text) : ¬ Suits command bindings d := by
  intro hsuits
  cases h with
  | unread _ hnone => exact hnone d hcut hsuits.bound
  | misread hcut' _ hvalue _ hno _ =>
    obtain rfl := hcut.unique hcut'
    exact not_declined_of_misread hvalue hno hsuits.declined
  | helped hcut' _ hasked =>
    obtain rfl := hcut.unique hcut'
    exact not_declined_of_asked hasked hsuits.declined
  | bare hcut' _ _ hbare =>
    obtain rfl := hcut.unique hcut'
    exact hsuits.supplied hbare
  | miscounted hcut' _ _ _ hcount =>
    obtain rfl := hcut.unique hcut'
    exact hcount hsuits.counted

theorem Refusal.severity {bindings : NameMap String} {m : Message}
    (h : Refusal command bindings text m) :
    m.severity = .error ∨ m = { text := command.extendedText } := by
  cases h with
  | unread hf _ => exact .inl hf.severity
  | misread => exact .inl rfl
  | helped => exact .inr rfl
  | bare => exact .inr rfl
  | miscounted => exact .inl rfl

/-- A part of a context that neither messages nor the reading of operands change. -/
structure Framed {α : Type} (f : Context → α) : Prop where
  write : ∀ c m, f (Context.write c m) = f c
  read : ∀ (c : Context) (u : Option Scanner) (arguments : List String)
    (options : NameMap (Option String)), f { c with scanner := u, arguments, options } = f c

namespace Framed

variable {α : Type} {f : Context → α} (hf : Framed f)

include hf

theorem readArguments (c : Context) (u : Scanner) : f (c.readArguments u).2 = f c := by
  unfold Context.readArguments
  dsimp only
  split
  · exact hf.read c _ _ c.options
  · exact (hf.write _ _).trans (hf.read c _ _ c.options)

theorem readOptions (c : Context) (u : Scanner) : f (c.readOptions u).2 = f c := by
  unfold Context.readOptions
  dsimp only
  split
  · exact (hf.write _ _).trans (hf.read c _ c.arguments _)
  · split
    · exact hf.read c _ c.arguments _
    · exact (hf.write _ _).trans (hf.read c _ c.arguments _)

theorem asksHelp (c : Context) : f c.asksHelp.2 = f c := by
  have hreading := helpReading c
  generalize c.asksHelp = n at hreading ⊢
  cases hreading with
  | declined => exact hf.read c c.scanner c.arguments _
  | asked => exact hf.read c c.scanner c.arguments _
  | misread => exact (hf.write _ _).trans (hf.read c c.scanner c.arguments _)

theorem weigh (c : Context) (command : Command) : f (c.weigh command).2 = f c := by
  unfold Context.weigh
  dsimp only
  split
  · exact hf.write _ _
  · split
    · exact hf.write _ _
    · exact warnExtras_keeps f hf.write c _

theorem settled (c : Context) (command : Command) : f (c.settled command).2 = f c := by
  unfold Context.settled
  split
  · exact (hf.write _ _).trans (hf.asksHelp c)
  · split
    · exact hf.asksHelp c
    · exact (hf.weigh _ command).trans (hf.asksHelp c)

theorem examine (c : Context) (command : Command) : f (c.examine command).2 = f c := by
  cases hu : c.scanner with
  | none =>
    rw [examine_idle hu]
    split
    · rfl
    · exact hf.settled c command
  | some u =>
    rw [examine_phases hu]
    dsimp only
    split
    · exact hf.readArguments c u
    · split
      · exact (hf.readOptions _ _).trans (hf.readArguments c u)
      · exact (hf.settled _ command).trans ((hf.readOptions _ _).trans (hf.readArguments c u))

end Framed

theorem framed_bindings : Framed Context.bindings where
  write _ _ := rfl
  read _ _ _ _ := rfl

theorem framed_errorSeverities : Framed Context.errorSeverities where
  write _ _ := rfl
  read _ _ _ _ := rfl

theorem readArguments_arguments (c : Context) (s : Scanner) :
    (c.readArguments s).2.arguments = c.arguments ++ (scanOperands c.bindings s).1.arguments := by
  unfold Context.readArguments
  dsimp only
  split <;> rfl

theorem readOptions_arguments (c : Context) (s : Scanner) :
    (c.readOptions s).2.arguments = c.arguments := by
  unfold Context.readOptions
  dsimp only
  split
  · rfl
  · split <;> rfl

theorem asksHelp_arguments (c : Context) : c.asksHelp.2.arguments = c.arguments := by
  have hreading := helpReading c
  generalize c.asksHelp = n at hreading ⊢
  cases hreading <;> rfl

theorem weigh_call {command' : Command} {e : Context}
    (h : c.weigh command = (.call command', e)) : command' = command ∧
      e.arguments = c.arguments ∧ command.arity.least ≤ c.arguments.length := by
  unfold Context.weigh at h
  dsimp only at h
  split at h
  · cases h
  · split at h
    · cases h
    · next hcount =>
      obtain ⟨hverdict, rfl⟩ := Prod.mk.inj h
      obtain rfl := Verdict.call.inj hverdict
      refine ⟨rfl, warnExtras_keeps Context.arguments (fun _ _ => rfl) c _, ?_⟩
      exact (takes_iff.mpr hcount).1

theorem settled_call {command' : Command} {e : Context}
    (h : c.settled command = (.call command', e)) : command' = command ∧
      e.arguments = c.arguments ∧ command.arity.least ≤ c.arguments.length := by
  unfold Context.settled at h
  split at h
  · cases h
  · split at h
    · cases h
    · rw [← asksHelp_arguments c]
      exact weigh_call h

/-- A command that is let run has been given as many arguments as it needs. -/
theorem examine_call {command' : Command} {e : Context} {u : Scanner} (hu : c.scanner = some u)
    (h : c.examine command = (.call command', e)) : command' = command ∧
      e.arguments = c.arguments ++ (scanOperands c.bindings u).1.arguments ∧
      e.bindings = c.bindings ∧ command.arity.least ≤ e.arguments.length := by
  have hbindings := framed_bindings.examine c command
  rw [h] at hbindings
  rw [examine_phases hu] at h
  dsimp only at h
  split at h
  · cases h
  · split at h
    · cases h
    · obtain ⟨hcommand, hargs, hleast⟩ := settled_call h
      rw [← hargs] at hleast
      refine ⟨hcommand, ?_, hbindings, hleast⟩
      rw [hargs, readOptions_arguments, readArguments_arguments]

end LineShell
