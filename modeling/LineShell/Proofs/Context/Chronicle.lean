import LineShell.Proofs.Context.Access

/-! What operations tell the log. All that an operation does to the log is a list of events, and
these do not depend on what the journal holds or how much it can hold: no operation goes by the
journal. The messages of a line and their severities are kept beside the journal and follow the same
events. -/
namespace LineShell

open LineShell.Line

/-- What may happen to the log, or to what counts as an error: a message of the line is logged; the
severity of one is remembered that has no text; a message is written that is none of the line; the
journal is emptied; a line begins; other severities count as errors. -/
inductive LogEvent
  | logged (m : Message)
  | heeded (severity : Severity)
  | recorded (m : Message)
  | cleared
  | restarted
  | weighed (errors : Severities)

/-- The journal after an event. -/
def LogEvent.onJournal (j : Journal) : LogEvent → Journal
  | logged m | recorded m => j.write m
  | cleared => j.clear
  | heeded _ | restarted | weighed _ => j

/-- The journal after events. -/
def Journal.follow (j : Journal) (es : List LogEvent) : Journal :=
  es.foldl LogEvent.onJournal j

/-- The account of a line that is kept beside the journal: its messages, their severities, and the
severities that count as errors. -/
structure Tally where
  logged : List Message
  severities : Severities
  errors : Severities

/-- The account after an event. -/
def LogEvent.onTally (t : Tally) : LogEvent → Tally
  | logged m =>
    { t with logged := t.logged ++ [m], severities := t.severities.add m.severity }
  | heeded severity => { t with severities := t.severities.add severity }
  | recorded _ | cleared => t
  | restarted => { t with logged := [], severities := [] }
  | weighed errors => { t with errors }

/-- The account after events. -/
def Tally.follow (t : Tally) (es : List LogEvent) : Tally :=
  es.foldl LogEvent.onTally t

/-- A state with a journal that can be exchanged for another one, and an account beside it. -/
class Logging (σ : Type) where
  journal : σ → Journal
  onto : σ → Journal → σ
  tally : σ → Tally
  journal_onto : ∀ s j, journal (onto s j) = j
  onto_journal : ∀ s, onto s (journal s) = s
  onto_onto : ∀ s j j', onto (onto s j) j' = onto s j'
  tally_onto : ∀ s j, tally (onto s j) = tally s

instance : Logging Context where
  journal c := c.journal
  onto c j := { c with journal := j }
  tally c := ⟨c.logged, c.severities, c.errorSeverities⟩
  journal_onto _ _ := rfl
  onto_journal _ := rfl
  onto_onto _ _ _ := rfl
  tally_onto _ _ := rfl

open Logging (onto tally)

section Tells

variable {σ α β : Type} [Logging σ] {K : LogEvent → Prop} {f f' : σ → α × σ} {g : α → σ → β × σ}
  {s t : σ} {a : α} {es : List LogEvent}

/-- What an operation answers and leaves in a state does not depend on the journal there, and all
that it does to the log are events of a kind. -/
def Tells (K : LogEvent → Prop) (f : σ → α × σ) (s : σ) : Prop :=
  ∃ es a t, (∀ e ∈ es, K e) ∧ (∀ j, f (onto s j) = (a, onto t (j.follow es))) ∧
    tally t = (tally s).follow es

theorem Tells.idle (a : α) (t : σ) (h : ∀ j, f (onto s j) = (a, onto t j))
    (ht : tally t = tally s) : Tells K f s :=
  ⟨[], a, t, by simp, h, ht⟩

/-- An operation that first changes the state without a trace in the log. -/
theorem Tells.of_eq (h : Tells K f t) (heq : ∀ j, f' (onto s j) = f (onto t j))
    (ht : tally t = tally s) : Tells K f' s := by
  obtain ⟨es, a, u, hes, hf, hu⟩ := h
  exact ⟨es, a, u, hes, fun j => (heq j).trans (hf j), hu.trans (by rw [ht])⟩

theorem Tells.congr (h : Tells K f s) (heq : ∀ j, f' (onto s j) = f (onto s j)) :
    Tells K f' s :=
  h.of_eq heq rfl

/-- The events of an operation, with what it answers and leaves. -/
theorem Tells.events (h : Tells K f s) : ∃ es, (∀ e ∈ es, K e) ∧
    (∀ j, f (onto s j) = ((f s).1, onto (f s).2 (j.follow es))) ∧
    Logging.journal (f s).2 = (Logging.journal s).follow es ∧
    tally (f s).2 = (tally s).follow es := by
  obtain ⟨es, a, t, hes, hf, ht⟩ := h
  have hs := hf (Logging.journal s)
  rw [Logging.onto_journal] at hs
  refine ⟨es, hes, fun j => ?_, ?_, ?_⟩
  · rw [hf, hs, Logging.onto_onto]
  · rw [hs, Logging.journal_onto]
  · rw [hs, Logging.tally_onto, ht]

/-- One operation and then another one that goes by its answer. -/
theorem Tells.bind (hf : Tells K f s) (hg : Tells K (g (f s).1) (f s).2) :
    Tells K (fun s => g (f s).1 (f s).2) s := by
  obtain ⟨es, hes, hf, _, ht⟩ := hf.events
  obtain ⟨es', b, u, hes', hg, hu⟩ := hg
  refine ⟨es ++ es', b, u, ?_, fun j => ?_, ?_⟩
  · exact List.forall_mem_append.mpr ⟨hes, hes'⟩
  · dsimp only
    rw [hf j, hg, Journal.follow, Journal.follow, Journal.follow, List.foldl_append]
  · rw [hu, ht, Tally.follow, Tally.follow, Tally.follow, List.foldl_append]

/-- An operation and then one that tells the log nothing. -/
theorem Tells.done {b : α → β} (h : Tells K f s) : Tells K (fun s => (b (f s).1, (f s).2)) s :=
  h.bind (g := fun a s => (b a, s)) (.idle _ _ (fun _ => rfl) rfl)

end Tells

section Messages

variable {α : Type} {K : LogEvent → Prop} (hK : ∀ m, K (.logged m)) {f : Context → α × Context}
  {c : Context}

include hK

/-- An operation that logs one message. -/
theorem tells_one (a : α) (d : Context) (m : Message)
    (h : ∀ j, f (onto c j) = (a, (onto d j).write m)) (hd : tally d = tally c) : Tells K f c := by
  refine ⟨[.logged m], a, d.write m, by simpa using hK m, h, ?_⟩
  rw [← hd]
  rfl

theorem tells_write (m : Message) (c : Context) : Tells K (fun c => ((), c.write m)) c :=
  tells_one hK () c m (fun _ => rfl) rfl

theorem tells_writes (ms : List Message) (c : Context) :
    Tells K (fun c => ((), ms.foldl Context.write c)) c := by
  induction ms generalizing c with
  | nil => exact .idle () c (fun _ => rfl) rfl
  | cons m ms ih =>
    exact (tells_write hK m c).bind (g := fun _ c => ((), ms.foldl Context.write c)) (ih _)

theorem tells_warnExtras (arity : Arity) (c : Context) :
    Tells K (fun c => ((), c.warnExtras arity)) c := by
  refine (tells_writes hK (arity.warnings c.arguments) c).congr fun j => ?_
  rw [warnExtras_eq]
  rfl

theorem tells_endParsing (c : Context) : Tells K (fun c => ((), c.endParsing)) c := by
  have hwrites := tells_writes hK
    (c.options.keys.map fun name => (Fault.unknownOption name).entry) c
  refine hwrites.congr fun j => ?_
  simp only [Context.endParsing, List.foldl_map]
  rfl

theorem tells_substitute (token : String) (c : Context) : Tells K (·.substitute token) c := by
  cases hlook : lookUp c.bindings token with
  | ok text =>
    exact .idle (some text) c (fun j => by simp only [Context.substitute, onto, hlook]) rfl
  | error name =>
    refine tells_one hK none c (Fault.unboundReference name).entry (fun j => ?_) rfl
    simp only [Context.substitute, onto, hlook]
    rfl

theorem tells_readName (s : Scanner) (c : Context) : Tells K (·.readName s) c := by
  cases hname : s.name? with
  | none =>
    cases hempty : s.isEmpty with
    | true => exact .idle false c (fun j => by simp only [Context.readName, hname, hempty]; rfl) rfl
    | false =>
      refine tells_one hK false c (Fault.malformed s.remaining "quotes must be closed").entry
        (fun j => ?_) rfl
      simp only [Context.readName, hname, hempty]
      rfl
  | some read =>
    obtain ⟨token, t⟩ := read
    cases hlook : lookUp c.bindings token with
    | ok text =>
      refine .idle true (c.named t.skipBlanks text) (fun j => ?_) rfl
      simp only [Context.readName, Context.substitute, onto, hname, hlook]
      rfl
    | error name =>
      refine tells_one hK false
        { c with scanner := some t.skipBlanks, remainder := t.skipBlanks.remaining }
        (Fault.unboundReference name).entry (fun j => ?_) rfl
      simp only [Context.readName, Context.substitute, onto, hname, hlook]
      rfl

theorem tells_readLine (line : String) (c : Context) :
    Tells K (fun c : Context => (c.setInput line).readName (Scanner.ofLine line).skipBlanks) c :=
  (tells_readName hK _ (c.setInput line)).of_eq (fun _ => rfl) rfl

theorem tells_readArguments (s : Scanner) (c : Context) : Tells K (·.readArguments s) c := by
  cases hunbound : (scanOperands c.bindings s).1.unbound with
  | none =>
    exact .idle true (c.argued (scanOperands c.bindings s).1)
      (fun j => readArguments_bound (c := onto c j) hunbound) rfl
  | some name =>
    exact tells_one hK false (c.argued (scanOperands c.bindings s).1)
      (Fault.unboundReference name).entry
      (fun j => readArguments_unbound (c := onto c j) hunbound) rfl

/-- The context after a scan of options. -/
def Context.opted (c : Context) (scan : OptionScan) : Context :=
  { c with scanner := some scan.scanner, options := c.options.insertAll scan.options }

theorem tells_readOptions (s : Scanner) (c : Context) : Tells K (·.readOptions s) c := by
  cases hunbound : (scanOptions c.bindings s.skipBlanks).unbound with
  | some name =>
    refine tells_one hK false (c.opted (scanOptions c.bindings s.skipBlanks))
      (Fault.unboundReference name).entry (fun j => ?_) rfl
    simp only [Context.readOptions, onto, hunbound]
    rfl
  | none =>
    cases hempty : (scanOptions c.bindings s.skipBlanks).scanner.isEmpty with
    | true =>
      refine .idle true (c.opted (scanOptions c.bindings s.skipBlanks)) (fun j => ?_) rfl
      simp only [Context.readOptions, onto, hunbound, hempty]
      rfl
    | false =>
      refine tells_one hK false (c.opted (scanOptions c.bindings s.skipBlanks))
        (Fault.malformed (scanOptions c.bindings s.skipBlanks).scanner.remaining
          Context.optionAdvice).entry (fun j => ?_) rfl
      simp only [Context.readOptions, onto, hunbound, hempty]
      rfl

theorem tells_argumentAt (index : Nat) (name : String) (p : Option Parser) (c : Context) :
    Tells K (·.argumentAt index name p) c := by
  cases hargument : c.arguments[index]? with
  | none =>
    refine tells_one hK (.ok (Context.standIn p)) c
      (Fault.missingArgument (index + 1) name).entry (fun j => ?_) rfl
    simp only [Context.argumentAt, onto, hargument]
    rfl
  | some raw =>
    cases hread : Context.readRaw p raw with
    | error f =>
      exact .idle (.error f) c
        (fun j => by simp only [Context.argumentAt, onto, hargument, hread]) rfl
    | ok read =>
      obtain ⟨value, _ | problem⟩ := read
      · exact .idle (.ok value) c
          (fun j => by simp only [Context.argumentAt, onto, hargument, hread]) rfl
      · refine tells_one hK (.ok value) c (Fault.argumentMismatch (index + 1) name problem).entry
          (fun j => ?_) rfl
        simp only [Context.argumentAt, onto, hargument, hread]
        rfl

theorem tells_argument (index : Int) (name : Value) (parser : Option Designator) (c : Context) :
    Tells K (·.argument index name parser) c := by
  by_cases hindex : index < 0
  · exact .idle _ c (fun j => by simp only [Context.argument, if_pos hindex]; rfl) rfl
  · cases hparser : c.parserOf parser with
    | error f =>
      refine .idle (.error f) c (fun j => ?_) rfl
      have hparser' : (onto c j).parserOf parser = .error f := hparser
      simp only [Context.argument, if_neg hindex, hparser']
    | ok p =>
      refine (tells_argumentAt hK index.toNat name.plain p c).congr fun j => ?_
      have hparser' : (onto c j).parserOf parser = .ok p := hparser
      simp only [Context.argument, if_neg hindex, hparser']

theorem tells_takeOption (name : String) (p : Option Parser) (default : Value) (c : Context) :
    Tells K (·.takeOption name p default) c := by
  cases htake : c.options.take? name with
  | none =>
    by_cases hunset : default = .unset
    · subst hunset
      refine tells_one hK (.ok (coalesce .unset (Context.standIn p))) c
        (Fault.missingOption name).entry (fun j => ?_) rfl
      simp only [Context.takeOption, onto, htake]
      rfl
    · refine .idle (.ok (coalesce default (Context.standIn p))) c (fun j => ?_) rfl
      simp only [Context.takeOption, onto, htake]
  | some taken =>
    obtain ⟨_ | raw, rest⟩ := taken
    · refine tells_one hK (.ok (coalesce default (Context.standIn p))) { c with options := rest }
        (Fault.flagMisuse name).entry (fun j => ?_) rfl
      simp only [Context.takeOption, onto, htake]
      rfl
    · cases hread : Context.readRaw p raw with
      | error f =>
        exact .idle (.error f) { c with options := rest }
          (fun j => by simp only [Context.takeOption, onto, htake, hread]) rfl
      | ok read =>
        obtain ⟨value, _ | problem⟩ := read
        · exact .idle (.ok value) { c with options := rest }
            (fun j => by simp only [Context.takeOption, onto, htake, hread]) rfl
        · refine tells_one hK (.ok (coalesce default value)) { c with options := rest }
            (Fault.optionMismatch name problem).entry (fun j => ?_) rfl
          simp only [Context.takeOption, onto, htake, hread]
          rfl

theorem tells_option (name : Value) (parser : Option Designator) (default : Value) (c : Context) :
    Tells K (·.option name parser default) c := by
  cases hparser : c.parserOf parser with
  | error f =>
    refine .idle (.error f) c (fun j => ?_) rfl
    have hparser' : (onto c j).parserOf parser = .error f := hparser
    simp only [Context.option, hparser']
  | ok p =>
    cases hname : nameOf name with
    | error f =>
      refine .idle (.error f) c (fun j => ?_) rfl
      have hparser' : (onto c j).parserOf parser = .ok p := hparser
      simp only [Context.option, hparser', hname]
    | ok text =>
      refine (tells_takeOption hK text p default c).congr fun j => ?_
      have hparser' : (onto c j).parserOf parser = .ok p := hparser
      simp only [Context.option, hparser', hname]

theorem tells_takeFlag (name : String) (p : Parser) (default flagValue : Value) (c : Context) :
    Tells K (·.takeFlag name p default flagValue) c := by
  cases htake : c.options.take? name with
  | none =>
    exact .idle (.ok default) c (fun j => by simp only [Context.takeFlag, onto, htake]) rfl
  | some taken =>
    obtain ⟨_ | raw, rest⟩ := taken
    · exact .idle (.ok flagValue) { c with options := rest }
        (fun j => by simp only [Context.takeFlag, onto, htake]) rfl
    · cases hread : Context.readRaw (some p) raw with
      | error f =>
        exact .idle (.error f) { c with options := rest }
          (fun j => by simp only [Context.takeFlag, onto, htake, hread]) rfl
      | ok read =>
        obtain ⟨value, _ | problem⟩ := read
        · exact .idle (.ok value) { c with options := rest }
            (fun j => by simp only [Context.takeFlag, onto, htake, hread]) rfl
        · refine tells_one hK (.ok default) { c with options := rest }
            (Fault.flagMismatch name problem).entry (fun j => ?_) rfl
          simp only [Context.takeFlag, onto, htake, hread]
          rfl

theorem tells_flag (name : Value) (parser : Option Designator) (default flagValue : Value)
    (c : Context) : Tells K (·.flag name parser default flagValue) c := by
  cases hparser : c.registry.resolve (parser.getD (.parser .boolean)) (some (.kind .bool)) with
  | error f =>
    exact .idle (.error f) c (fun j => by simp only [Context.flag, onto, hparser]) rfl
  | ok p =>
    cases hname : nameOf name with
    | error f =>
      exact .idle (.error f) c (fun j => by simp only [Context.flag, onto, hparser, hname]) rfl
    | ok text =>
      refine (tells_takeFlag hK text p default flagValue c).congr fun j => ?_
      simp only [Context.flag, onto, hparser, hname]

theorem tells_asksHelp (c : Context) : Tells K (·.asksHelp) c := by
  have hflag := tells_takeFlag hK "help" .boolean (.bool false) (.bool true) c
  refine (hflag.done (b := fun answer => (answer.toOption.map Value.truthy).getD false)).congr
    fun j => ?_
  unfold Context.asksHelp
  generalize (onto c j).takeFlag "help" .boolean (.bool false) (.bool true) = r
  obtain ⟨_ | v, d⟩ := r <;> rfl

theorem tells_weigh (command : Command) (c : Context) : Tells K (·.weigh command) c := by
  by_cases hbare : (0 < command.arity.least && c.arguments.isEmpty && c.options.entries.isEmpty) =
      true
  · refine tells_one hK .stop c { text := command.extendedText } (fun j => ?_) rfl
    simp only [Context.weigh, onto, if_pos hbare]
    rfl
  · by_cases hcount : (!command.arity.enough c.arguments.length ||
        (!command.arity.within c.arguments.length && !command.tolerant)) = true
    · refine tells_one hK .stop c (Fault.wrongArity command c.arguments.length).entry
        (fun j => ?_) rfl
      simp only [Context.weigh, onto, if_neg hbare, if_pos hcount]
      rfl
    · have hextras := tells_warnExtras hK command.arity c
      refine (hextras.done (b := fun _ => Verdict.call command)).congr fun j => ?_
      simp only [Context.weigh, onto, if_neg hbare, if_neg hcount]

omit hK in
/-- An operation that is left out where something counts as an error. -/
theorem tells_unless (a : α) (h : Tells K f c) :
    Tells K (fun c => if c.hasErrors then (a, c) else f c) c := by
  by_cases herrors : c.hasErrors = true
  · refine .idle a c (fun j => ?_) rfl
    exact if_pos herrors
  · refine h.congr fun j => ?_
    exact if_neg herrors

theorem tells_settled (command : Command) (c : Context) : Tells K (·.settled command) c := by
  refine (tells_asksHelp hK c).bind (g := fun help c =>
    if help then (.stop, c.logText command.extendedText)
    else if c.hasErrors then (.stop, c)
    else c.weigh command) ?_
  generalize c.asksHelp = r
  obtain ⟨_ | _, d⟩ := r
  · exact tells_unless .stop (tells_weigh hK command d)
  · exact tells_one hK .stop d { text := command.extendedText } (fun _ => rfl) rfl

/-- What is decided on a command when its arguments have been read. -/
def Context.closing (v : Scanner) (command : Command) (c : Context) : Verdict × Context :=
  if (c.readOptions v).2.hasErrors then (.stop, (c.readOptions v).2)
  else (c.readOptions v).2.settled command

theorem tells_closing (v : Scanner) (command : Command) (c : Context) :
    Tells K (·.closing v command) c :=
  (tells_readOptions hK v c).bind
    (g := fun _ c => if c.hasErrors then (.stop, c) else c.settled command)
    (tells_unless .stop (tells_settled hK command _))

theorem tells_examine (command : Command) (c : Context) : Tells K (·.examine command) c := by
  cases hscanner : c.scanner with
  | none =>
    refine (tells_unless .stop (tells_settled hK command c)).congr fun j => ?_
    exact examine_idle (c := onto c j) hscanner
  | some u =>
    let v := (scanOperands c.bindings u).1.scanner
    have hall := (tells_readArguments hK u c).bind
      (g := fun _ c => if c.hasErrors then (.stop, c) else c.closing v command)
      (tells_unless .stop (tells_closing hK v command _))
    exact hall.congr fun j => examine_phases (c := onto c j) hscanner

end Messages

theorem tells_assign {K : LogEvent → Prop} (hK : ∀ m, K (.logged m)) (c : Context) :
    Tells K (fun c => ((), c.assign)) c := by
  match hargs : c.arguments with
  | [] =>
    refine tells_one hK () c { text := Layout.table ("Name", "Value") c.bindings.entries }
      (fun j => ?_) rfl
    simp only [Context.assign, onto, hargs]
    rfl
  | [name] =>
    cases hfind : c.bindings.find? name with
    | some value =>
      refine tells_one hK () c { text := s!"{name} = {value}" } (fun j => ?_) rfl
      simp only [Context.assign, onto, hargs, hfind]
      rfl
    | none =>
      refine tells_one hK () c (Fault.unbound name).entry (fun j => ?_) rfl
      simp only [Context.assign, onto, hargs, hfind]
      rfl
  | name :: value :: rest =>
    refine .idle () (c.bindVariable name value) (fun j => ?_) rfl
    have hargs' : (onto c j).arguments = name :: value :: rest := hargs
    simp only [Context.assign, hargs']
    rfl

/-- A query with which the account of a line goes on: it begins no line, changes nothing in what
counts as an error, and logs no value without a text. -/
structure Query.Loyal (q : Query) (c : Context) : Prop where
  stays : q ≠ .reset
  weighs : (q.run c).2.errorSeverities = c.errorSeverities
  log : ∀ text severity, q = .log text severity → ∃ t, text.render = .ok t
  entry : ∀ text parts, q = .entry text parts → ∃ t, text.render = .ok t

/-- What a query does to the log past the messages of its line is of a kind: what it writes there
beside them, that it empties the journal, and, unless it is loyal, whatever else. -/
structure Query.Heard (K : LogEvent → Prop) (q : Query) (c : Context) : Prop where
  loyal : q.Loyal c ∨ ∀ e, K e
  record : ∀ text parts t, q = .record text parts → text.render = .ok t →
    K (.recorded { parts with text := t })
  clear : q = .clearJournal → K .cleared

/-- A line may begin where nothing has been logged in it, or else if it may begin anew. -/
theorem tells_reset {K : LogEvent → Prop} {c : Context}
    (h : tally c.reset = tally c ∨ K .restarted) : Tells K (fun c => ((), c.reset)) c := by
  rcases h with hclean | hrestart
  · exact .idle () c.reset (fun _ => rfl) hclean
  · exact ⟨[.restarted], (), c.reset, by simpa using hrestart, fun _ => rfl, rfl⟩

theorem tells_start {K : LogEvent → Prop} (hK : ∀ m, K (.logged m)) {c : Context}
    (h : tally c.reset = tally c ∨ K .restarted) (line : String) : Tells K (·.start line) c :=
  (tells_reset h).bind
    (g := fun _ c => (c.setInput line).readName (Scanner.ofLine line).skipBlanks)
    (tells_readLine hK line c.reset)

section Queries

variable {α : Type} {K : LogEvent → Prop} (hK : ∀ m, K (.logged m)) {c : Context}

include hK

theorem tells_log {text : Value} (m : Message)
    (h : (∃ t, text.render = .ok t) ∨ ∀ e, K e) : Tells K (·.log text m) c := by
  cases hrender : text.render with
  | ok t =>
    exact tells_one hK (.ok { m with text := t }) c { m with text := t }
      (fun j => by simp only [Context.log, hrender]) rfl
  | error f =>
    have hheeded : K (.heeded m.severity) := by
      rcases h with ⟨t, ht⟩ | hall
      · rw [ht] at hrender
        cases hrender
      · exact hall _
    refine ⟨[.heeded m.severity], .error f,
      { c with severities := c.severities.add m.severity }, by simpa using hheeded,
      fun j => ?_, rfl⟩
    simp only [Context.log, hrender]
    rfl

omit hK in
theorem tells_weighed (a : α) {errors : Severities} (h : errors = c.errorSeverities ∨ ∀ e, K e) :
    Tells K (fun c => (a, { c with errorSeverities := errors })) c := by
  rcases h with rfl | hall
  · exact .idle a c (fun _ => rfl) rfl
  · exact ⟨[.weighed errors], a, { c with errorSeverities := errors }, by simpa using hall _,
      fun _ => rfl, rfl⟩

omit hK in
/-- An argument has a text, also where it is missing. -/
theorem render_argumentAt {index : Nat} {name : String} {v : Value}
    (h : (c.argumentAt index name none).1 = .ok v) : ∃ t, v.render = .ok t := by
  unfold Context.argumentAt at h
  split at h
  · obtain rfl := Except.ok.inj h
    exact ⟨_, rfl⟩
  · next raw _ =>
    obtain rfl := Except.ok.inj h
    exact ⟨raw, Value.render_text raw⟩

theorem tells_logArgument (c : Context) : Tells K (·.logArgument) c := by
  have hlog := (tells_argumentAt hK 0 "value" none c).bind (g := fun answer c =>
    match answer with
    | .error f => (.error f, c)
    | .ok v => ((c.log v { text := "" }).1.map fun _ => (), (c.log v { text := "" }).2)) ?_
  · refine hlog.congr fun j => ?_
    have hargument : (onto c j).argument 0 (.text "value") none =
      (onto c j).argumentAt 0 "value" none := rfl
    rw [Context.logArgument, hargument]
    generalize (onto c j).argumentAt 0 "value" none = r
    obtain ⟨_ | v, d⟩ := r <;> rfl
  · cases hanswer : (c.argumentAt 0 "value" none).1 with
    | error f => exact .idle (.error f) _ (fun _ => rfl) rfl
    | ok v =>
      have hlog := tells_log hK (c := (c.argumentAt 0 "value" none).2) { text := "" }
        (.inl (render_argumentAt hanswer))
      exact hlog.done (b := fun logged => logged.map fun _ => ())

omit hK in
/-- A query that reads on with the scanner of the line, if there is one. -/
theorem tells_reading {q : Query} {f : Scanner → Context → Bool × Context}
    (hf : ∀ u, Tells K (f u) c) (failure : Failure)
    (hnone : ∀ d : Context, d.scanner = none → q.run d = (.error failure, d))
    (hsome : ∀ (d : Context) (u : Scanner), d.scanner = some u →
      q.run d = (.ok (.bool (f u d).1), (f u d).2)) : Tells K q.run c := by
  cases hscanner : c.scanner with
  | none => exact .idle (.error failure) c (fun j => hnone (onto c j) hscanner) rfl
  | some u =>
    have hread := (hf u).done (b := fun read => (.ok (.bool read) : Except Failure Value))
    exact hread.congr fun j => hsome (onto c j) u hscanner

/-- A query that is heard logs messages of its line, and else only does what is of the kind. -/
theorem tells_query (q : Query) (hq : q.Heard K c) : Tells K q.run c := by
  have hidle : (∀ j, q.run (onto c j) = ((q.run c).1, onto (q.run c).2 j)) →
      tally (q.run c).2 = tally c → Tells K q.run c := .idle _ _
  cases q with
  | argument index name parser => exact tells_argument hK index name parser c
  | option name parser default => exact tells_option hK name parser default c
  | flag name parser default flagValue =>
    exact tells_flag hK name parser default flagValue c
  | endParsing => exact (tells_endParsing hK c).done (b := fun _ => Except.ok Value.none)
  | log text severity =>
    have hlog := tells_log hK (c := c) { text := "", severity }
      (hq.loyal.imp_left (·.log text severity rfl))
    exact hlog.done (b := fun logged => logged.map fun _ => Value.none)
  | entry text parts =>
    have hlog := tells_log hK (c := c) parts (hq.loyal.imp_left (·.entry text parts rfl))
    exact hlog.done (b := fun logged => logged.map fun _ => Value.none)
  | trigger raised =>
    cases raised with
    | fault f => exact tells_one hK (.ok .none) c f.entry (fun _ => rfl) rfl
    | failure f => exact hidle (fun _ => rfl) rfl
  | record text parts =>
    cases hrender : text.render with
    | ok t =>
      refine ⟨[.recorded { parts with text := t }], .ok .none, c,
        by simpa using hq.record text parts t rfl hrender, fun j => ?_, rfl⟩
      simp only [Query.run, Journal.log, hrender]
      rfl
    | error f =>
      refine .idle (.error f) c (fun j => ?_) rfl
      simp only [Query.run, Journal.log, hrender]
      rfl
  | clearJournal =>
    exact ⟨[.cleared], .ok .none, c, by simpa using hq.clear rfl, fun _ => rfl, rfl⟩
  | setVariable name value =>
    cases hname : nameOf name with
    | error f => exact .idle (.error f) c (fun j => by simp only [Query.run, hname]) rfl
    | ok text =>
      exact .idle (.ok .none) (c.bindVariable text value)
        (fun j => by simp only [Query.run, hname]; rfl) rfl
  | unsetVariable name =>
    cases hname : nameOf name with
    | error f => exact .idle (.error f) c (fun j => by simp only [Query.run, hname]) rfl
    | ok text =>
      cases hbound : c.bindings.contains text with
      | true =>
        exact .idle (.ok .none) { c with bindings := c.bindings.erase text }
          (fun j => by simp only [Query.run, onto, hname, hbound]; rfl) rfl
      | false =>
        exact .idle (.error (NameMap.missing text)) c
          (fun j => by simp only [Query.run, onto, hname, hbound]; rfl) rfl
  | lookUp name =>
    cases hname : nameOf name with
    | error f => exact .idle (.error f) c (fun j => by simp only [Query.run, hname]) rfl
    | ok text =>
      cases hfind : c.bindings.find? text with
      | some value =>
        exact .idle (.ok (.text value)) c
          (fun j => by simp only [Query.run, onto, hname, hfind]) rfl
      | none =>
        exact .idle (.error (NameMap.missing text)) c
          (fun j => by simp only [Query.run, onto, hname, hfind]) rfl
  | logVariables =>
    exact tells_one hK (.ok .none) c
      { text := Layout.table ("Name", "Value") c.bindings.entries } (fun _ => rfl) rfl
  | setErrorSeverities members =>
    cases members with
    | other => exact hidle (fun _ => rfl) rfl
    | members errors => exact tells_weighed (Except.ok Value.none) (hq.loyal.imp_left (·.weighs))
  | setWarningsAsErrors enabled =>
    exact (tells_weighed (Except.ok Value.none) (hq.loyal.imp_left (·.weighs))).congr fun _ => rfl
  | reset =>
    rcases hq.loyal with hloyal | hall
    · exact absurd rfl hloyal.stays
    · exact ⟨[.restarted], .ok .none, c.reset, by simpa using hall _, fun _ => rfl, rfl⟩
  | setInput line =>
    cases line with
    | text line => exact .idle (.ok .none) (c.setInput line) (fun _ => rfl) rfl
    | _ => exact hidle (fun _ => rfl) rfl
  | parseName =>
    refine tells_reading (fun u => tells_readName hK u c)
      (Value.none.lacks "get_command_name") (fun d h => ?_) fun d u h => ?_
    · simp only [Query.run, Context.parseName, h]
      rfl
    · simp only [Query.run, Context.parseName, h]
      rfl
  | parseArguments =>
    refine tells_reading (fun u => tells_readArguments hK u c)
      (Value.none.lacks "skip_whitespace") (fun d h => ?_) fun d u h => ?_
    · simp only [Query.run, Context.parseArguments, h]
      rfl
    · simp only [Query.run, Context.parseArguments, h]
      rfl
  | parseOptions =>
    refine tells_reading (fun u => tells_readOptions hK u c)
      (Value.none.lacks "skip_whitespace") (fun d h => ?_) fun d u h => ?_
    · simp only [Query.run, Context.parseOptions, h]
      rfl
    · simp only [Query.run, Context.parseOptions, h]
      rfl
  | substitute token =>
    exact (tells_substitute hK token c).done
      (b := fun text => Except.ok (optionValue text))
  | _ => exact hidle (fun _ => rfl) rfl

end Queries

end LineShell
