import LineShell.Proofs.Context.Scanning
import LineShell.Proofs.NameMap.Insertion

/-! Whole lines read into a context. A line is taken exactly if it can be cut into a command name,
arguments and options and every reference in these is bound. -/
namespace LineShell

open LineShell.Line LineShell.Text

/-- All references among the operands are bound. -/
def Line.Operands.Bound (d : Operands) (bindings : NameMap String) : Prop :=
  (∀ t ∈ d.arguments, LineShell.Bound bindings (String.ofList t.token.text)) ∧
  ∀ t ∈ d.options, ∀ a ∈ t.token.assignment, LineShell.Bound bindings (String.ofList a.value.text)

/-- The arguments, with values for references. -/
def Line.Operands.texts (d : Operands) (bindings : NameMap String) : List String :=
  d.arguments.map fun t => expand bindings (String.ofList t.token.text)

/-- If the value of an option is a reference, the name in it is bound. -/
def Line.OptionLexeme.Bound (bindings : NameMap String) (o : OptionLexeme) : Prop :=
  ∀ a ∈ o.assignment, LineShell.Bound bindings (String.ofList a.value.text)

/-- The name of an option and its value, with the value for a reference. -/
def Line.OptionLexeme.entry (bindings : NameMap String) (o : OptionLexeme) :
    String × Option String :=
  (String.ofList o.name, o.assignment.map fun a => expand bindings (String.ofList a.value.text))

/-- The options in the order of the line. -/
def Line.Operands.entries (d : Operands) (bindings : NameMap String) :
    List (String × Option String) :=
  d.options.map fun t => t.token.entry bindings

/-- The reference that the command name may be is bound. -/
def Line.Spaced.Bound (name : Spaced Lexeme) (bindings : NameMap String) : Prop :=
  LineShell.Bound bindings (String.ofList name.token.text)

/-- The command name, with the value for a reference. -/
def Line.Spaced.expanded (name : Spaced Lexeme) (bindings : NameMap String) : String :=
  expand bindings (String.ofList name.token.text)

/-- All references of the line are bound. -/
def Line.Segments.Bound (d : Segments) (bindings : NameMap String) : Prop :=
  d.name.Bound bindings ∧ d.operands.Bound bindings

variable {bindings : NameMap String} {text : List Char} {line : String} {s t : Scanner}
  {d : Operands} {o : OptionLexeme} {entry : String × Option String} {c : Context}
  {name : Spaced Lexeme}

theorem entryValue_of_bound (h : o.Bound bindings) :
    entryValue bindings o = .ok (o.entry bindings) := by
  unfold entryValue optionOf OptionLexeme.entry OptionLexeme.token
  cases ha : o.assignment with
  | none => rfl
  | some a => simp [lookUp_of_bound (h a ha), Except.map]

theorem bound_of_entryValue (h : entryValue bindings o = .ok entry) : o.Bound bindings := by
  intro a ha
  rw [entryValue, optionOf, OptionLexeme.token, Option.mem_def.mp ha] at h
  dsimp only [Option.map_some] at h
  cases hvalue : lookUp bindings (String.ofList a.value.text) with
  | error n => rw [hvalue] at h; cases h
  | ok value => exact bound_of_lookUp hvalue

theorem entry_of_entryValue (h : entryValue bindings o = .ok entry) :
    o.Bound bindings ∧ entry = o.entry bindings := by
  have hbound := bound_of_entryValue h
  rw [entryValue_of_bound hbound] at h
  exact ⟨hbound, (Except.ok.inj h).symm⟩

theorem isEmpty_iff_rest : s.isEmpty = true ↔ s.rest = [] := by
  simp [Scanner.isEmpty, Scanner.rest]

/-- The scans of the arguments and, from where they ended, of the options. -/
def scanOperands (bindings : NameMap String) (s : Scanner) : ArgumentScan × OptionScan :=
  let arguments := scanArguments bindings s.skipBlanks
  (arguments, scanOptions bindings arguments.scanner.skipBlanks)

/-- Both scans found all references bound, and nothing is left. -/
def ScansAll (scans : ArgumentScan × OptionScan) : Prop :=
  scans.1.unbound = none ∧ scans.2.unbound = none ∧ scans.2.scanner.isEmpty = true

/-- What the scans of arguments and options read, as two runs over one text. -/
theorem scanOperands_scans (bindings : NameMap String) (hs : s.rest = text.dropWhile isBlank) :
    ∃ ts os mid rest,
      Scans StringAt (argumentValue bindings) text ts (scanOperands bindings s).1.arguments
        (scanOperands bindings s).1.unbound mid ∧
      Scans OptionAt (entryValue bindings) mid os (scanOperands bindings s).2.options
        (scanOperands bindings s).2.unbound rest ∧
      (scanOperands bindings s).2.scanner.rest = rest.dropWhile isBlank := by
  have hstart : s.skipBlanks.rest = text.dropWhile isBlank := by
    rw [Scanner.skipBlanks_rest, hs, List.dropWhile_idempotent]
  obtain ⟨ts, mid, harguments, hmid⟩ := scans_arguments bindings s.skipBlanks hstart
  have hnext : (scanArguments bindings s.skipBlanks).scanner.skipBlanks.rest =
      mid.dropWhile isBlank := by
    rw [Scanner.skipBlanks_rest, hmid, List.dropWhile_idempotent]
  obtain ⟨os, rest, hoptions, hrest⟩ := scans_options bindings _ hnext
  exact ⟨ts, os, mid, rest, harguments, hoptions, hrest⟩

/-- Operands that can be cut and resolved are scanned to the end. -/
theorem scanOperands_of_cut (hs : s.rest = text.dropWhile isBlank) (hcut : d.Cut text)
    (hbound : d.Bound bindings) :
    ScansAll (scanOperands bindings s) ∧
      (scanOperands bindings s).1.arguments = d.texts bindings ∧
      (scanOperands bindings s).2.options = d.entries bindings := by
  obtain ⟨mid, harguments, hoptions, hblank⟩ := hcut
  obtain ⟨ts, os, mid', rest, hscan, hscan', hrest⟩ := scanOperands_scans bindings hs
  obtain ⟨hu, htexts, rfl⟩ := scans_unique hscan stringAt_kind stringAt_shorter expand_of_lookUp
    ⟨harguments, not_stringAhead_of_options hoptions hblank⟩
    fun t ht => lookUp_of_bound (hbound.1 t ht)
  obtain ⟨hu', hentries, rfl⟩ := scans_unique hscan' optionAt_kind optionAt_shorter
    entry_of_entryValue ⟨hoptions, not_tokenAhead_of_blank optionAt_kind hblank⟩
    fun t ht => entryValue_of_bound (hbound.2 t ht)
  refine ⟨⟨hu, hu', ?_⟩, htexts, hentries⟩
  rw [isEmpty_iff_rest, hrest]
  exact List.dropWhile_eq_nil_iff.mpr hblank

/-- What is scanned to the end can be cut and resolved. -/
theorem cut_of_scanOperands (hs : s.rest = text.dropWhile isBlank)
    (hall : ScansAll (scanOperands bindings s)) :
    ∃ d : Operands, d.Cut text ∧ d.Bound bindings := by
  obtain ⟨hu, hu', hempty⟩ := hall
  obtain ⟨ts, os, mid, rest, hscan, hscan', hrest⟩ := scanOperands_scans bindings hs
  rw [isEmpty_iff_rest, hrest] at hempty
  have hblank : Blank rest := List.dropWhile_eq_nil_iff.mp hempty
  exact ⟨⟨ts, os, rest⟩, ⟨mid, tokensAt_of_scans hscan, tokensAt_of_scans hscan', hblank⟩,
    (eq_map_of_scans expand_of_lookUp hscan).1, (eq_map_of_scans entry_of_entryValue hscan').1⟩

/-- What follows the reading of a command name in a context. -/
def Context.named (c : Context) (t : Scanner) (name : String) : Context :=
  { c with scanner := some t, remainder := t.remaining, commandName := some name }

@[simp] theorem setInput_bindings (c : Context) (line : String) :
    (c.setInput line).bindings = c.bindings := rfl

theorem rest_ofLine (line : String) : (Scanner.ofLine line).rest = line.toList := rfl

theorem skipBlanks_of_heads (h : name.Heads line.toList text) :
    ∃ cs, (Scanner.ofLine line).skipBlanks.rest = cs ∧ NameAt name.token cs text := by
  obtain ⟨cs, hgap, hline, htoken⟩ := heads_iff.mp h
  refine ⟨cs, ?_, htoken⟩
  rw [Scanner.skipBlanks_rest, rest_ofLine, hline, dropWhile_run hgap (nameAt_solid htoken)]

theorem name?_of_heads (h : name.Heads line.toList text) : (Scanner.ofLine line).skipBlanks.name? =
    some ((Scanner.ofLine line).skipBlanks.accept name.token) := by
  obtain ⟨cs, hrest, htoken⟩ := skipBlanks_of_heads h
  rw [Scanner.name?, hrest, readName?_iff.mpr ⟨text, htoken⟩]
  rfl

/-- The scanner past the command name of a line and the white space after it. -/
def pastName (line : String) (name : Spaced Lexeme) : Scanner :=
  ((Scanner.ofLine line).skipBlanks.accept name.token).2.skipBlanks

theorem pastName_rest (h : name.Heads line.toList text) :
    (pastName line name).rest = text.dropWhile isBlank := by
  obtain ⟨cs, hrest, htoken⟩ := skipBlanks_of_heads h
  have hspell := hrest.trans (nameAt_spelling htoken)
  rw [pastName, Scanner.skipBlanks_rest, Scanner.accept, Scanner.advance_rest hspell]

theorem heads_of_name? {token : String}
    (h : (Scanner.ofLine line).skipBlanks.name? = some (token, t)) :
    ∃ name : Spaced Lexeme, token = String.ofList name.token.text ∧
      name.Heads line.toList t.rest := by
  obtain ⟨l, rfl, htoken⟩ := nameAt_of_name? h
  refine ⟨⟨line.toList.takeWhile isBlank, l⟩, rfl, heads_iff.mpr ⟨_, blank_takeWhile _, ?_, htoken⟩⟩
  rw [Scanner.skipBlanks_rest, rest_ofLine]
  exact eq_takeWhile_append _ _

theorem not_heads_of_blank (h : Blank line.toList) : ¬ name.Heads line.toList text := by
  intro hheads
  obtain ⟨cs, hgap, hline, htoken⟩ := heads_iff.mp hheads
  exact not_tokenAhead_of_blank nameAt_kind h ⟨_, _, cs, text, hgap, hline, htoken⟩

/-- How the reading of a command name ends: there is none on a blank line; it cannot be read; it
refers to an unbound name; or it is read. -/
inductive NameReading (c : Context) (line : String) : Bool × Context → Prop
  | blank (hblank : Blank line.toList) : NameReading c line (false, c)
  | malformed (hblank : ¬ Blank line.toList)
      (hnone : ∀ (name : Spaced Lexeme) (text : List Char), ¬ name.Heads line.toList text)
      (rest : String) :
      NameReading c line (false, c.trigger (.malformed rest "quotes must be closed"))
  | unbound {name : Spaced Lexeme} {text : List Char} {t : Scanner} {missing : String}
      (hname : name.Heads line.toList text) (hbound : ¬ name.Bound c.bindings) :
      NameReading c line (false,
        { c with scanner := some t, remainder := t.remaining }.trigger (.unboundReference missing))
  | read {name : Spaced Lexeme} {text : List Char} {t : Scanner}
      (hname : name.Heads line.toList text) (hbound : name.Bound c.bindings)
      (ht : t.rest = text.dropWhile isBlank) :
      NameReading c line (true, c.named t (name.expanded c.bindings))

theorem nameReading (c : Context) (line : String) :
    NameReading c line (c.readName (Scanner.ofLine line).skipBlanks) := by
  unfold Context.readName
  split
  · next hnone =>
    have hheads : ∀ (name : Spaced Lexeme) (text : List Char), ¬ name.Heads line.toList text := by
      intro name text h
      rw [name?_of_heads h] at hnone
      cases hnone
    have hblank : (Scanner.ofLine line).skipBlanks.isEmpty = true ↔ Blank line.toList := by
      rw [isEmpty_iff_rest, Scanner.skipBlanks_rest, rest_ofLine]
      exact List.dropWhile_eq_nil_iff
    split
    · next hempty => exact .blank (hblank.mp hempty)
    · next hempty => exact .malformed (fun h => hempty (hblank.mpr h)) hheads _
  · next token t ht =>
    obtain ⟨name, rfl, hname⟩ := heads_of_name? ht
    dsimp only [Context.substitute]
    cases hlook : lookUp c.bindings (String.ofList name.token.text) with
    | error missing => exact .unbound hname (not_bound_of_unbound (lookUp_eq_error.mp hlook))
    | ok value =>
      have hbound : name.Bound c.bindings := bound_of_lookUp hlook
      have hvalue := hlook.symm.trans (lookUp_of_bound hbound)
      obtain rfl : value = name.expanded c.bindings := Except.ok.inj hvalue
      exact .read hname hbound (t.skipBlanks_rest)

theorem substitute_bindings (c : Context) (token : String) :
    (c.substitute token).2.bindings = c.bindings := by
  unfold Context.substitute
  split <;> rfl

theorem readName_bindings (c : Context) (s : Scanner) :
    (c.readName s).2.bindings = c.bindings := by
  unfold Context.readName
  split
  · split <;> rfl
  · next token t _ =>
    dsimp only [Context.substitute]
    cases lookUp c.bindings token <;> rfl

theorem readName_of_heads (hname : name.Heads line.toList text) (hbound : name.Bound c.bindings) :
    c.readName (Scanner.ofLine line).skipBlanks =
      (true, c.named (pastName line name) (name.expanded c.bindings)) := by
  have hlook : lookUp c.bindings (String.ofList name.token.text) =
      .ok (name.expanded c.bindings) := lookUp_of_bound hbound
  simp only [Context.readName, name?_of_heads hname, Scanner.accept, Context.substitute, hlook]
  rfl

/-- What became of a line that was read into a context: whether its command name, its arguments
and its options could be read, and the context in the end. -/
structure LineReading where
  named : Bool
  argued : Bool
  closed : Bool
  context : Context

/-- The whole line could be read. -/
def LineReading.complete (r : LineReading) : Bool := r.named && r.argued && r.closed

/-- Sets a line and reads its command name, its arguments and its options, in this order. -/
def Context.readLine (c : Context) (line : String) : Except Failure LineReading := do
  let (named, c) ← (c.setInput line).parseName
  let (argued, c) ← c.parseArguments
  let (closed, c) ← c.parseOptions
  return ⟨named, argued, closed, c⟩

/-- The context after scans of arguments and options that both went to their ends. -/
def Context.filled (c : Context) (scans : ArgumentScan × OptionScan) : Context :=
  { c with
    scanner := some scans.2.scanner
    arguments := c.arguments ++ scans.1.arguments
    options := c.options.insertAll scans.2.options }

/-- The scanner from which the options are read. -/
theorem readArguments_scanner (c : Context) (s : Scanner) :
    (c.readArguments s).2.scanner = some (scanOperands c.bindings s).1.scanner := by
  unfold Context.readArguments
  dsimp only
  split <;> rfl

theorem readArguments_bindings (c : Context) (s : Scanner) :
    (c.readArguments s).2.bindings = c.bindings := by
  unfold Context.readArguments
  dsimp only
  split <;> rfl

theorem readArguments_fst (c : Context) (s : Scanner) :
    (c.readArguments s).1 = true ↔ (scanOperands c.bindings s).1.unbound = none := by
  unfold Context.readArguments scanOperands
  dsimp only
  split
  · next h => simp [h]
  · next name h => simp [h]

theorem readOptions_fst (c : Context) (s : Scanner) :
    (c.readOptions s).1 = true ↔ (scanOptions c.bindings s.skipBlanks).unbound = none ∧
      (scanOptions c.bindings s.skipBlanks).scanner.isEmpty = true := by
  unfold Context.readOptions
  dsimp only
  split
  · next name h => simp [h]
  · next h => split <;> simp_all

/-- The context after a scan of arguments. -/
def Context.argued (c : Context) (scan : ArgumentScan) : Context :=
  { c with scanner := some scan.scanner, arguments := c.arguments ++ scan.arguments }

theorem readArguments_bound (h : (scanOperands c.bindings s).1.unbound = none) :
    c.readArguments s = (true, c.argued (scanOperands c.bindings s).1) := by
  dsimp only [scanOperands] at h
  simp only [Context.readArguments, h]
  rfl

/-- Reading arguments and options to the end changes nothing but what was read. -/
theorem readOptions_all (h : ScansAll (scanOperands c.bindings s)) :
    (c.argued (scanOperands c.bindings s).1).readOptions (scanOperands c.bindings s).1.scanner =
      (true, c.filled (scanOperands c.bindings s)) := by
  obtain ⟨_, hu, hempty⟩ := h
  dsimp only [scanOperands] at hu hempty
  simp only [Context.readOptions, Context.argued, scanOperands, hu, hempty]
  rfl

/-- A line that was set leaves a scanner, whether or not its command name could be read. -/
theorem readName_scanner (c : Context) (line : String) :
    ∃ u, ((c.setInput line).readName (Scanner.ofLine line).skipBlanks).2.scanner = some u := by
  have h := nameReading (c.setInput line) line
  generalize (c.setInput line).readName (Scanner.ofLine line).skipBlanks = n at h ⊢
  cases h with
  | blank => exact ⟨_, rfl⟩
  | malformed => exact ⟨_, rfl⟩
  | unbound => exact ⟨_, rfl⟩
  | read => exact ⟨_, rfl⟩

theorem readLine_eq {n : Bool × Context}
    (hn : (c.setInput line).readName (Scanner.ofLine line).skipBlanks = n)
    (hs : n.2.scanner = some s) :
    c.readLine line = .ok
      { named := n.1
        argued := (n.2.readArguments s).1
        closed := ((n.2.readArguments s).2.readOptions (scanOperands n.2.bindings s).1.scanner).1
        context :=
          ((n.2.readArguments s).2.readOptions (scanOperands n.2.bindings s).1.scanner).2 } := by
  have hparse : (c.setInput line).parseName = .ok n := by
    rw [← hn]
    rfl
  simp [Context.readLine, hparse, Context.parseArguments, hs, Context.parseOptions,
    readArguments_scanner, bind, Except.bind, pure, Except.pure]

/-- A line that can be cut and resolved is read to its end. -/
theorem readLine_of_cut {d : Segments} (hcut : d.Cut line.toList) (hbound : d.Bound c.bindings) :
    ∃ t, c.readLine line = .ok
        ⟨true, true, true, ((c.setInput line).named t (d.name.expanded c.bindings)).filled
          (scanOperands c.bindings t)⟩ ∧
      ScansAll (scanOperands c.bindings t) ∧
      (scanOperands c.bindings t).1.arguments = d.operands.texts c.bindings ∧
      (scanOperands c.bindings t).2.options = d.operands.entries c.bindings := by
  obtain ⟨text, hname, hoperands⟩ := hcut
  have hread := readName_of_heads (c := c.setInput line) hname hbound.1
  obtain ⟨hall, htexts, hentries⟩ :=
    scanOperands_of_cut (pastName_rest hname) hoperands hbound.2
  refine ⟨_, ?_, hall, htexts, hentries⟩
  rw [readLine_eq hread rfl]
  have hb : ((c.setInput line).named (pastName line d.name)
    (d.name.expanded c.bindings)).bindings = c.bindings := rfl
  simp only [setInput_bindings]
  generalize (c.setInput line).named (pastName line d.name) (d.name.expanded c.bindings) = e at hb
  rw [← hb] at hall ⊢
  rw [readArguments_bound hall.1, readOptions_all hall]

/-- A line that is read to its end can be cut and resolved. -/
theorem cut_of_readLine {r : LineReading} (hr : c.readLine line = .ok r)
    (hcomplete : r.complete = true) :
    ∃ d : Segments, d.Cut line.toList ∧ d.Bound c.bindings := by
  have hreading := nameReading (c.setInput line) line
  obtain ⟨u, hu⟩ := readName_scanner c line
  generalize hn : (c.setInput line).readName (Scanner.ofLine line).skipBlanks = n at hreading hu
  rw [readLine_eq hn hu] at hr
  obtain rfl := Except.ok.inj hr
  simp only [LineReading.complete, Bool.and_eq_true] at hcomplete
  obtain ⟨⟨hnamed, hargued⟩, hclosed⟩ := hcomplete
  cases hreading with
  | blank => cases hnamed
  | malformed => cases hnamed
  | unbound => cases hnamed
  | @read name text t hname hbound ht =>
    obtain rfl : t = u := Option.some.inj hu
    rw [readOptions_fst, readArguments_bindings] at hclosed
    rw [readArguments_fst] at hargued
    obtain ⟨d, hcut, hresolved⟩ := cut_of_scanOperands ht ⟨hargued, hclosed.1, hclosed.2⟩
    exact ⟨⟨name, d⟩, ⟨text, hname, hcut⟩, hbound, hresolved⟩

end LineShell
