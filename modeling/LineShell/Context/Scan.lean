import LineShell.Context.Reference

/-!
Reading a line into a context: the command name, then the arguments, then the options. Each phase
stops at the first token that it cannot take, logs what is wrong with it, and keeps what it has read
before.
-/

namespace LineShell

open LineShell.Line (Scanner OptionToken)

/-- What was read of the arguments: their texts, the scanner before the first token that was not
taken, and the name in that token if it is not bound. -/
structure ArgumentScan where
  arguments : List String
  scanner : Scanner
  unbound : Option String

/-- Reads arguments up to the first token that is none or that refers to an unbound name. -/
def scanArguments (bindings : NameMap String) (s : Scanner) : ArgumentScan :=
  match _read : s.string? with
  | none => ⟨[], s, none⟩
  | some (token, t) =>
    match lookUp bindings token with
    | .error name => ⟨[], s, some name⟩
    | .ok text =>
      let tail := scanArguments bindings t.skipBlanks
      { tail with arguments := text :: tail.arguments }
termination_by s.rest.length
decreasing_by
  exact Nat.lt_of_le_of_lt (Scanner.length_advance_rest_le ..)
    (Scanner.length_rest_lt_of_string? _read)

/-- What was read of the options, as for arguments. -/
structure OptionScan where
  options : List (String × Option String)
  scanner : Scanner
  unbound : Option String

/-- The option that a token stands for, or the name in its value that is not bound. -/
def optionOf (bindings : NameMap String) (token : OptionToken) :
    Except String (String × Option String) :=
  match token.value with
  | none => .ok (token.name, none)
  | some value => (lookUp bindings value).map fun text => (token.name, some text)

/-- Reads options up to the first token that is none or whose value refers to an unbound name. -/
def scanOptions (bindings : NameMap String) (s : Scanner) : OptionScan :=
  match _read : s.option? with
  | none => ⟨[], s, none⟩
  | some (token, t) =>
    match optionOf bindings token with
    | .error name => ⟨[], s, some name⟩
    | .ok entry =>
      let tail := scanOptions bindings t.skipBlanks
      { tail with options := entry :: tail.options }
termination_by s.rest.length
decreasing_by
  exact Nat.lt_of_le_of_lt (Scanner.length_advance_rest_le ..)
    (Scanner.length_rest_lt_of_option? _read)

namespace Fault

/-- Input that cannot be read. -/
def malformed (rest advice : String) : Fault :=
  .ofCode .scanFailure s!"Unexpected input '{rest}'." advice

end Fault

namespace Context

/-- Reads the command name with a scanner. There is none on an empty line. -/
def readName (c : Context) (s : Scanner) : Bool × Context :=
  match s.name? with
  | none =>
    if s.isEmpty then (false, c)
    else (false, c.trigger (.malformed s.remaining "quotes must be closed"))
  | some (token, t) =>
    let t := t.skipBlanks
    let (name, c) := { c with scanner := some t, remainder := t.remaining }.substitute token
    match name with
    | some name => (true, { c with commandName := some name })
    | none => (false, c)

/-- Reads the command name of the current line. -/
def parseName (c : Context) : Except Failure (Bool × Context) :=
  match c.scanner with
  | none => .error (Value.none.lacks "get_command_name")
  | some s => .ok (c.readName s)

/-- Starts over with a line and reads its command name. -/
def start (c : Context) (line : String) : Bool × Context :=
  let c := c.reset.setInput line
  c.readName (Scanner.ofLine line).skipBlanks

/-- Reads the arguments with a scanner. -/
def readArguments (c : Context) (s : Scanner) : Bool × Context :=
  let scan := LineShell.scanArguments c.bindings s.skipBlanks
  let c := { c with scanner := some scan.scanner, arguments := c.arguments ++ scan.arguments }
  match scan.unbound with
  | none => (true, c)
  | some name => (false, c.trigger (.unboundReference name))

/-- Reads the arguments of the current line. -/
def parseArguments (c : Context) : Except Failure (Bool × Context) :=
  match c.scanner with
  | none => .error (Value.none.lacks "skip_whitespace")
  | some s => .ok (c.readArguments s)

/-- What to do about input after the options. -/
def optionAdvice : String :=
  "arguments come first, then options (-name or -name=value); quotes must be closed"

/-- Reads the options with a scanner. Nothing may be left after them. -/
def readOptions (c : Context) (s : Scanner) : Bool × Context :=
  let scan := LineShell.scanOptions c.bindings s.skipBlanks
  let c := { c with scanner := some scan.scanner, options := c.options.insertAll scan.options }
  match scan.unbound with
  | some name => (false, c.trigger (.unboundReference name))
  | none =>
    if scan.scanner.isEmpty then (true, c)
    else (false, c.trigger (.malformed scan.scanner.remaining optionAdvice))

/-- Reads the options of the current line. -/
def parseOptions (c : Context) : Except Failure (Bool × Context) :=
  match c.scanner with
  | none => .error (Value.none.lacks "skip_whitespace")
  | some s => .ok (c.readOptions s)

@[simp] theorem readArguments_remainder (c : Context) (s : Scanner) :
    (c.readArguments s).2.remainder = c.remainder := by
  simp only [readArguments]
  split <;> rfl

@[simp] theorem readOptions_remainder (c : Context) (s : Scanner) :
    (c.readOptions s).2.remainder = c.remainder := by
  simp only [readOptions]
  split
  · rfl
  · split <;> rfl

/-- A command name that was read leaves a remainder shorter than what there was to read. -/
theorem length_remainder_of_readName {c : Context} {s : Scanner}
    (h : (c.readName s).1 = true) :
    (c.readName s).2.remainder.length < s.rest.length := by
  unfold readName at h ⊢
  split at h
  · next hn =>
    split at h <;> simp at h
  · next token t ht =>
    have hlt := Scanner.length_rest_lt_of_name? ht
    have hle := Scanner.length_advance_rest_le t (t.rest.takeWhile Text.isBlank).length
    dsimp only
    split
    all_goals
      simp only [substitute_remainder, Scanner.remaining, String.length_ofList]
      exact Nat.lt_of_le_of_lt hle hlt

end Context

end LineShell
