import LineShell.Demo.Transcript
import LineShell.Proofs.Shell.Verbatim
import LineShell.Proofs.Text.Numeral

/-! The command `add` of the demonstration, from the line to the log. The two numbers on a line are
read as they were written, and their sum is logged; a number with more digits than are converted is
reported where it stands, and a sum with more makes the command fail. -/
namespace LineShell

open LineShell.Line LineShell.Text

variable {s t : Shell} {c d : Context} {n a b : Int} {rest : List Char}
  {gap gap' : String} {reenter : Dispatcher}

/-- The decimal text of a whole number is an argument; its minus sign begins no option. -/
theorem stringAt_toString (n : Int) (hrest : AtGap rest) :
    StringAt (.bare (toString n).toList) ((toString n).toList ++ rest) rest := by
  obtain ⟨d, digits, hmagnitude, hdigit⟩ := magnitude_eq_cons n
  have hsome : (toString n).toList ≠ [] := by
    rw [toList_toString, hmagnitude]
    split <;> exact List.cons_ne_nil _ _
  refine ⟨.bare hsome ?_ (fun ch hch => (isDecimal_of_mem hch).isBlank) hrest, ?_⟩
  · intro hquote
    exact (isDecimal_of_mem (List.mem_of_mem_head? hquote)).ne (by simp [IsDecimal]) rfl
  · rintro ⟨ch, tail, heq, hletter⟩
    rw [toList_toString, hmagnitude] at heq
    split at heq
    · -- behind the minus sign comes a digit, and no letter
      obtain ⟨rfl, _⟩ := List.cons.inj (List.cons.inj heq).2
      rw [isLetter_of_isDigit hdigit] at hletter
      cases hletter
    · obtain ⟨rfl, _⟩ := List.cons.inj heq
      cases hdigit

/-- The decimal text of a whole number is no reference. -/
theorem not_isReference_toString (n : Int) : ¬ IsReference (toString n) := fun href =>
  (isDecimal_of_mem (List.mem_of_mem_head? href.1)).ne (by simp [IsDecimal]) rfl

namespace Demo

/-- What stands in for a number on a line: the number itself, unless it has too many digits. -/
def readBack (n : Int) : Int :=
  if Convertible n then n else 0

/-- What is logged of a number on a line: that it cannot be read if it has too many digits. -/
def overlong (position : Int) (name : String) (n : Int) : List Message :=
  if Convertible n then []
  else [(Fault.argumentMismatch position name
    s!"Expected input compatible with type int, got '{n}'.").entry]

/-- What is logged of a sum: its text, or that the command has failed over it. -/
def sumEntry (n : Int) : Message :=
  if Convertible n then { text := toString n } else Value.tooManyDigits.wrapped.entry

theorem run_integer (n : Int) : Parser.integer.run (.text (toString n)) =
    if Convertible n then .ok (.int n, .success)
    else .ok (.int 0, ⟨some s!"Expected input compatible with type int, got '{n}'."⟩) := by
  simp only [Parser.run, Parser.integer, Parser.toWhole, readInt?_toString]
  by_cases hfits : Convertible n
  · simp only [if_pos hfits]
    rfl
  · simp only [if_neg hfits]
    rfl

/-- A number on a line is read as it was written, or reported. -/
theorem argument_toString {i : Nat} (hregistry : c.registry = .builtin)
    (harg : c.arguments[i]? = some (toString n)) (name : String) :
    c.argument i (.text name) (some (.kind .int)) =
      (.ok (.int (readBack n)), (overlong (i + 1) name n).foldl Context.write c) := by
  have hparser : c.parserOf (some (.kind .int)) = .ok (some .integer) := by
    rw [Context.parserOf, hregistry]
    rfl
  have hindex : ¬ (i : Int) < 0 := by omega
  simp only [Context.argument, if_neg hindex, hparser, Int.toNat_natCast, Context.argumentAt, harg,
    Context.readRaw, run_integer, readBack, overlong]
  by_cases hfits : Convertible n
  · simp only [if_pos hfits]
    rfl
  · simp only [if_neg hfits]
    rfl

/-- What is logged of the two numbers on a line. -/
def complaints (a b : Int) : List Message :=
  overlong 1 "left" a ++ overlong 2 "right" b

/-- The handler of `add` reads both numbers and logs their sum, unless what is logged of them counts
as an error. -/
theorem run_addProgram (hregistry : t.context.registry = .builtin)
    (hargs : t.context.arguments = [toString a, toString b])
    (hd : d = (complaints a b).foldl Context.write t.context) :
    addProgram.run reenter t =
      if d.hasErrors then (.ok (), { t with context := d })
      else (Program.log (.int (readBack a + readBack b)) .done).run reenter
        { t with context := d } := by
  let c := (overlong 1 "left" a).foldl Context.write t.context
  have hregistry' : c.registry = .builtin :=
    (foldl_write_keeps Context.registry (fun _ _ => rfl) _ _).trans hregistry
  have hargs' : c.arguments = [toString a, toString b] :=
    (foldl_write_keeps Context.arguments (fun _ _ => rfl) _ _).trans hargs
  have hleft : t.context.argument 0 (.text "left") (some (.kind .int)) =
      (.ok (.int (readBack a)), c) :=
    argument_toString (i := 0) hregistry (by rw [hargs]; rfl) "left"
  have hright : c.argument 1 (.text "right") (some (.kind .int)) =
      (.ok (.int (readBack b)), d) := by
    rw [hd, complaints, List.foldl_append]
    exact argument_toString (i := 1) hregistry' (by rw [hargs']; rfl) "right"
  have hsum (x y : Int) : (Value.int x).sum (.int y) = .ok (.int (x + y)) := rfl
  simp only [addProgram, Program.run, Program.onward, Query.run, hleft, hright, Value.truthy, hsum]
  cases d.hasErrors with
  | true => simp only [if_true, Program.run]
  | false => simp only [Bool.false_eq_true, if_false]

/-- Logging a number leaves its entry, or that of the failure over it. Even then it is remembered
that a message was to be logged. -/
theorem settle_log (reenter : Dispatcher) (t : Shell) (n : Int) :
    ∃ u, Shell.settle ((Program.log (.int n) .done).run reenter t) = { t with context := u } ∧
      u.logged = t.context.logged ++ [sumEntry n] ∧
      u.journal = t.context.journal.write (sumEntry n) ∧
      (u.hasErrors = true ↔ t.context.hasErrors = true ∨ .message ∈ t.context.errorSeverities ∨
        ¬ Convertible n ∧ .error ∈ t.context.errorSeverities) := by
  by_cases hfits : Convertible n
  · refine ⟨t.context.write { text := toString n }, ?_, ?_, ?_, ?_⟩
    · simp only [Program.log, Program.run, Query.run, Context.log, Value.render_int, if_pos hfits]
      rfl
    · rw [sumEntry, if_pos hfits]
      rfl
    · rw [sumEntry, if_pos hfits]
      rfl
    · rw [hasErrors_write_iff]
      simp [hfits]
  · let heeded : Context := { t.context with severities := t.context.severities.add .message }
    refine ⟨heeded.trigger Value.tooManyDigits.wrapped, ?_, ?_, ?_, ?_⟩
    · simp only [Program.log, Program.run, Query.run, Context.log, Value.render_int, if_neg hfits]
      rfl
    · rw [sumEntry, if_neg hfits]
      rfl
    · rw [sumEntry, if_neg hfits]
      rfl
    · have herror : Value.tooManyDigits.wrapped.entry.severity = .error := rfl
      rw [Context.trigger, hasErrors_write_iff, hasErrors_add_iff, herror, or_assoc]
      simp [hfits, heeded]

/-- A line that calls `add` with two numbers. -/
def addLine (gap : String) (a : Int) (gap' : String) (b : Int) : String :=
  "add" ++ gap ++ toString a ++ gap' ++ toString b

/-- The numbers on such a line are the arguments that `add` finds, and there are no options. -/
theorem gate_addLine (hadd : s.find? "add" = some add) (hgap : Gap gap.toList)
    (hgap' : Gap gap'.toList) (a b : Int) :
    ∃ c, s.gate (addLine gap a gap' b) = (.call add, { s with context := c }) ∧
      Silent s.context c ∧ c.arguments = [toString a, toString b] ∧ c.options = .empty := by
  have hword : PlainWord "add" := ⟨by decide, by decide, by decide⟩
  have hliteral := hword.not_reference
  let d : Operands :=
    ⟨[⟨gap.toList, .bare (toString a).toList⟩, ⟨gap'.toList, .bare (toString b).toList⟩], [], []⟩
  let text := gap.toList ++ ((toString a).toList ++ (gap'.toList ++ (toString b).toList))
  have hline : (addLine gap a gap' b).toList = "add".toList ++ text := by
    simp only [addLine, String.toList_append, List.append_assoc, text]
  have htokens : TokensAt StringAt d.arguments text [] := by
    have hlast := TokensAt.next hgap'.blank (stringAt_toString b atGap_nil) .done
    rw [List.append_nil] at hlast
    exact .next hgap.blank (stringAt_toString a (hgap'.atGap _)) hlast
  have hname : Spaced.Heads ⟨[], .bare "add".toList⟩ (addLine gap a gap' b).toList text := by
    rw [hline]
    refine heads_iff.mpr ⟨_, by simp [Blank], rfl, ?_⟩
    exact .bare hword.unquoted.nonempty hword.unquoted.unquoted hword.unquoted.solid (hgap.atGap _)
  have hcut : d.Cut text := ⟨[], htokens, .done, by simp [d, Blank]⟩
  have hnumber (n : Int) :
      Bound s.context.bindings (String.ofList (Lexeme.bare (toString n).toList).text) :=
    bound_bare (not_isReference_toString n)
  have hbound : d.Bound s.context.bindings :=
    ⟨List.forall_mem_cons.mpr ⟨hnumber a, List.forall_mem_singleton.mpr (hnumber b)⟩, by simp [d]⟩
  obtain ⟨c, hgate, hsilent, hargs, hoptions⟩ := gate_of_arguments hname (bound_bare hliteral)
    (by rwa [expanded_bare hliteral]) rfl hcut rfl hbound (by simp [d]) (by simp [d, add])
    (by simp [d, add])
  have htext (n : Int) : expand s.context.bindings
      (String.ofList (Lexeme.bare (toString n).toList).text) = toString n :=
    expanded_bare (not_isReference_toString n)
  exact ⟨c, hgate, hsilent, hargs.trans (congrArg₂ ([·, ·]) (htext a) (htext b)), hoptions⟩

/-- A line logs some messages and nothing else, and it is told whether all went well. -/
structure LogsJust (s : Shell) (line : String) (ms : List Message) (well : Prop) : Prop where
  logged : (s.dispatch line).2.context.logged = ms
  journal : (s.dispatch line).2.context.journal = ms.foldl Journal.write s.context.journal
  answer : (s.dispatch line).1 = true ↔ well

theorem severity_of_mem_complaints {m : Message} (h : m ∈ complaints a b) :
    m.severity = .error := by
  have hentry {position : Int} {name : String} {n : Int} (h : m ∈ overlong position name n) :
      m.severity = .error := by
    unfold overlong at h
    split at h
    · cases h
    · rw [List.mem_singleton.mp h]
      rfl
  exact (List.mem_append.mp h).elim hentry hentry

theorem complaints_eq_nil_iff : complaints a b = [] ↔ Convertible a ∧ Convertible b := by
  have hnone {position : Int} {name : String} (n : Int) :
      overlong position name n = [] ↔ Convertible n := by
    unfold overlong
    split <;> simp_all
  rw [complaints, List.append_eq_nil_iff, hnone, hnone]

/-- Complaints count as errors exactly if there are some and errors do. -/
theorem hasErrors_complaints (hsilent : Silent s.context c) :
    ((complaints a b).foldl Context.write c).hasErrors = true ↔
      complaints a b ≠ [] ∧ .error ∈ s.context.errorSeverities := by
  rw [hasErrors_foldl_write_iff, hsilent.hasErrors, hsilent.errorSeverities,
    or_iff_right Bool.false_ne_true]
  constructor
  · rintro ⟨m, hm, herror⟩
    exact ⟨List.ne_nil_of_mem hm, severity_of_mem_complaints hm ▸ herror⟩
  · rintro ⟨hsome, herror⟩
    obtain ⟨m, hm⟩ := List.exists_mem_of_ne_nil _ hsome
    exact ⟨m, hm, (severity_of_mem_complaints hm).symm ▸ herror⟩

theorem LogsJust.congr {line : String} {ms ms' : List Message} {well well' : Prop}
    (h : LogsJust s line ms well) (hms : ms = ms') (hwell : well ↔ well') :
    LogsJust s line ms' well' where
  logged := h.logged.trans hms
  journal := hms ▸ h.journal
  answer := h.answer.trans hwell

theorem logsJust_of_enact {line : String} {u : Context} {ms : List Message} {well : Prop}
    (h : Shell.enact Shell.reenter (s.gate line) = { s with context := u })
    (hlogged : u.logged = ms) (hjournal : u.journal = ms.foldl Journal.write s.context.journal)
    (hwell : u.hasErrors = true ↔ ¬ well) : LogsJust s line ms well where
  logged := by rw [dispatch_eq, h, hlogged]
  journal := by rw [dispatch_eq, h, hjournal]
  answer := by
    rw [dispatch_eq, h]
    simp only [Bool.not_eq_true', ← Bool.not_eq_true, hwell, not_not]

/-- Either the complaints about the numbers are all that `add` logs, or its sum follows them. -/
theorem logsJust_addLine (hadd : s.find? "add" = some add)
    (hregistry : s.context.registry = .builtin) (hgap : Gap gap.toList) (hgap' : Gap gap'.toList)
    (a b : Int) :
    if complaints a b ≠ [] ∧ .error ∈ s.context.errorSeverities then
      LogsJust s (addLine gap a gap' b) (complaints a b) False
    else LogsJust s (addLine gap a gap' b) (complaints a b ++ [sumEntry (readBack a + readBack b)])
      (.message ∉ s.context.errorSeverities ∧
        (Convertible (readBack a + readBack b) ∨ .error ∉ s.context.errorSeverities)) := by
  obtain ⟨c, hgate, hsilent, hargs, _⟩ := gate_addLine hadd hgap hgap' a b
  let d := (complaints a b).foldl Context.write c
  have hlogged : d.logged = complaints a b := by
    rw [foldl_write_logged, hsilent.logged, List.nil_append]
  have hjournal : d.journal = (complaints a b).foldl Journal.write s.context.journal := by
    rw [foldl_write_journal, hsilent.journal]
  have hseverities : d.errorSeverities = s.context.errorSeverities :=
    (foldl_write_keeps Context.errorSeverities (fun _ _ => rfl) _ _).trans hsilent.errorSeverities
  have henact : Shell.enact Shell.reenter (s.gate (addLine gap a gap' b)) =
      Shell.settle (addProgram.run Shell.reenter { s with context := c }) := by
    rw [hgate]
    rfl
  rw [run_addProgram (hsilent.registry.trans hregistry) hargs rfl] at henact
  have herrors := hasErrors_complaints hsilent (a := a) (b := b)
  split
  next h =>
    rw [if_pos (herrors.mpr h)] at henact
    exact logsJust_of_enact henact hlogged hjournal (by simp [herrors, h])
  next h =>
    rw [if_neg (mt herrors.mp h)] at henact
    obtain ⟨u, hsettle, hlogged', hjournal', hwell⟩ :=
      settle_log Shell.reenter { s with context := d } (readBack a + readBack b)
    refine logsJust_of_enact (henact.trans hsettle) ?_ ?_ ?_
    · rw [hlogged', hlogged]
    · rw [hjournal', hjournal, List.foldl_append]
      rfl
    · rw [hwell, or_iff_right (mt herrors.mp h), hseverities, not_and_or, not_not, not_or, not_not]

/-- What is read of the numbers on a line can be added where one of them has too many digits. -/
theorem convertible_readBack_add (h : ¬ (Convertible a ∧ Convertible b)) :
    Convertible (readBack a + readBack b) := by
  have hzero : Convertible 0 := by decide
  have hread (n : Int) : Convertible (readBack n) := by
    unfold readBack
    split
    · assumption
    · exact hzero
  by_cases ha : Convertible a
  · rw [show readBack b = 0 from if_neg fun hb => h ⟨ha, hb⟩, Int.add_zero]
    exact hread a
  · rw [show readBack a = 0 from if_neg ha, Int.zero_add]
    exact hread b

/-- The command `add` adds. In a shell that has it and reads whole numbers as ever, it is called on
the decimal texts of any two numbers, whatever white space parts them, and neither is taken for an
option. If both can be converted then their sum is logged, and nothing else; over a sum with too many
digits the command fails. A number with too many digits is reported as a wrong argument, the left one
first, and then nothing is added, unless the host has it that errors do not count. -/
theorem add_adds (hadd : s.find? "add" = some add) (hregistry : s.context.registry = .builtin)
    (hgap : Gap gap.toList) (hgap' : Gap gap'.toList) (a b : Int) :
    (∃ c, s.gate (addLine gap a gap' b) = (.call add, { s with context := c }) ∧
      c.arguments = [toString a, toString b] ∧ c.options = .empty) ∧
    (Convertible a → Convertible b → Convertible (a + b) →
      LogsJust s (addLine gap a gap' b) [{ text := toString (a + b) }]
        (.message ∉ s.context.errorSeverities)) ∧
    (Convertible a → Convertible b → ¬ Convertible (a + b) →
      LogsJust s (addLine gap a gap' b) [Value.tooManyDigits.wrapped.entry]
        (.message ∉ s.context.errorSeverities ∧ .error ∉ s.context.errorSeverities)) ∧
    (¬ (Convertible a ∧ Convertible b) → .error ∈ s.context.errorSeverities →
      LogsJust s (addLine gap a gap' b) (overlong 1 "left" a ++ overlong 2 "right" b) False) ∧
    (¬ (Convertible a ∧ Convertible b) → .error ∉ s.context.errorSeverities →
      LogsJust s (addLine gap a gap' b)
        (overlong 1 "left" a ++ overlong 2 "right" b ++
          [{ text := toString (readBack a + readBack b) }])
        (.message ∉ s.context.errorSeverities)) := by
  obtain ⟨c, hgate, _, hargs, hoptions⟩ := gate_addLine hadd hgap hgap' a b
  have hlogs := logsJust_addLine hadd hregistry hgap hgap' a b
  refine ⟨⟨c, hgate, hargs, hoptions⟩, ?_, ?_, ?_, ?_⟩
  · intro ha hb hsum
    have hnone : complaints a b = [] := complaints_eq_nil_iff.mpr ⟨ha, hb⟩
    rw [if_neg fun h => h.1 hnone, readBack, if_pos ha, readBack, if_pos hb] at hlogs
    refine hlogs.congr ?_ (and_iff_left (.inl hsum))
    rw [hnone, sumEntry, if_pos hsum, List.nil_append]
  · intro ha hb hsum
    have hnone : complaints a b = [] := complaints_eq_nil_iff.mpr ⟨ha, hb⟩
    rw [if_neg fun h => h.1 hnone, readBack, if_pos ha, readBack, if_pos hb] at hlogs
    refine hlogs.congr ?_ (and_congr_right fun _ => or_iff_right hsum)
    rw [hnone, sumEntry, if_neg hsum, List.nil_append]
  · intro hlong herror
    rw [if_pos ⟨mt complaints_eq_nil_iff.mp hlong, herror⟩] at hlogs
    exact hlogs
  · intro hlong herror
    have hsum := convertible_readBack_add hlong
    rw [if_neg fun h => herror h.2] at hlogs
    refine hlogs.congr ?_ (and_iff_left (.inl hsum))
    rw [sumEntry, if_pos hsum, complaints]

/-- The least number with too many digits. -/
def overlongNumber : Int :=
  Nat.pow 10 digitLimit

theorem not_convertible_overlongNumber : ¬ Convertible overlongNumber := by
  have hlength := Nat.length_toDigits_le_iff (n := 10 ^ digitLimit) (k := digitLimit)
    (show 1 < 10 by decide) (by decide)
  rw [Convertible, magnitude, overlongNumber, Int.natAbs_natCast, Nat.pow_eq, hlength]
  exact Nat.lt_irrefl _

/-- The shell of the demonstration adds a negative number to another one, and refuses one that is
too long. -/
theorem add_adds_demo : ∃ s : Shell, shell ⟨0, 0⟩ = .ok s ∧ s.find? "add" = some add ∧
    s.context.registry = .builtin ∧ Gap " ".toList ∧ Gap "\t ".toList ∧
    Convertible 2 ∧ Convertible (-5) ∧ ¬ Convertible overlongNumber ∧
    .error ∈ s.context.errorSeverities ∧ .message ∉ s.context.errorSeverities ∧
    LogsJust s "add 2\t -5" [{ text := "-3" }] True ∧
    LogsJust s (addLine " " 2 " " overlongNumber) (overlong 2 "right" overlongNumber) False := by
  obtain ⟨s, hs, hadd, hregistry, herrors⟩ : ∃ s : Shell, shell ⟨0, 0⟩ = .ok s ∧
      s.find? "add" = some add ∧ s.context.registry = .builtin ∧
      s.context.errorSeverities = Context.defaultErrors := ⟨_, rfl, rfl, rfl, rfl⟩
  have hgap : Gap " ".toList := gap_space
  have hgap' : Gap "\t ".toList := ⟨by simp [Blank]; decide, by simp⟩
  have herror : .error ∈ s.context.errorSeverities := by
    rw [herrors]
    decide
  have hmessage : .message ∉ s.context.errorSeverities := by
    rw [herrors]
    decide
  have htwo : Convertible 2 := by decide
  have hfive : Convertible (-5) := by decide
  have hlong := not_convertible_overlongNumber
  obtain ⟨_, hadds, _⟩ := add_adds hadd hregistry hgap hgap' 2 (-5)
  obtain ⟨_, _, _, hrefuses, _⟩ := add_adds hadd hregistry hgap hgap 2 overlongNumber
  refine ⟨s, hs, hadd, hregistry, hgap, hgap', htwo, hfive, hlong, herror, hmessage, ?_, ?_⟩
  · exact (hadds htwo hfive (by decide)).congr (by decide) (iff_true_intro hmessage)
  · refine (hrefuses (fun h => hlong h.2) herror).congr ?_ .rfl
    rw [overlong, if_pos htwo, List.nil_append]

end Demo

end LineShell
