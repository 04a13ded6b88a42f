import LineShell.Proofs.Context.Reading
import LineShell.Proofs.Line.Separation

/-! What separates the tokens of a line that is read to its end: white space, or a closing quote,
behind which the next token may follow at once. -/
namespace LineShell

open LineShell.Line LineShell.Text

instance (bindings : NameMap String) (token : String) : Decidable (Bound bindings token) :=
  inferInstanceAs (Decidable (∀ name ∈ reference? token, (bindings.find? name).isSome))

instance (bindings : NameMap String) (d : Segments) : Decidable (d.Bound bindings) :=
  inferInstanceAs (Decidable (LineShell.Bound bindings (String.ofList d.name.token.text) ∧
    (∀ t ∈ d.operands.arguments, LineShell.Bound bindings (String.ofList t.token.text)) ∧
    ∀ t ∈ d.operands.options, ∀ a ∈ t.token.assignment,
      LineShell.Bound bindings (String.ofList a.value.text)))

/-- If a line is read to its end, there is one way to cut it into tokens, and between any two that
follow one another there is white space, or the first of them ends with a closing quote. Behind a
closing quote none is needed: any tokens that stand apart in this sense, and only these, make up a
line, which is read as these tokens. -/
theorem white_space_between_tokens (c : Context) :
    (∀ line r, c.readLine line = .ok r → r.complete = true →
      ∃ d : Segments, d.Cut line.toList ∧ (∀ d' : Segments, d'.Cut line.toList → d' = d) ∧
        d.tokens.IsChain Apart) ∧
    ∀ d : Segments, d.Spelled → d.Bound c.bindings →
      (d.Cut d.spelling ↔ d.tokens.IsChain Apart) ∧
      (d.tokens.IsChain Apart → ∃ r, c.reset.readLine (String.ofList d.spelling) = .ok r ∧
        r.complete = true ∧ r.context.commandName = some (d.name.expanded c.bindings) ∧
        r.context.arguments = d.operands.texts c.bindings ∧
        r.context.options = NameMap.empty.insertAll (d.operands.entries c.bindings)) := by
  refine ⟨fun line r hr hcomplete => ?_, fun d hspelled hbound => ⟨cut_spelling_iff hspelled, ?_⟩⟩
  · obtain ⟨d, hcut, _⟩ := cut_of_readLine hr hcomplete
    exact ⟨d, hcut, fun d' hcut' => hcut'.unique hcut, apart_of_tokensAt hcut.tokensAt⟩
  · intro hchain
    have hcut := (cut_spelling_iff hspelled).mpr hchain
    rw [← String.toList_ofList (l := d.spelling)] at hcut
    obtain ⟨t, ht, _, htexts, hentries⟩ := readLine_of_cut (c := c.reset) hcut hbound
    exact ⟨_, ht, rfl, rfl, htexts, congrArg NameMap.empty.insertAll hentries⟩

theorem white_space_between_tokens_glued : ∃ d : Segments,
    String.ofList d.spelling = "\"go\"\"a b\"c -x = \"1\"-y " ∧ d.Spelled ∧
      d.Bound (.empty : NameMap String) ∧ d.tokens.IsChain Apart ∧
      ∃ r, (Context.fresh (.empty 1 Nat.one_pos)).reset.readLine
          "\"go\"\"a b\"c -x = \"1\"-y " = .ok r ∧ r.complete = true ∧
        r.context.commandName = some "go" ∧ r.context.arguments = ["a b", "c"] ∧
        r.context.options.entries = [("x", some "1"), ("y", none)] ∧
        ∃ d' : Segments, d'.Cut "\"go\"\"a b\"c -x = \"1\"-y ".toList ∧ d'.tokens.IsChain Apart := by
  let d : Segments :=
    { name := ⟨[], .quoted ['g', 'o']⟩
      operands :=
        { arguments := [⟨[], .quoted ['a', ' ', 'b']⟩, ⟨[], .bare ['c']⟩]
          options := [⟨[' '], ⟨['x'], some ⟨[' '], [' '], .quoted ['1']⟩⟩⟩, ⟨[], ⟨['y'], none⟩⟩]
          tail := [' '] } }
  have hspelled : d.Spelled := by decide +kernel
  have hbound : d.Bound (.empty : NameMap String) := by decide +kernel
  have hchain : d.tokens.IsChain Apart := by decide
  have hseparation := white_space_between_tokens (Context.fresh (.empty 1 Nat.one_pos)).reset
  obtain ⟨r, hr, hcomplete, hname, harguments, hoptions⟩ := (hseparation.2 d hspelled hbound).2 hchain
  obtain ⟨d', hcut, _, hchain'⟩ := hseparation.1 _ r hr hcomplete
  refine ⟨d, by decide, hspelled, hbound, hchain, r, hr, hcomplete, hname.trans ?_,
    harguments.trans ?_, ?_, d', hcut, hchain'⟩
  · decide +kernel
  · decide +kernel
  · rw [hoptions]
    decide +kernel

/-- A line need not have white space in it to hold two tokens. -/
theorem glued_argument_read : ∃ (d : Segments) (r : LineReading),
    (Context.fresh (.empty 1 Nat.one_pos)).readLine "\"a\"\"b\"" = .ok r ∧ r.complete = true ∧
      r.context.commandName = some "a" ∧ r.context.arguments = ["b"] ∧
      d.Cut "\"a\"\"b\"".toList ∧ d.tokens.length = 2 ∧
      "\"a\"\"b\"".toList.any isBlank = false := by
  let d : Segments := ⟨⟨[], .quoted ['a']⟩, ⟨[⟨[], .quoted ['b']⟩], [], []⟩⟩
  have hspelled : d.Spelled := by decide +kernel
  have hcut : d.Cut "\"a\"\"b\"".toList := (cut_spelling_iff hspelled).mpr (by decide)
  have hbound : d.Bound (.empty : NameMap String) := by decide +kernel
  obtain ⟨t, ht, _, harguments, _⟩ :=
    readLine_of_cut (c := Context.fresh (.empty 1 Nat.one_pos)) hcut hbound
  have hname : d.name.expanded (.empty : NameMap String) = "a" := by decide +kernel
  refine ⟨d, _, ht, rfl, congrArg some hname, harguments.trans ?_, hcut, rfl, by decide⟩
  decide +kernel

end LineShell
