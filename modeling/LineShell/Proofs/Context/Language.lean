import LineShell.Proofs.Context.Reading

/-! The lines that can be read, and what their reading leaves in the context. -/
namespace LineShell

open LineShell.Line

/-- A context that starts over reads a line to its end exactly if the line can be cut into a command
name, arguments and options whose references are all bound. There is no second way to cut it. What
is left is what was read: an option that is repeated stands where it first came with its last value,
and nothing is logged. -/
theorem readLine_language (c : Context) (line : String) : ∃ r, c.reset.readLine line = .ok r ∧
    (r.complete = true ↔ ∃ d : Segments, d.Cut line.toList ∧ d.Bound c.bindings) ∧
    ∀ d : Segments, d.Cut line.toList →
      (∀ d' : Segments, d'.Cut line.toList → d' = d) ∧
      (d.Bound c.bindings →
        r.context.commandName = some (d.name.expanded c.bindings) ∧
        r.context.arguments = d.operands.texts c.bindings ∧
        r.context.options.keys =
          ((d.operands.entries c.bindings).map (normalize ·.1)).eraseDups ∧
        (∀ name, r.context.options.find? name =
          NameMap.lastUnder (d.operands.entries c.bindings) name) ∧
        (∃ u, r.context.scanner = some u ∧ u.isEmpty = true) ∧
        r.context.logged = [] ∧ r.context.journal = c.journal) := by
  obtain ⟨u, hu⟩ := readName_scanner c.reset line
  have hr := readLine_eq rfl hu
  refine ⟨_, hr, ?_, ?_⟩
  · constructor
    · intro hcomplete
      exact cut_of_readLine (c := c.reset) hr hcomplete
    · rintro ⟨d, hcut, hbound⟩
      obtain ⟨t, ht, _⟩ := readLine_of_cut (c := c.reset) hcut hbound
      rw [Except.ok.inj (hr.symm.trans ht)]
      rfl
  · intro d hcut
    refine ⟨fun d' hcut' => hcut'.unique hcut, ?_⟩
    intro hbound
    obtain ⟨t, ht, hall, htexts, hentries⟩ := readLine_of_cut (c := c.reset) hcut hbound
    rw [Context.reset_bindings] at htexts hentries
    rw [Except.ok.inj (hr.symm.trans ht)]
    refine ⟨rfl, htexts, ?_, ?_, ⟨_, rfl, hall.2.2⟩, rfl, rfl⟩
    · rw [← hentries]
      exact NameMap.keys_insertAll _
    · intro name
      rw [← hentries]
      exact NameMap.find?_insertAll _ name

end LineShell
