import LineShell.Context.Scan
import LineShell.Proofs.Line.Segments
import Mathlib.Data.List.DropRight

/-! What the scans of arguments and options read of a text, in terms of its tokens. Both are one
loop: tokens are taken up to the first one that is none or that refers to an unbound name. -/
namespace LineShell

open LineShell.Line LineShell.Text

variable {bindings : NameMap String} {token text name : String} {s : Scanner}

/-- If a token is a reference, the name in it is bound. -/
def Bound (bindings : NameMap String) (token : String) : Prop :=
  ∀ name, reference? token = some name → (bindings.find? name).isSome

/-- A token with the value of its reference in its place. -/
def expand (bindings : NameMap String) (token : String) : String :=
  match reference? token with
  | none => token
  | some name => (bindings.find? name).getD token

theorem lookUp_of_bound (h : Bound bindings token) :
    lookUp bindings token = .ok (expand bindings token) := by
  unfold lookUp expand
  cases href : reference? token with
  | none => rfl
  | some name =>
    obtain ⟨value, hvalue⟩ := Option.isSome_iff_exists.mp (h name href)
    simp [hvalue]

theorem bound_of_lookUp (h : lookUp bindings token = .ok text) : Bound bindings token := by
  intro name href
  rw [lookUp, href] at h
  dsimp only at h
  cases hvalue : bindings.find? name with
  | none => simp [hvalue] at h
  | some value => rfl

/-- A look-up that succeeds was of a bound token. -/
theorem expand_of_lookUp (h : lookUp bindings token = .ok text) :
    Bound bindings token ∧ text = expand bindings token := by
  have hbound := bound_of_lookUp h
  rw [lookUp_of_bound hbound] at h
  exact ⟨hbound, (Except.ok.inj h).symm⟩

/-- A token is a reference to a variable that is not bound. -/
def Unbound (bindings : NameMap String) (token missing : String) : Prop :=
  reference? token = some missing ∧ bindings.find? missing = none

theorem lookUp_eq_error : lookUp bindings token = .error name ↔ Unbound bindings token name := by
  unfold lookUp Unbound
  cases reference? token with
  | none => simp
  | some missing =>
    dsimp only
    split
    next value hvalue =>
      refine ⟨fun h => (nomatch h), fun h => ?_⟩
      rw [Option.some.inj h.1, h.2] at hvalue
      cases hvalue
    next hnone =>
      rw [Except.error.injEq, Option.some.injEq]
      exact ⟨fun h => ⟨h, h ▸ hnone⟩, fun h => h.1⟩

theorem not_bound_of_unbound (h : Unbound bindings token name) : ¬ Bound bindings token := by
  intro hbound
  have hsome := hbound name h.1
  rw [h.2] at hsome
  cases hsome

/-- A scan of a text: the tokens that were taken, their values, the name that is not bound if that
ended it, and the text from which on nothing was taken. -/
inductive Scans {α β : Type} (At : α → List Char → List Char → Prop) (value : α → Except String β) :
    List Char → List (Spaced α) → List β → Option String → List Char → Prop
  | stop {cs : List Char} (hnone : ¬ TokenAhead At cs) : Scans At value cs [] [] none cs
  | unbound {gap cs rest : List Char} {a : α} {name : String} (hgap : Blank gap)
      (htoken : At a cs rest) (hvalue : value a = .error name) :
      Scans At value (gap ++ cs) [] [] (some name) (gap ++ cs)
  | read {gap cs mid rest : List Char} {a : α} {b : β} {ts : List (Spaced α)} {bs : List β}
      {u : Option String} (hgap : Blank gap) (htoken : At a cs mid) (hvalue : value a = .ok b)
      (hmore : Scans At value mid ts bs u rest) :
      Scans At value (gap ++ cs) (⟨gap, a⟩ :: ts) (b :: bs) u rest

section Scans

variable {α β : Type} {At : α → List Char → List Char → Prop} {value : α → Except String β}
  {cs rest rest' : List Char} {ts ts' : List (Spaced α)} {bs : List β} {u : Option String}
  {f : α → β}

theorem tokensAt_of_scans (h : Scans At value cs ts bs u rest) : TokensAt At ts cs rest := by
  induction h with
  | stop => exact .done
  | unbound => exact .done
  | read hgap htoken _ _ ih => exact .next hgap htoken ih

/-- What a scan took had values. -/
theorem eq_map_of_scans {Ok : α → Prop} (hf : ∀ {a b}, value a = .ok b → Ok a ∧ b = f a)
    (h : Scans At value cs ts bs u rest) : (∀ t ∈ ts, Ok t.token) ∧ bs = ts.map (f ·.token) := by
  induction h with
  | stop => exact ⟨fun _ ht => (nomatch ht), rfl⟩
  | unbound => exact ⟨fun _ ht => (nomatch ht), rfl⟩
  | read _ _ hvalue _ ih =>
    obtain ⟨hok, hmap⟩ := ih
    obtain ⟨hfirst, rfl⟩ := hf hvalue
    exact ⟨List.forall_mem_cons.mpr ⟨hfirst, hok⟩, by rw [List.map_cons, ← hmap]⟩

/-- A scan takes all tokens of its kind, unless it ends before one that has no value. -/
theorem end_of_scans (hspace : ∀ {a cs rest}, At a cs rest → rest.length < cs.length)
    (h : Scans At value cs ts bs u rest) : ∃ us mid, TokenRun At us cs mid ∧
      (u = none ∧ us = ts ∧ mid = rest ∨
      ∃ name t text after later, u = some name ∧ us = ts ++ t :: later ∧ Blank t.gap ∧
        rest = t.gap ++ text ∧ At t.token text after ∧ value t.token = .error name) := by
  induction h with
  | stop hnone => exact ⟨[], _, ⟨.done, hnone⟩, .inl ⟨rfl, rfl, rfl⟩⟩
  | @unbound gap cs rest a name hgap htoken hvalue =>
    obtain ⟨later, mid, hrun⟩ := tokenRun_exists hspace rest
    exact ⟨_, mid, ⟨.next hgap htoken hrun.tokens, hrun.maximal⟩,
      .inr ⟨name, ⟨gap, a⟩, cs, rest, later, rfl, rfl, hgap, rfl, htoken, hvalue⟩⟩
  | read hgap htoken hvalue _ ih =>
    obtain ⟨us, mid, hrun, hend⟩ := ih
    refine ⟨_, mid, ⟨.next hgap htoken hrun.tokens, hrun.maximal⟩, ?_⟩
    rcases hend with ⟨hnone, rfl, rfl⟩ | ⟨name, t, text, after, later, hname, rfl, hstop⟩
    · exact .inl ⟨hnone, rfl, rfl⟩
    · exact .inr ⟨name, t, text, after, later, hname, rfl, hstop⟩

/-- A scan that took something started with a token that has a value. -/
theorem head_of_scans (h : Scans At value cs ts bs u rest) (hsome : bs ≠ []) :
    ∃ gap text a mid b, Blank gap ∧ cs = gap ++ text ∧ At a text mid ∧ value a = .ok b := by
  cases h with
  | stop => exact absurd rfl hsome
  | unbound => exact absurd rfl hsome
  | read hgap htoken hvalue _ => exact ⟨_, _, _, _, _, hgap, rfl, htoken, hvalue⟩

/-- Where all tokens have values, a scan takes them all. -/
theorem scans_unique {Ok : α → Prop} (hs : Scans At value cs ts' bs u rest') (hk : TokenKind At)
    (hspace : ∀ {a cs rest}, At a cs rest → rest.length < cs.length)
    (hf : ∀ {a b}, value a = .ok b → Ok a ∧ b = f a) (hrun : TokenRun At ts cs rest)
    (hvalues : ∀ t ∈ ts, value t.token = .ok (f t.token)) : u = none ∧ bs = ts.map (f ·.token) ∧ rest' = rest := by
  obtain ⟨us, mid, hrun', hend⟩ := end_of_scans hspace hs
  obtain ⟨rfl, rfl⟩ := hrun'.unique hk hrun
  rcases hend with ⟨hu, rfl, rfl⟩ | ⟨_, t, _, _, later, _, rfl, _, _, _, herror⟩
  · exact ⟨hu, (eq_map_of_scans hf hs).2, rfl⟩
  · rw [hvalues t (by simp)] at herror
    cases herror

end Scans

/-- The text of an argument with its reference replaced. -/
def argumentValue (bindings : NameMap String) (l : Lexeme) : Except String String :=
  lookUp bindings (String.ofList l.text)

/-- An option with the reference in its value replaced. -/
def entryValue (bindings : NameMap String) (o : OptionLexeme) :
    Except String (String × Option String) :=
  optionOf bindings o.token

theorem stringAt_of_string? {t : Scanner} (h : s.string? = some (token, t)) :
    ∃ l, token = String.ofList l.text ∧ StringAt l s.rest t.rest := by
  obtain ⟨l, hl, hacc⟩ := Option.map_eq_some_iff.mp h
  obtain ⟨rest, hrest⟩ := readString?_iff.mp hl
  obtain ⟨rfl, rfl⟩ := Prod.mk.inj hacc
  refine ⟨l, rfl, ?_⟩
  rw [Scanner.advance_rest (nameAt_spelling hrest.1)]
  exact hrest

theorem optionAt_of_option? {o : OptionToken} {t : Scanner} (h : s.option? = some (o, t)) :
    ∃ l, o = OptionLexeme.token l ∧ OptionAt l s.rest t.rest := by
  obtain ⟨l, hl, hacc⟩ := Option.map_eq_some_iff.mp h
  obtain ⟨rest, hrest⟩ := readOption?_iff.mp hl
  obtain ⟨rfl, rfl⟩ := Prod.mk.inj hacc
  refine ⟨l, rfl, ?_⟩
  rw [Scanner.advance_rest (optionAt_spelling hrest)]
  exact hrest

theorem nameAt_of_name? {t : Scanner} (h : s.name? = some (token, t)) :
    ∃ l, token = String.ofList l.text ∧ NameAt l s.rest t.rest := by
  obtain ⟨l, hl, hacc⟩ := Option.map_eq_some_iff.mp h
  obtain ⟨rest, hrest⟩ := readName?_iff.mp hl
  obtain ⟨rfl, rfl⟩ := Prod.mk.inj hacc
  refine ⟨l, rfl, ?_⟩
  rw [Scanner.advance_rest (nameAt_spelling hrest)]
  exact hrest

theorem not_stringAt_of_string? (h : s.string? = none) (l : Lexeme) (rest : List Char) :
    ¬ StringAt l s.rest rest := by
  intro htoken
  rw [Scanner.string?, readString?_iff.mpr ⟨rest, htoken⟩] at h
  cases h

theorem not_optionAt_of_option? (h : s.option? = none) (o : OptionLexeme) (rest : List Char) :
    ¬ OptionAt o s.rest rest := by
  intro htoken
  rw [Scanner.option?, readOption?_iff.mpr ⟨rest, htoken⟩] at h
  cases h

/-- Texts that differ in leading white space hold the same tokens. -/
theorem tokenAhead_dropWhile {α : Type} {At : α → List Char → List Char → Prop} {cs : List Char}
    (hk : TokenKind At) (h : TokenAhead At cs) : ∃ a rest, At a (cs.dropWhile isBlank) rest := by
  obtain ⟨gap, a, text, rest, hgap, rfl, htoken⟩ := h
  refine ⟨a, rest, ?_⟩
  rw [dropWhile_run hgap (hk.solid htoken)]
  exact htoken

theorem tokenAhead_of_dropWhile {α : Type} {At : α → List Char → List Char → Prop} {a : α}
    {cs rest : List Char} (h : At a (cs.dropWhile isBlank) rest) : TokenAhead At cs :=
  ⟨_, a, _, rest, blank_takeWhile cs, eq_takeWhile_append _ cs, h⟩

/-- A loop that reads tokens and skips the white space after each: the values of the tokens, the
name that is not bound if that ended it, and the scanner where it ended. -/
inductive Loop {τ β : Type} (read : Scanner → Option (τ × Scanner)) (value : τ → Except String β) :
    Scanner → List β → Option String → Scanner → Prop
  | stop {s : Scanner} (hread : read s = none) : Loop read value s [] none s
  | unbound {s t : Scanner} {token : τ} {name : String} (hread : read s = some (token, t))
      (hvalue : value token = .error name) : Loop read value s [] (some name) s
  | next {s t e : Scanner} {token : τ} {b : β} {bs : List β} {u : Option String}
      (hread : read s = some (token, t)) (hvalue : value token = .ok b)
      (hmore : Loop read value t.skipBlanks bs u e) : Loop read value s (b :: bs) u e

/-- A loop stays on its line. -/
theorem source_of_loop {τ β : Type} {read : Scanner → Option (τ × Scanner)}
    {value : τ → Except String β} {s e : Scanner} {bs : List β} {u : Option String}
    (hread : ∀ {s t token}, read s = some (token, t) → t.source = s.source)
    (h : Loop read value s bs u e) : e.source = s.source := by
  induction h with
  | stop => rfl
  | unbound => rfl
  | @next s t _ _ _ _ _ htoken _ _ ih =>
    have hskip : t.skipBlanks.source = t.source := Scanner.advance_source t _
    exact ih.trans (hskip.trans (hread htoken))

theorem loop_arguments (bindings : NameMap String) (s : Scanner) :
    Loop Scanner.string? (lookUp bindings) s (scanArguments bindings s).arguments
      (scanArguments bindings s).unbound (scanArguments bindings s).scanner := by
  fun_induction scanArguments bindings s with
  | case1 s hread => exact .stop hread
  | case2 s token t hread name hvalue => exact .unbound hread hvalue
  | case3 s token t hread text hvalue tail ih => exact .next hread hvalue ih

theorem loop_options (bindings : NameMap String) (s : Scanner) :
    Loop Scanner.option? (optionOf bindings) s (scanOptions bindings s).options
      (scanOptions bindings s).unbound (scanOptions bindings s).scanner := by
  fun_induction scanOptions bindings s with
  | case1 s hread => exact .stop hread
  | case2 s token t hread name hvalue => exact .unbound hread hvalue
  | case3 s token t hread entry hvalue tail ih => exact .next hread hvalue ih

/-- A loop whose reader takes the tokens of a kind scans a text for them. -/
theorem scans_of_loop {α β τ : Type} {At : α → List Char → List Char → Prop}
    {value : α → Except String β} {read : Scanner → Option (τ × Scanner)}
    {found : τ → Except String β} (hk : TokenKind At)
    (hsome : ∀ {s t token}, read s = some (token, t) →
      ∃ a, value a = found token ∧ At a s.rest t.rest)
    (hnone : ∀ {s}, read s = none → ∀ a rest, ¬ At a s.rest rest)
    {s e : Scanner} {bs : List β} {u : Option String} (h : Loop read found s bs u e)
    {cs : List Char} (hs : s.rest = cs.dropWhile isBlank) :
    ∃ ts rest, Scans At value cs ts bs u rest ∧ e.rest = rest.dropWhile isBlank := by
  have hcs : cs = cs.takeWhile isBlank ++ s.rest := by rw [hs]; exact eq_takeWhile_append _ cs
  have hgap := blank_takeWhile cs
  induction h generalizing cs with
  | stop hread =>
    refine ⟨[], cs, .stop ?_, hs⟩
    intro hahead
    obtain ⟨a, rest, htoken⟩ := tokenAhead_dropWhile hk hahead
    rw [← hs] at htoken
    exact hnone hread a rest htoken
  | unbound hread hvalue =>
    obtain ⟨a, ha, htoken⟩ := hsome hread
    refine ⟨[], cs, ?_, hs⟩
    rw [hcs]
    exact .unbound hgap htoken (ha.trans hvalue)
  | @next s t e token b bs u hread hvalue _ ih =>
    obtain ⟨a, ha, htoken⟩ := hsome hread
    have hrest : t.rest = t.rest.takeWhile isBlank ++ t.skipBlanks.rest := by
      rw [Scanner.skipBlanks_rest]
      exact eq_takeWhile_append _ _
    obtain ⟨ts, rest, hscans, hend⟩ := ih t.skipBlanks_rest hrest (blank_takeWhile t.rest)
    have hread' := Scans.read hgap htoken (ha.trans hvalue) hscans
    rw [← hcs] at hread'
    exact ⟨_, rest, hread', hend⟩

theorem scans_arguments (bindings : NameMap String) (s : Scanner) {cs : List Char}
    (hs : s.rest = cs.dropWhile isBlank) : ∃ ts rest,
      Scans StringAt (argumentValue bindings) cs ts (scanArguments bindings s).arguments
        (scanArguments bindings s).unbound rest ∧
      (scanArguments bindings s).scanner.rest = rest.dropWhile isBlank := by
  refine scans_of_loop stringAt_kind ?_ not_stringAt_of_string? (loop_arguments bindings s) hs
  intro s t token hread
  obtain ⟨l, rfl, htoken⟩ := stringAt_of_string? hread
  exact ⟨l, rfl, htoken⟩

theorem scans_options (bindings : NameMap String) (s : Scanner) {cs : List Char}
    (hs : s.rest = cs.dropWhile isBlank) : ∃ ts rest,
      Scans OptionAt (entryValue bindings) cs ts (scanOptions bindings s).options
        (scanOptions bindings s).unbound rest ∧
      (scanOptions bindings s).scanner.rest = rest.dropWhile isBlank := by
  refine scans_of_loop optionAt_kind ?_ not_optionAt_of_option? (loop_options bindings s) hs
  intro s t token hread
  obtain ⟨o, rfl, htoken⟩ := optionAt_of_option? hread
  exact ⟨o, rfl, htoken⟩

end LineShell
