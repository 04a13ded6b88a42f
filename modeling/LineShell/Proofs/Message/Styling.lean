import LineShell.Shape

/-! Styles and texts of a shown message. Styles decide neither which texts are shown nor how these
are nested: without its styles a shape is the one that is shown without colours. Main statement:
whatever styles a host gives, the texts of a message are its header, its body, its hint and its
trace, each of them if there is one, and the header stands in front of the others or in the frame
around them. -/
namespace LineShell

variable (look : Look) (styles : List (String × String)) (colorful fancy : Bool) (m : Message)
  (code : FaultCode)

/-- The text alone, without its style and those of its parts. -/
def StyledText.bare (t : StyledText) : StyledText := ⟨t.text, "", []⟩

namespace Shape

mutual

/-- The shape without any styles: its texts alone, nested as they are. -/
def bare : Shape → Shape
  | .text t => .text t.bare
  | .group members => .group (bareMembers members)
  | .panel body title => .panel body.bare title.bare

/-- Shapes without any styles. -/
def bareMembers : List Shape → List Shape
  | [] => []
  | shape :: shapes => shape.bare :: bareMembers shapes

end

mutual

/-- The texts of a shape from top to bottom, the title of a panel before its body. -/
def texts : Shape → List StyledText
  | .text t => [t]
  | .group members => memberTexts members
  | .panel body title => title :: body.texts

/-- The texts of several shapes. -/
def memberTexts : List Shape → List StyledText
  | [] => []
  | shape :: shapes => shape.texts ++ memberTexts shapes

end

/-- Where the header of a shown message stands, if it has one: as the title of a panel, or in front
of the other members of a group. -/
inductive Headed : (fancy : Bool) → (header : Option String) → Shape → Prop
  | panel (body : Shape) (title : StyledText) : Headed true (some title.text) (.panel body title)
  | group (t : StyledText) (below : List Shape) :
    Headed false (some t.text) (.group (.text t :: below))
  | single (fancy : Bool) (t : StyledText) : Headed fancy none (.text t)
  | several (fancy : Bool) (members : List Shape) : Headed fancy none (.group members)

/-- Texts one below the other, with a header in front of them or in the frame around them. A text on
its own is no group. -/
def arranged (fancy : Bool) : (header : Option StyledText) → List StyledText → Shape
  | none, [t] => .text t
  | none, ts => .group (ts.map .text)
  | some header, ts =>
    if fancy then .panel (.group (ts.map .text)) header else .group (.text header :: ts.map .text)

theorem bareMembers_texts (ts : List StyledText) :
    bareMembers (ts.map .text) = (ts.map StyledText.bare).map .text := by
  induction ts with
  | nil => rfl
  | cons t ts ih => simp only [List.map_cons, bareMembers, bare, ih]

theorem memberTexts_texts (ts : List StyledText) : memberTexts (ts.map .text) = ts := by
  induction ts with
  | nil => rfl
  | cons t ts ih => simp only [List.map_cons, memberTexts, texts, ih, List.singleton_append]

theorem bare_arranged (fancy : Bool) (header : Option StyledText) (ts : List StyledText) :
    (arranged fancy header ts).bare = arranged fancy (header.map .bare) (ts.map .bare) := by
  cases header with
  | none =>
    match ts with
    | [] => rfl
    | [t] => rfl
    | t :: u :: ts => exact congrArg group (bareMembers_texts (t :: u :: ts))
  | some header =>
    cases fancy with
    | false => exact congrArg group (congrArg (_ :: ·) (bareMembers_texts ts))
    | true => exact congrArg (panel · header.bare) (congrArg group (bareMembers_texts ts))

theorem texts_arranged (fancy : Bool) (header : Option StyledText) (ts : List StyledText) :
    (arranged fancy header ts).texts = header.toList ++ ts := by
  cases header with
  | none =>
    match ts with
    | [] => rfl
    | [t] => rfl
    | t :: u :: ts => exact memberTexts_texts (t :: u :: ts)
  | some header => cases fancy <;> exact congrArg (header :: ·) (memberTexts_texts ts)

theorem headed_arranged (fancy : Bool) (header : Option StyledText) (ts : List StyledText) :
    (arranged fancy header ts).Headed fancy (header.map (·.text)) := by
  cases header with
  | none =>
    match ts with
    | [] => exact .several fancy _
    | [t] => exact .single fancy t
    | t :: u :: ts => exact .several fancy _
  | some header =>
    cases fancy with
    | false => exact .group header _
    | true => exact .panel _ header

mutual

theorem texts_bare : (shape : Shape) → shape.bare.texts = shape.texts.map StyledText.bare
  | .text _ => rfl
  | .group members => memberTexts_bareMembers members
  | .panel body title => congrArg (title.bare :: ·) (texts_bare body)

theorem memberTexts_bareMembers :
    (shapes : List Shape) → memberTexts (bareMembers shapes) = (memberTexts shapes).map .bare
  | [] => rfl
  | shape :: shapes => by
    rw [bareMembers, memberTexts, memberTexts, texts_bare, memberTexts_bareMembers,
      List.map_append]

end

end Shape

theorem stripControls_append (a b : String) :
    stripControls (a ++ b) = stripControls a ++ stripControls b := by
  simp [stripControls]

namespace StyledText

@[simp] theorem bare_plain (s style : String) : (plain s style).bare = plain s "" := rfl

theorem bare_append (t : StyledText) (piece : String × String) :
    (t.append piece).bare = t.bare.append (piece.1, "") := by
  simp [append, bare]

/-- What is put together from pieces is the same without styles as what is put together from pieces
without styles. -/
theorem bare_assemble (pieces : List (String × String)) :
    (assemble pieces).bare = assemble (pieces.map fun piece => (piece.1, "")) := by
  rw [assemble, assemble, List.foldl_map]
  exact (List.foldl_hom bare fun t piece => (bare_append t piece).symm).symm

theorem text_foldl_append (pieces : List (String × String)) (t : StyledText) :
    (pieces.foldl append t).text = t.text ++ stripControls (String.join (pieces.map (·.1))) := by
  induction pieces generalizing t with
  | nil => simp [stripControls]
  | cons piece pieces ih =>
    rw [List.foldl_cons, ih, List.map_cons, String.join_cons, stripControls_append,
      ← String.append_assoc]
    rfl

theorem text_assemble (pieces : List (String × String)) :
    (assemble pieces).text = stripControls (String.join (pieces.map (·.1))) := by
  rw [assemble, text_foldl_append, String.empty_append]

end StyledText

namespace Message

/-- The line of a header: the program, if it has a name, the label of the code and the title. -/
def headerLine (look : Look) (m : Message) (code : FaultCode) : String :=
  let program := match look.program with
    | some name => if name.isEmpty then "" else name ++ " — "
    | none => ""
  "[ " ++ program ++ look.label code ++ " | " ++ m.heading ++ " ]"

/-- The text of the header as it is shown, if the message has a code. -/
def shownHeader (look : Look) (m : Message) : Option String :=
  m.code.map fun code => stripControls (m.headerLine look code)

/-- What is shown below the header: the body, behind a prompt if it is input, a hint if there is
one, and a trace without white space at its end if there is one. -/
def linesBelow (m : Message) : List String :=
  [(if m.severity = .input then "> " else "") ++ m.text] ++
    (if m.hint = "" then [] else [" → " ++ m.hint]) ++
    if m.trace = "" then [] else [String.ofList (Text.trimRight m.trace.toList)]

theorem bare_header :
    (m.header look colorful code).bare = m.header { look with styles } false code := by
  rw [header, header, StyledText.bare_assemble]
  cases look.program with
  | none => rfl
  | some name => cases hname : name.isEmpty <;> simp [hname, Look.label]

theorem bare_parts :
    (m.parts look colorful).map StyledText.bare = m.parts { look with styles } false := by
  simp only [parts, List.map_cons, List.map_append]
  cases m.hint.isEmpty <;> cases m.trace.isEmpty <;>
    simp [StyledText.bare_assemble]

theorem text_header :
    (m.header look colorful code).text = stripControls (m.headerLine look code) := by
  rw [header, StyledText.text_assemble, headerLine]
  cases look.program with
  | none => simp [String.append_assoc]
  | some name => cases hname : name.isEmpty <;> simp [hname, String.append_assoc]

theorem text_shownHeader : (m.code.map (m.header look colorful)).map (·.text) =
    m.shownHeader { look with styles } := by
  rw [Option.map_map, shownHeader]
  exact congrArg (Option.map · m.code) (funext (text_header look colorful m))

theorem text_parts :
    (m.parts look colorful).map (·.text) = m.linesBelow.map stripControls := by
  simp only [parts, linesBelow, List.map_cons, List.map_append]
  by_cases hhint : m.hint = "" <;> by_cases htrace : m.trace = "" <;>
    simp [hhint, htrace, bodyText, StyledText.text_assemble, StyledText.plain]

theorem shape_eq_arranged : m.shape look colorful fancy =
    .arranged fancy (m.code.map (m.header look colorful)) (m.parts look colorful) := by
  unfold shape
  dsimp only
  cases m.code with
  | none =>
    match m.parts look colorful with
    | [] => rfl
    | [part] => rfl
    | part :: next :: parts => rfl
  | some code => rfl

/-- Without its styles, what is shown is what is shown without colours. -/
theorem bare_shape :
    (m.shape look colorful fancy).bare = m.shape { look with styles } false fancy := by
  rw [shape_eq_arranged, shape_eq_arranged, Shape.bare_arranged, bare_parts look styles,
    Option.map_map]
  exact congrArg (Shape.arranged fancy · _)
    (congrArg (Option.map · m.code) (funext (bare_header look styles colorful m)))

/-- The styles of a host decide nothing but styles: with colours under any two tables of styles, and
without colours, what is shown of a message has the same texts in the same nesting, and without
colours there are no styles at all. The texts, which keep no control characters that move a cursor,
are the header if the message has a code, the body, the hint if there is one and the trace if there
is one, each once and in this order. The header is the title of a panel in a fancy shape and a
member of a group otherwise. -/
theorem styling_keeps_texts (m : Message) (program : Option String)
    (labels : List (FaultCode × String)) (fancy : Bool) :
    (∀ styles styles' colorful colorful',
      (m.shape ⟨program, labels, styles⟩ colorful fancy).bare =
        (m.shape ⟨program, labels, styles'⟩ colorful' fancy).bare) ∧
    (∀ styles, ∀ t ∈ (m.shape ⟨program, labels, styles⟩ false fancy).texts,
      t.style = "" ∧ t.spans = []) ∧
    ∃ header, header = m.shownHeader ⟨program, labels, []⟩ ∧
      ∀ styles colorful,
        (m.shape ⟨program, labels, styles⟩ colorful fancy).Headed fancy header ∧
        (m.shape ⟨program, labels, styles⟩ colorful fancy).texts.map (·.text) =
          header.toList ++ m.linesBelow.map stripControls := by
  refine ⟨fun styles styles' colorful colorful' => ?_, fun styles t ht => ?_, _, rfl,
    fun styles colorful => ?_⟩
  · rw [bare_shape _ [], bare_shape _ []]
  · -- The shape without colours is one without styles, and so is each of its texts.
    have hbare := bare_shape ⟨program, labels, styles⟩ styles false fancy m
    rw [← hbare, Shape.texts_bare] at ht
    obtain ⟨u, _, rfl⟩ := List.mem_map.mp ht
    exact ⟨rfl, rfl⟩
  · have hheader := text_shownHeader ⟨program, labels, styles⟩ [] colorful m
    rw [shape_eq_arranged]
    refine ⟨hheader ▸ Shape.headed_arranged fancy _ _, ?_⟩
    rw [Shape.texts_arranged, List.map_append, text_parts, ← Option.toList_map, hheader]

/-- A line that was refused, as a message with all its parts. -/
def refusedLine : Message where
  text := "add \"1"
  severity := .input
  trace := "at 4\n"
  code := some .scanFailure
  title := "malformed input"
  hint := "quotes must be closed"

theorem styling_keeps_texts_refused :
    (refusedLine.shape ⟨some "demo", [], [("hint", "bold")]⟩ true true).texts.map (·.text) =
        ["[ demo — 11101 | Malformed Input ]", "> add \"1", " → quotes must be closed", "at 4"] ∧
      ∃ t ∈ (refusedLine.shape ⟨some "demo", [], [("hint", "bold")]⟩ false true).texts,
        t.text = " → quotes must be closed" ∧ t.style = "" ∧ t.spans = [] := by
  obtain ⟨_, hplain, header, rfl, hshown⟩ := styling_keeps_texts refusedLine (some "demo") [] true
  refine ⟨(hshown [("hint", "bold")] true).2.trans (by decide), ?_⟩
  refine ⟨.assemble [(" → ", ""), ("quotes must be closed", "")], ?_, by decide,
    hplain [("hint", "bold")] _ ?_⟩
  all_goals decide

end Message

end LineShell
