import LineShell.Fault.Code
import LineShell.Severity

/-!
The look that a host gives to messages: its own name, friendlier labels for fault codes and styles
for the parts of a message.
-/

namespace LineShell

/-- The parts of a message that have a style of their own. -/
inductive Part
  | body (severity : Severity)
  | programName
  | code
  | trace
  | hintArrow
  | hint
deriving DecidableEq

namespace Part

/-- The name under which a host gives a style. -/
def name : Part → String
  | body severity => severity.name
  | programName => "prog-name"
  | code => "code"
  | trace => "trace"
  | hintArrow => "hint-arrow"
  | hint => "hint"

/-- The style of a part unless the host gives another. -/
def defaultStyle : Part → String
  | body .error => "bold #FF4DA6"
  | body .assertion => "bold #FF4DA6"
  | body .exception => "#FF4DA6"
  | body .warning => "#FFB400"
  | body .message => "#C8C8D0"
  | body .input => "dim #E6E6F0"
  | body .shell => "#E6E6F0"
  | programName => "bold #E6E6F0"
  | code => "bold #00E5FF"
  | trace => "dim #9CE19C"
  | hintArrow => "#9CE19C dim"
  | hint => "italic #9CE19C"

end Part

/-- The look of messages. -/
structure Look where
  program : Option String := none
  labels : List (FaultCode × String) := []
  styles : List (String × String) := []

namespace Look

/-- The look without a host. -/
def plain : Look := {}

/-- The label of a code: that of the host, or its number. -/
def label (look : Look) (code : FaultCode) : String :=
  (look.labels.lookup code).getD (toString code.number)

/-- The style of a part; none at all without colours. -/
def style (look : Look) (colorful : Bool) (part : Part) : String :=
  if colorful then (look.styles.lookup part.name).getD part.defaultStyle else ""

@[simp] theorem style_colorless (look : Look) (part : Part) : look.style false part = "" := rfl

end Look

end LineShell
