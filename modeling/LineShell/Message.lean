import LineShell.Fault

/-!
Messages: the entries of the log.
-/

namespace LineShell

/-- An entry of the log. -/
structure Message where
  text : String
  severity : Severity := .message
  trace : String := ""
  code : Option FaultCode := none
  title : String := ""
  hint : String := ""
deriving DecidableEq

/-- The entry that a fault becomes. -/
def Fault.entry (f : Fault) : Message where
  text := f.text
  severity := f.kind.severity
  trace := f.trace
  code := f.code
  title := f.title
  hint := f.hint

end LineShell
