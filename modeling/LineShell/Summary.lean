/-!
The outcome of reading a value from text.
-/

namespace LineShell

/-- The outcome of a parse. It is a success if there is no message. -/
structure Summary where
  message : Option String
deriving DecidableEq

namespace Summary

/-- The outcome of a parse that went well. -/
def success : Summary := ⟨none⟩

/-- Whether a parse went wrong. -/
def isError (s : Summary) : Bool :=
  s.message.isSome

end Summary

end LineShell
