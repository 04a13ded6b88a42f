/-!
The numeric codes of faults, which stay the same for good so that logs can be searched for them.
Errors of scanning are numbered from 11101, of typed access from 11201 and of dispatch from 11301;
warnings are numbered from 12101.
-/

namespace LineShell

/-- The code of a fault. -/
inductive FaultCode
  | scanFailure
  | unboundVariable
  | typeMismatch
  | missingArgument
  | missingOption
  | flagMisuse
  | unknownCommand
  | arityMismatch
  | handlerFault
  | unknownOption
  | extraArgument
deriving DecidableEq

namespace FaultCode

/-- Every code, in the order of their numbers. -/
def all : List FaultCode :=
  [ scanFailure, unboundVariable, typeMismatch, missingArgument, missingOption, flagMisuse,
    unknownCommand, arityMismatch, handlerFault, unknownOption, extraArgument ]

/-- The number of a code. -/
def number : FaultCode → Nat
  | scanFailure => 11101
  | unboundVariable => 11102
  | typeMismatch => 11201
  | missingArgument => 11202
  | missingOption => 11203
  | flagMisuse => 11204
  | unknownCommand => 11301
  | arityMismatch => 11302
  | handlerFault => 11303
  | unknownOption => 12101
  | extraArgument => 12102

/-- The name of a code. -/
def symbol : FaultCode → String
  | scanFailure => "SCAN_FAILURE"
  | unboundVariable => "UNBOUND_VARIABLE"
  | typeMismatch => "TYPE_MISMATCH"
  | missingArgument => "MISSING_ARGUMENT"
  | missingOption => "MISSING_OPTION"
  | flagMisuse => "FLAG_MISUSE"
  | unknownCommand => "UNKNOWN_COMMAND"
  | arityMismatch => "ARITY_MISMATCH"
  | handlerFault => "HANDLER_FAULT"
  | unknownOption => "UNKNOWN_OPTION"
  | extraArgument => "EXTRA_ARGUMENT"

/-- The code of a number. -/
def ofNumber? (n : Nat) : Option FaultCode :=
  all.find? fun c => c.number = n

end FaultCode

end LineShell
