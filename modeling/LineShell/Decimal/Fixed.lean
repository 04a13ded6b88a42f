import LineShell.Decimal.Binary

/-!
Floating-point numbers with a fixed number of decimal places. The exact value is rounded, and a
half goes to the even neighbour.
-/

namespace LineShell.Decimal

/-- The number in units of the last place. -/
def Binary.unitsAt (x : Binary) (places : Nat) : Nat :=
  roundDiv (timesTen (timesTwo x.significand x.exponent) places) (timesTwo 1 (-x.exponent))

/-- The text of a floating-point number with the given number of places, at least one. -/
def fixed (places : Nat) (x : Float) : String :=
  if x.isNaN then "nan"
  else
    let sign := if isNegative x then "-" else ""
    if x.isInf then sign ++ "inf"
    else
      let units := (Binary.ofBits x.toBits).unitsAt places
      let unit := timesTen 1 places
      let fraction := toString (units % unit)
      let zeros := String.ofList (List.replicate (places - fraction.length) '0')
      sign ++ toString (units / unit) ++ "." ++ zeros ++ fraction

end LineShell.Decimal
