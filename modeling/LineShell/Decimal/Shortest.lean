import LineShell.Decimal.Binary

/-!
The fewest decimal digits that read back to a floating-point number, and their layout. Of two
decimals of that length the nearer one is taken, of two equally near ones the even one.
-/

namespace LineShell.Decimal

/-- The decimal `digits * 10 ^ exponent`. -/
structure Scientific where
  digits : Nat
  exponent : Int

/-- Whether a decimal lies among the reals that round to the number: halfway to the neighbours on
either side, the ends included when the significand is even. -/
def Binary.readsBack (x : Binary) (d : Scientific) : Bool :=
  let below := if x.narrowBelow then 4 * x.significand - 1 else 4 * x.significand - 2
  let above := 4 * x.significand + 2
  let ends := x.significand % 2 = 0
  let tooLow := scaledLt d.digits d.exponent below (x.exponent - 2)
  let atLow := scaledEq d.digits d.exponent below (x.exponent - 2)
  let underHigh := scaledLt d.digits d.exponent above (x.exponent - 2)
  let atHigh := scaledEq d.digits d.exponent above (x.exponent - 2)
  !tooLow && (ends || !atLow) && (underHigh || (ends && atHigh))

/-- The least power of ten that is greater than the number; the logarithm in base two gives it up
to one step. -/
def Binary.scale (x : Binary) : Int :=
  let estimate := (((x.significand.log2 : Int) + x.exponent) * 30103).fdiv 100000
  let candidates := [estimate - 1, estimate, estimate + 1, estimate + 2]
  (candidates.find? fun k =>
    !scaledLt 1 k x.significand x.exponent && !scaledEq 1 k x.significand x.exponent).getD
    (estimate + 3)

/-- The number in units of a power of ten, rounded down. -/
def Binary.floorAt (x : Binary) (exponent : Int) : Nat :=
  timesTen (timesTwo x.significand x.exponent) (-exponent) /
    timesTen (timesTwo 1 (-x.exponent)) exponent

/-- Of the two neighbours of the number on a decimal grid, the one to write, if one reads back. -/
def Binary.onGrid (x : Binary) (exponent : Int) : Option Scientific :=
  let low := x.floorAt exponent
  let lower : Scientific := ⟨low, exponent⟩
  let upper : Scientific := ⟨low + 1, exponent⟩
  match x.readsBack lower, x.readsBack upper with
  | false, false => none
  | true, false => some lower
  | false, true => some upper
  | true, true =>
    if scaledLt (2 * low + 1) exponent (2 * x.significand) x.exponent then some upper
    else if scaledEq (2 * low + 1) exponent (2 * x.significand) x.exponent then
      if low % 2 = 0 then some lower else some upper
    else some lower

/-- The shortest decimal that reads back to a positive number. -/
def Binary.shortest (x : Binary) : Scientific :=
  ((List.range 17).findSome? fun n => x.onGrid (x.scale - 1 - Int.ofNat n)).getD
    ⟨x.floorAt (-1100), -1100⟩

/-- A decimal without its trailing zeros. The count bounds how many are taken off. -/
def Scientific.stripZeros : Nat → Scientific → Scientific
  | 0, d => d
  | n + 1, d =>
    if d.digits ≠ 0 && d.digits % 10 = 0 then stripZeros n ⟨d.digits / 10, d.exponent + 1⟩ else d

/-- The layout of a decimal: positional from `0.0001` to below ten to the sixteenth, with a
fraction of at least one digit; otherwise with a signed exponent of at least two digits. -/
def Scientific.render (d : Scientific) : String :=
  let text := toString d.digits
  let count : Int := text.length
  let point := count + d.exponent
  let zeros (n : Int) := String.ofList (List.replicate n.toNat '0')
  let cut (n : Int) := String.ofList (text.toList.take n.toNat)
  let tail (n : Int) := String.ofList (text.toList.drop n.toNat)
  if point ≤ -4 || 16 < point then
    let e := point - 1
    let fraction := if count = 1 then "" else "." ++ tail 1
    let magnitude := toString e.natAbs
    let sign := if e < 0 then "-" else "+"
    cut 1 ++ fraction ++ "e" ++ sign ++ (if e.natAbs < 10 then "0" else "") ++ magnitude
  else if point ≤ 0 then "0." ++ zeros (-point) ++ text
  else if count ≤ point then text ++ zeros (point - count) ++ ".0"
  else cut point ++ "." ++ tail point

/-- The text of a floating-point number. -/
def shortest (x : Float) : String :=
  if x.isNaN then "nan"
  else
    let sign := if isNegative x then "-" else ""
    if x.isInf then sign ++ "inf"
    else if x == 0 then sign ++ "0.0"
    else sign ++ ((Binary.ofBits x.toBits).shortest.stripZeros 400).render

end LineShell.Decimal
