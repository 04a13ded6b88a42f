/-!
Floating-point numbers of sixty-four bits taken apart, and exact arithmetic on their values.
-/

namespace LineShell.Decimal

/-- The magnitude of a finite number, `significand * 2 ^ exponent`. At the least significand of a
binade the gap to the number below is half the gap to the number above. -/
structure Binary where
  significand : Nat
  exponent : Int
  narrowBelow : Bool

/-- The magnitude that the bits of a finite number stand for. -/
def Binary.ofBits (bits : UInt64) : Binary :=
  let biased := ((bits >>> 52) &&& 0x7FF).toNat
  let fraction := (bits &&& 0xFFFFFFFFFFFFF).toNat
  if biased = 0 then ⟨fraction, -1074, false⟩
  else ⟨1 <<< 52 + fraction, (biased : Int) - 1075, fraction = 0 && biased > 1⟩

/-- Whether the sign bit is set; it is for minus zero. -/
def isNegative (x : Float) : Bool :=
  x.toBits >>> 63 = 1

/-- A number times a power of two, where a negative exponent counts as zero. -/
def timesTwo (n : Nat) (exponent : Int) : Nat :=
  n <<< exponent.toNat

/-- A number times a power of ten, where a negative exponent counts as zero. -/
def timesTen (n : Nat) (exponent : Int) : Nat :=
  n * Nat.pow 10 exponent.toNat

/-- Whether `a * 10 ^ i` is less than `n * 2 ^ j`, exactly. -/
def scaledLt (a : Nat) (i : Int) (n : Nat) (j : Int) : Bool :=
  timesTwo (timesTen a i) (-j) < timesTen (timesTwo n j) (-i)

/-- Whether `a * 10 ^ i` equals `n * 2 ^ j`, exactly. -/
def scaledEq (a : Nat) (i : Int) (n : Nat) (j : Int) : Bool :=
  timesTwo (timesTen a i) (-j) = timesTen (timesTwo n j) (-i)

/-- A quotient rounded to the nearest whole number, a half to the even one. -/
def roundDiv (num den : Nat) : Nat :=
  let q := num / den
  let r := num % den
  if 2 * r < den then q
  else if den < 2 * r then q + 1
  else if q % 2 = 0 then q else q + 1

end LineShell.Decimal
