import TrialMeter.Decimal.Shortest

/-!
# Numbers as text

A number is written with the fewest digits that read back as the same number, in positional notation
whatever its size, with a point only if there is something behind it. Negative zero keeps its sign.

## Main definitions

* `Decimal.text`: a decimal in positional notation.
* `numberText`: the text of a floating-point number.
-/

namespace TrialMeter

namespace Decimal

/-- A number of characters `0`. -/
def zeros (n : Nat) : List Char := List.replicate n '0'

/-- A decimal in positional notation. -/
def text (d : Decimal) : String :=
  let digits := Nat.toDigits 10 d.digits
  let places := (-d.exponent).toNat
  if places = 0 then String.ofList (digits ++ zeros d.exponent.toNat)
  else
    let padded := zeros (places + 1 - digits.length) ++ digits
    let whole := padded.length - places
    String.ofList (padded.take whole ++ '.' :: padded.drop whole)

end Decimal

/-- The sign bit of a floating-point number. -/
def isNegative (x : Float) : Bool := x.toBits >>> 63 == 1

/-- The eleven bits of the exponent of a floating-point number. -/
def exponentField (x : Float) : Nat := ((x.toBits >>> 52) &&& 0x7ff).toNat

/-- The fifty-two bits of the fraction of a floating-point number. -/
def fractionField (x : Float) : Nat := (x.toBits &&& 0xfffffffffffff).toNat

/-- The size of a finite number other than zero, with the reals that round to it. Numbers with the
lowest exponent lack the leading bit of the others; at a power of two the numbers below lie closer,
except at the lowest one. -/
def roundingOf (x : Float) : Rounding :=
  let field := exponentField x
  let fraction := fractionField x
  .ofBinary (if field = 0 then fraction else 0x10000000000000 + fraction)
    ((max field 1 : Nat) - 1075) (fraction = 0 && field > 1)

/-- The size of a number that is not negative. -/
def sizeText (x : Float) : String :=
  if exponentField x = 0x7ff then "inf"
  else if exponentField x = 0 ∧ fractionField x = 0 then "0"
  else (roundingOf x).shortest.text

/-- The text of a floating-point number. -/
def numberText (x : Float) : String :=
  if x.isNaN then "NaN"
  else if isNegative x then "-" ++ sizeText x
  else sizeText x

end TrialMeter
