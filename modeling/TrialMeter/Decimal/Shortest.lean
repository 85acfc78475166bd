/-!
# Shortest decimals

A binary floating-point number stands for every real number that rounds to it. Among the decimals in
that interval the ones with the fewest digits are those on the coarsest grid of powers of ten that
meets the interval, and of these the nearest one is written. All comparisons are exact: the number
and the two ends of its interval are kept as natural numbers over one denominator.

## Main definitions

* `Decimal`: a natural number of units of a power of ten.
* `Rounding`: a positive number with the interval of the reals that round to it.
* `Rounding.nearestOn`: the nearest decimal on a grid, if one lies in the interval.
* `Rounding.shortest`: the nearest decimal on the coarsest grid that meets the interval.
-/

namespace TrialMeter

/-- The decimal `digits * 10 ^ exponent`. -/
structure Decimal where
  digits : Nat
  exponent : Int
deriving DecidableEq, Repr, Inhabited

/-- A positive number `value / den` and the interval from `lower / den` to `upper / den` of the
reals that round to it. -/
structure Rounding where
  lower : Nat
  value : Nat
  upper : Nat
  den : Nat
  /-- Whether the ends belong to the interval. -/
  closed : Bool
deriving DecidableEq, Repr

namespace Rounding

/-- The number `mantissa * 2 ^ exponent` of a binary format. The interval reaches halfway to the
neighbours; the one below is at half the distance when `narrow`. The ends round to an even
mantissa. -/
def ofBinary (mantissa : Nat) (exponent : Int) (narrow : Bool) : Rounding :=
  let scale := Nat.pow 2 (exponent - 2).toNat
  { lower := (4 * mantissa - if narrow then 1 else 2) * scale
    value := 4 * mantissa * scale
    upper := (4 * mantissa + 2) * scale
    den := Nat.pow 2 (2 - exponent).toNat
    closed := mantissa % 2 = 0 }

/-- The decimal `d` over the common denominator of the powers of ten and of two. -/
def scaled (r : Rounding) (d : Decimal) : Nat := d.digits * Nat.pow 10 d.exponent.toNat * r.den

/-- The number `n / r.den` over the same denominator, for decimals with the exponent `exponent`. -/
def lifted (exponent : Int) (n : Nat) : Nat := n * Nat.pow 10 (-exponent).toNat

/-- Whether the decimal `d` rounds to the number. -/
def contains (r : Rounding) (d : Decimal) : Bool :=
  let lower := lifted d.exponent r.lower
  let upper := lifted d.exponent r.upper
  if r.closed then lower ≤ r.scaled d && r.scaled d ≤ upper
  else lower < r.scaled d && r.scaled d < upper

/-- The multiple of `10 ^ exponent` that is nearest to the number, if one rounds to it; of two that
are equally near, the larger one. -/
def nearestOn (r : Rounding) (exponent : Int) : Option Decimal :=
  let unit := r.scaled ⟨1, exponent⟩
  let value := lifted exponent r.value
  let below : Decimal := ⟨value / unit, exponent⟩
  let above : Decimal := ⟨value / unit + 1, exponent⟩
  match r.contains below, r.contains above with
  | true, true => if 2 * (value % unit) < unit then below else above
  | true, false => below
  | false, true => above
  | false, false => none

/-- A power of ten above every number of the interval. -/
def magnitude (r : Rounding) : Nat := (Nat.toDigits 10 (r.upper / r.den)).length

/-- The grids to try, from the coarsest on. On the last one the number itself is a multiple, since
the denominator is a power of two that divides the same power of ten. -/
def grids (r : Rounding) : List Int :=
  (List.range (r.magnitude + r.den.log2 + 1)).map fun (step : Nat) => (r.magnitude : Int) - step

/-- The shortest decimal that rounds to the number. -/
def shortest (r : Rounding) : Decimal := (r.grids.findSome? r.nearestOn).getD default

end Rounding

end TrialMeter
