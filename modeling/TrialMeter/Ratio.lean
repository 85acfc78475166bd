import TrialMeter.Fault

/-!
# Ratios to one second

A `Ratio` is a scale factor `num / den` relative to one second, kept in lowest terms by
`Ratio.ofParts`. The steps of the decimal scale, from exa to atto, are constants. Nothing here is
absolute time: a value scaled by a ratio is the distance between two samples of one clock.

## Main definitions

* `Ratio.commonDivisor`: Euclid's recursion on 64-bit words.
* `Ratio.ofParts`: the ratio of two words in lowest terms; denominator zero is a fault.
* `Ratio.fromSeconds`, `Ratio.toSeconds`: a number of seconds in units of the ratio, and back. The
  product is rounded before the quotient is taken.
* `Ratio.steps`: the named constants, from the largest to the smallest.
-/

namespace TrialMeter

/-- A scale factor `num / den` relative to one second. -/
structure Ratio where
  num : UInt64
  den : UInt64
deriving DecidableEq, Repr

namespace Ratio

/-- A remainder is smaller than its divisor. -/
theorem toNat_mod_lt (a : UInt64) {b : UInt64} (h : b ≠ 0) : (a % b).toNat < b.toNat := by
  rw [UInt64.toNat_mod]
  exact Nat.mod_lt _ (Nat.pos_of_ne_zero fun hb => h (UInt64.toNat.inj hb))

/-- The greatest common divisor of two words, with `commonDivisor a 0 = a`. -/
def commonDivisor (a b : UInt64) : UInt64 :=
  if h : b = 0 then a
  else
    have := toNat_mod_lt a h
    commonDivisor b (a % b)
termination_by b.toNat

/-- The ratio `num / den` in lowest terms. -/
def ofParts (num den : UInt64) : Except Fault Ratio :=
  if den = 0 then .error .zeroDenominator
  else .ok ⟨num / commonDivisor num den, den / commonDivisor num den⟩

/-- The number of units of `r` in `seconds` seconds. -/
def fromSeconds (r : Ratio) (seconds : Float) : Float :=
  seconds * r.den.toFloat / r.num.toFloat

/-- The number of seconds in `value` units of `r`. -/
def toSeconds (r : Ratio) (value : Float) : Float :=
  value * r.num.toFloat / r.den.toFloat

def exa : Ratio := ⟨1000000000000000000, 1⟩
def peta : Ratio := ⟨1000000000000000, 1⟩
def tera : Ratio := ⟨1000000000000, 1⟩
def giga : Ratio := ⟨1000000000, 1⟩
def mega : Ratio := ⟨1000000, 1⟩
def kilo : Ratio := ⟨1000, 1⟩
def hecto : Ratio := ⟨100, 1⟩
def deca : Ratio := ⟨10, 1⟩
def base : Ratio := ⟨1, 1⟩
def deci : Ratio := ⟨1, 10⟩
def centi : Ratio := ⟨1, 100⟩
def milli : Ratio := ⟨1, 1000⟩
def micro : Ratio := ⟨1, 1000000⟩
def nano : Ratio := ⟨1, 1000000000⟩
def pico : Ratio := ⟨1, 1000000000000⟩
def femto : Ratio := ⟨1, 1000000000000000⟩
def atto : Ratio := ⟨1, 1000000000000000000⟩

/-- The named steps of the decimal scale, from the largest to the smallest. -/
def steps : List (String × Ratio) :=
  [("EXA", exa), ("PETA", peta), ("TERA", tera), ("GIGA", giga), ("MEGA", mega), ("KILO", kilo),
    ("HECTO", hecto), ("DECA", deca), ("BASE", base), ("DECI", deci), ("CENTI", centi),
    ("MILLI", milli), ("MICRO", micro), ("NANO", nano), ("PICO", pico), ("FEMTO", femto),
    ("ATTO", atto)]

/-- The step named `name`. -/
def step? (name : String) : Option Ratio := steps.lookup name

/-- The names of the steps that equal `r`, from the largest to the smallest. -/
def stepNames (r : Ratio) : List String :=
  (steps.filter fun s => s.2 = r).map Prod.fst

/-- The step between two neighbouring units below the second. -/
def subsecondStep : Float := 1000.0

end Ratio

end TrialMeter
