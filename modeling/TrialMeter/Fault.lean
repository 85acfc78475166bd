/-!
# Arithmetic faults

A fault ends the computation that meets it: the exact result of an integer operation does not fit
in the 64-bit word that should hold it, a ratio is asked for with denominator zero, or there is no
room for what is to be kept. Faults are kept apart from the errors a kernel reports, because no
measurement recovers from them.

## Main definitions

* `Fault`: the five faults, and `Fault.message`, their wording.
* `Fault.narrow`: the 64-bit word of an exact integer, or the fault that stands for the overflow.
-/

namespace TrialMeter

/-- The ways in which the arithmetic of a measurement can fail. -/
inductive Fault where
  /-- A difference does not fit in a signed 64-bit word. -/
  | subtractOverflow
  /-- A product does not fit in a signed 64-bit word. -/
  | multiplyOverflow
  /-- A sum does not fit in a signed 64-bit word. -/
  | addOverflow
  /-- A ratio has denominator zero. -/
  | zeroDenominator
  /-- The bytes of what is to be kept are more than a signed 64-bit word can count. -/
  | capacityOverflow
deriving DecidableEq, Repr

namespace Fault

/-- The wording of a fault. -/
def message : Fault → String
  | subtractOverflow => "attempt to subtract with overflow"
  | multiplyOverflow => "attempt to multiply with overflow"
  | addOverflow => "attempt to add with overflow"
  | zeroDenominator => "ratio denominator must not be zero"
  | capacityOverflow => "capacity overflow"

/-- An integer fits when a signed 64-bit word holds it. -/
def Fits (x : Int) : Prop := -9223372036854775808 ≤ x ∧ x ≤ 9223372036854775807

instance (x : Int) : Decidable (Fits x) :=
  inferInstanceAs (Decidable (_ ∧ _))

/-- The signed 64-bit word of value `x`, or the fault `overflow` when there is none. -/
def narrow (overflow : Fault) (x : Int) : Except Fault Int64 :=
  if Fits x then .ok (Int64.ofInt x) else .error overflow

end Fault

end TrialMeter
