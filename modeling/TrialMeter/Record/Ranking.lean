import TrialMeter.Record.Basic

/-!
# Ranking records

Records are ranked by their times, the fastest first, in the total order of floating-point numbers:
by sign and size, with negative zero before zero and the numbers that are no numbers at the two
ends. Records of equal time keep their order.

## Main definitions

* `timeKey`: an integer that orders floating-point numbers.
* `Record.ranked`: records in rising order of their times.
-/

namespace TrialMeter

/-- The place of a floating-point number in the total order. The word of a number that is not
negative grows with the number; that of a negative one falls. -/
def timeKey (x : Float) : Int :=
  if x.toBits < 0x8000000000000000 then x.toBits.toNat
  else 0x7fffffffffffffff - (x.toBits.toNat : Int)

/-- Records in rising order of their times. -/
def Record.ranked (records : List Record) : List Record :=
  records.mergeSort fun a b => timeKey a.time ≤ timeKey b.time

end TrialMeter
