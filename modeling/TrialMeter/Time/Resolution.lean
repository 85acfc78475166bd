import TrialMeter.Ratio
import TrialMeter.Time.Timestamp

/-!
# Resolutions of elapsed time

A `Resolution` is the unit in which the distance between two timestamps is reported. The whole
seconds are scaled first and the nanoseconds are divided once, so that a coarse unit keeps the part
below the second; in nanoseconds the distance is an exact 64-bit word before it becomes a number.

## Main definitions

* `Resolution.parse`: reading a unit; `Resolution.suffix`: writing it.
* `Timestamp.nanosUntil`: the exact distance in nanoseconds.
* `Resolution.between`: the distance between two timestamps, or the first arithmetic fault.
-/

namespace TrialMeter

/-- The unit of a reported time. -/
inductive Resolution where
  | seconds
  | deciseconds
  | milliseconds
  | microseconds
  | nanoseconds
deriving DecidableEq, Repr

/-- The seconds from `start` to `stop`. -/
def Timestamp.secsUntil (start stop : Timestamp) : Except Fault Int64 :=
  Fault.narrow .subtractOverflow (stop.secs.toInt - start.secs.toInt)

/-- The nanosecond part of the distance from `start` to `stop`. -/
def Timestamp.nanosPartUntil (start stop : Timestamp) : Except Fault Int64 :=
  Fault.narrow .subtractOverflow (stop.nanos.toInt - start.nanos.toInt)

/-- The distance from `start` to `stop` in nanoseconds. The differences are taken before the
product, and the product before the sum. -/
def Timestamp.nanosUntil (start stop : Timestamp) : Except Fault Int64 := do
  let secs ← start.secsUntil stop
  let nanos ← start.nanosPartUntil stop
  let whole ← Fault.narrow .multiplyOverflow (secs.toInt * 1000000000)
  Fault.narrow .addOverflow (whole.toInt + nanos.toInt)

namespace Resolution

instance : Inhabited Resolution := ⟨milliseconds⟩

/-- Every resolution. -/
def all : List Resolution := [seconds, deciseconds, milliseconds, microseconds, nanoseconds]

/-- The name of a resolution. -/
def name : Resolution → String
  | seconds => "Seconds"
  | deciseconds => "Deciseconds"
  | milliseconds => "Milliseconds"
  | microseconds => "Microseconds"
  | nanoseconds => "Nanoseconds"

/-- The resolution named `name`. -/
def ofName? (name : String) : Option Resolution := all.find? (·.name == name)

/-- The symbol of the unit. -/
def suffix : Resolution → String
  | seconds => "s"
  | deciseconds => "ds"
  | milliseconds => "ms"
  | microseconds => "us"
  | nanoseconds => "ns"

instance : ToString Resolution := ⟨suffix⟩

/-- The resolution that a text asks for: a symbol, a plural, or `sec`. Any other text is refused
with a message that repeats it. -/
def parse : String → Except String Resolution
  | "s" | "sec" | "seconds" => .ok seconds
  | "ds" | "deciseconds" => .ok deciseconds
  | "ms" | "milliseconds" => .ok milliseconds
  | "us" | "microseconds" => .ok microseconds
  | "ns" | "nanoseconds" => .ok nanoseconds
  | text => .error ("unknown time resolution: " ++ text)

/-- The unit as a ratio to one second. -/
def ratio : Resolution → Ratio
  | seconds => .base
  | deciseconds => .deci
  | milliseconds => .milli
  | microseconds => .micro
  | nanoseconds => .nano

/-- A number of seconds in this unit. -/
def ofSeconds (r : Resolution) (seconds : Float) : Float := r.ratio.fromSeconds seconds

/-- The nanoseconds in one unit. -/
def nanosPerUnit : Resolution → Float
  | seconds => 1e9
  | deciseconds => 1e8
  | milliseconds => 1e6
  | microseconds => 1e3
  | nanoseconds => 1

/-- The distance from `start` to `stop` in this unit. -/
def between (r : Resolution) (start stop : Timestamp) : Except Fault Float :=
  match r with
  | nanoseconds => return (← start.nanosUntil stop).toFloat
  | _ => do
    let secs ← start.secsUntil stop
    let nanos ← start.nanosPartUntil stop
    return r.ofSeconds secs.toFloat + nanos.toFloat / r.nanosPerUnit

end Resolution

end TrialMeter
