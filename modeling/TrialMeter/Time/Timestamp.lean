/-!
# Timestamps

A `Timestamp` is a sample of a time source: whole seconds and nanoseconds since the epoch of the
source. The nanoseconds are kept as they were sampled and need not lie below one second.
-/

namespace TrialMeter

/-- Seconds and nanoseconds since the epoch of a source. -/
structure Timestamp where
  secs : Int64 := 0
  nanos : Int64 := 0
deriving DecidableEq, Repr, Inhabited

namespace Timestamp

/-- Timestamps are ordered by their seconds, and by their nanoseconds where the seconds agree. -/
def order (a b : Timestamp) : Ordering :=
  (compare a.secs b.secs).then (compare a.nanos b.nanos)

instance : Ord Timestamp := ⟨order⟩

end Timestamp

end TrialMeter
