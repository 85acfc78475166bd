/-!
# Time sources

The clocks that a kernel offers, each with the identifier by which the kernel knows it.
-/

namespace TrialMeter

/-- A clock of the kernel. -/
inductive Source where
  /-- Settable system-wide real time. -/
  | realtime
  /-- Real time that can raise an alarm. -/
  | realtimeAlarm
  | realtimeCoarse
  /-- International atomic time. -/
  | tai
  | monotonic
  | monotonicCoarse
  /-- Monotonic time that is never slewed. -/
  | monotonicRaw
  /-- Monotonic time that goes on during suspension. -/
  | boottime
  | processCputime
  | threadCputime
deriving DecidableEq, Repr

namespace Source

instance : Inhabited Source := ⟨monotonic⟩

/-- Every source. -/
def all : List Source :=
  [realtime, realtimeAlarm, realtimeCoarse, tai, monotonic, monotonicCoarse, monotonicRaw,
    boottime, processCputime, threadCputime]

/-- The kernel's identifier of a source. -/
def id : Source → Nat
  | realtime => 0
  | realtimeAlarm => 8
  | realtimeCoarse => 5
  | tai => 11
  | monotonic => 1
  | monotonicCoarse => 6
  | monotonicRaw => 4
  | boottime => 7
  | processCputime => 2
  | threadCputime => 3

/-- The name of a source. -/
def name : Source → String
  | realtime => "Realtime"
  | realtimeAlarm => "RealtimeAlarm"
  | realtimeCoarse => "RealtimeCoarse"
  | tai => "Tai"
  | monotonic => "Monotonic"
  | monotonicCoarse => "MonotonicCoarse"
  | monotonicRaw => "MonotonicRaw"
  | boottime => "Boottime"
  | processCputime => "ProcessCputime"
  | threadCputime => "ThreadCputime"

instance : ToString Source := ⟨name⟩

/-- The source named `name`. -/
def ofName? (name : String) : Option Source := all.find? (·.name == name)

end Source

end TrialMeter
