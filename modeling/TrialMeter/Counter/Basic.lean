import TrialMeter.Counter.Binding

/-!
# Counters

A `Counter` is the handle by which a program uses one binding. It can be asked strictly, when a
refusal is an error, or leniently by `Counter.retrieve`, when a count that cannot be read is zero.

## Main definitions

* `Counter.quiet`, `Counter.create`: a counter, closed or opened for the calling thread.
* `Counter.openHere`, `Counter.reopen`, `Counter.reopenHere`: its descriptor.
* `Counter.start`, `Counter.stop`, `Counter.read`, `Counter.measure`: strict counting.
* `Counter.retrieve`: the count, or zero.
-/

namespace TrialMeter

/-- The handle of one counter. -/
structure Counter where
  binding : Binding
deriving DecidableEq, Repr

namespace Counter

/-- A counter without a descriptor. -/
def quiet (kind : Kind) : Counter := ⟨{ kind }⟩

/-- What the counter counts. -/
def kind (c : Counter) : Kind := c.binding.kind

/-- Whether the counter has a descriptor. -/
def isOpen (c : Counter) : Bool := c.binding.isOpen

/-- Forgets which descriptor an operation on the binding of a counter gave. -/
def ofBinding : Except Error Fd × Binding → Except Error Unit × Counter
  | (result, binding) => (result.map fun _ => (), ⟨binding⟩)

/-- Opens the counter for the calling thread. -/
def openHere (c : Counter) : Meter (Except Error Unit × Counter) :=
  ofBinding <$> c.binding.openFor .caller

/-- Moves the counter to the process `pid`. -/
def reopen (c : Counter) (pid : Pid) : Meter (Except Error Unit × Counter) :=
  ofBinding <$> c.binding.reopenFor (.process pid)

/-- Moves the counter back to the calling thread. -/
def reopenHere (c : Counter) : Meter (Except Error Unit × Counter) :=
  ofBinding <$> c.binding.reopenFor .caller

/-- A counter opened for the calling thread. -/
def create (kind : Kind) : Attempt Counter := Attempt.insist (quiet kind).openHere

/-- Gives the descriptor of the counter back. -/
def release (c : Counter) : Meter Counter := mk <$> c.binding.release

/-- Starts to count from zero. -/
def start (c : Counter) : Attempt Unit := c.binding.start

/-- Stops counting. -/
def stop (c : Counter) : Attempt Unit := c.binding.stop

/-- Reads the count. -/
def read (c : Counter) : Attempt UInt64 := c.binding.read

/-- The count, or zero when it cannot be read. -/
def retrieve (c : Counter) : Meter UInt64 := do
  match ← c.read.run with
  | .ok value => return value
  | .error e =>
    Meter.log .debug .counter (c.kind.text ++ " reads as zero: " ++ e.message)
    return 0

/-- The count over one run of `work`. -/
def measure (c : Counter) (work : Workload) : Attempt UInt64 := do
  c.start
  Meter.work work
  c.stop
  c.read

end Counter

end TrialMeter
