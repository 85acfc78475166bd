import TrialMeter.Counter.Basic

/-!
# Bindings and counters as they are stored

A stored binding keeps its event, its domain, its attributes, its descriptor and its subject in a
field each, and every operation updates the fields it concerns, one after another. That a descriptor
always comes with a subject, and that the attributes are those of the event and the domain, is kept
by the operations and is no part of the type. A stored counter keeps its kind beside its binding.

## Main definitions

* `StoredBinding`, `StoredBinding.create`: the fields, and those of a new binding.
* `StoredBinding.openFor`, `StoredBinding.close`, `StoredBinding.reopenFor`: the descriptor.
* `StoredBinding.reset`, `StoredBinding.start`, `StoredBinding.stop`, `StoredBinding.read`:
  counting.
* `StoredBinding.shown`: what a binding shows of itself.
* `StoredCounter`: a counter and its operations.
-/

namespace TrialMeter

/-- A binding, field by field. -/
structure StoredBinding where
  event : Event
  domain : Domain
  attr : Attr
  fd : Option Fd
  subject : Option Subject
deriving DecidableEq, Repr

namespace StoredBinding

/-- A binding without a descriptor. The attributes are filled in once. -/
def create (event : Event) (domain : Domain) : StoredBinding where
  event
  domain
  attr := .ofEvent event domain
  fd := none
  subject := none

/-- The event and the domain. -/
def kind (b : StoredBinding) : Kind := ⟨b.event, b.domain⟩

/-- Whether there is a descriptor. -/
def isOpen (b : StoredBinding) : Bool := b.fd.isSome

/-- What the binding shows of itself: a descriptor together with its subject. -/
def shown (b : StoredBinding) : Binding where
  kind := b.kind
  held := do return ⟨← b.fd, ← b.subject⟩

/-- Opens a descriptor for `subject`, unless there is one. -/
def openFor (b : StoredBinding) (subject : Subject) :
    Meter (Except Error Fd × StoredBinding) :=
  match b.fd with
  | some fd => return (.ok fd, b)
  | none => do
    match ← Meter.openCounter b.attr subject.pid with
    | .done fd =>
      Meter.log .debug .binding ("opened " ++ b.kind.text ++ " for " ++ subject.text ++ " as fd "
        ++ toString fd)
      let b := { b with fd := some fd }
      let b := { b with subject := some subject }
      return (.ok fd, b)
    | .failed errno => return (.error (.opening b.kind.text subject (.os errno)), b)

/-- Takes the descriptor out, gives it back, and forgets the subject. -/
def close (b : StoredBinding) : Meter StoredBinding :=
  match b.fd with
  | some fd => do
    let b := { b with fd := none }
    Meter.close fd
    return { b with subject := none }
  | none => return b

/-- Closes the binding and opens a descriptor for `subject`. -/
def reopenFor (b : StoredBinding) (subject : Subject) :
    Meter (Except Error Fd × StoredBinding) := do
  (← b.close).openFor subject

/-- The descriptor, which every operation on a counter needs. -/
def requireFd (b : StoredBinding) : Attempt Fd :=
  match b.fd with
  | some fd => return fd
  | none => throw .notOpen

/-- Sets the count to zero. -/
def reset (b : StoredBinding) : Attempt Unit := do
  Binding.control (← b.requireFd) .reset

/-- Sets the count to zero and starts to count. -/
def start (b : StoredBinding) : Attempt Unit := do
  let fd ← b.requireFd
  Binding.control fd .reset
  Binding.control fd .enable

/-- Stops counting. -/
def stop (b : StoredBinding) : Attempt Unit := do
  Binding.control (← b.requireFd) .disable

/-- Reads the count. -/
def read (b : StoredBinding) : Attempt UInt64 := do
  Binding.readFrom (← b.requireFd)

end StoredBinding

/-- A counter, field by field. -/
structure StoredCounter where
  kind : Kind
  inner : StoredBinding
deriving DecidableEq, Repr

namespace StoredCounter

/-- A counter without a descriptor. -/
def quiet (kind : Kind) : StoredCounter where
  kind
  inner := .create kind.event kind.domain

/-- A counter whose binding was operated on; which descriptor this gave is forgotten. -/
def withInner (c : StoredCounter) :
    Except Error Fd × StoredBinding → Except Error Unit × StoredCounter
  | (result, inner) => (result.map fun _ => (), { c with inner })

/-- Opens the counter for the calling thread. -/
def openHere (c : StoredCounter) : Meter (Except Error Unit × StoredCounter) :=
  c.withInner <$> c.inner.openFor .caller

/-- Moves the counter to the process `pid`. -/
def reopen (c : StoredCounter) (pid : Pid) : Meter (Except Error Unit × StoredCounter) :=
  c.withInner <$> c.inner.reopenFor (.process pid)

/-- Moves the counter back to the calling thread. -/
def reopenHere (c : StoredCounter) : Meter (Except Error Unit × StoredCounter) :=
  c.withInner <$> c.inner.reopenFor .caller

/-- Starts to count from zero. -/
def start (c : StoredCounter) : Attempt Unit := c.inner.start

/-- Stops counting. -/
def stop (c : StoredCounter) : Attempt Unit := c.inner.stop

/-- Reads the count. -/
def read (c : StoredCounter) : Attempt UInt64 := c.inner.read

/-- The count, or zero when it cannot be read. -/
def retrieve (c : StoredCounter) : Meter UInt64 := do
  match ← c.inner.read.run with
  | .ok value => return value
  | .error e =>
    Meter.log .debug .counter (c.kind.text ++ " reads as zero: " ++ e.message)
    return 0

/-- The count over one run of `work`. -/
def measure (c : StoredCounter) (work : Workload) : Attempt UInt64 := do
  c.start
  Meter.work work
  c.stop
  c.read

end StoredCounter

end TrialMeter
