import TrialMeter.Attempt

/-!
# Counter bindings

A `Binding` ties a kind of counter to at most one open descriptor of the kernel. What it counts is
fixed when it is made; the descriptor can be opened, given back, and opened again for another
subject. A descriptor is held together with its subject, so a binding has both or neither.

## Main definitions

* `Binding.openFor`: opens a descriptor unless one is held.
* `Binding.reopenFor`: gives the held descriptor back and opens another.
* `Binding.reset`, `Binding.start`, `Binding.stop`, `Binding.read`: the operations on the held
  descriptor, which leave the binding as it is.
* `Binding.release`: gives the held descriptor back for good.
-/

namespace TrialMeter

/-- An open descriptor and the subject that it counts. -/
structure Descriptor where
  fd : Fd
  subject : Subject
deriving DecidableEq, Repr

/-- A kind of counter with at most one open descriptor. -/
structure Binding where
  kind : Kind
  held : Option Descriptor := none
deriving DecidableEq, Repr

namespace Binding

/-- Whether a descriptor is held. -/
def isOpen (b : Binding) : Bool := b.held.isSome

/-- The held descriptor's number. -/
def fd (b : Binding) : Option Fd := b.held.map Descriptor.fd

/-- The subject of the held descriptor. -/
def subject (b : Binding) : Option Subject := b.held.map Descriptor.subject

/-- The attributes by which the kernel is asked. -/
def attr (b : Binding) : Attr := b.kind.attr

/-- Opens a descriptor for `subject`. A held descriptor stays, with its own subject, and the kernel
is not asked; after a refusal the binding holds none. -/
def openFor (b : Binding) (subject : Subject) : Meter (Except Error Fd × Binding) :=
  match b.held with
  | some d => return (.ok d.fd, b)
  | none => do
    match ← Meter.openCounter b.attr subject.pid with
    | .done fd =>
      Meter.log .debug .binding ("opened " ++ b.kind.text ++ " for " ++ subject.text ++ " as fd "
        ++ toString fd)
      return (.ok fd, { b with held := some ⟨fd, subject⟩ })
    | .failed errno => return (.error (.opening b.kind.text subject (.os errno)), b)

/-- Gives the held descriptor back. -/
def release (b : Binding) : Meter Binding :=
  match b.held with
  | some d => do
    Meter.close d.fd
    return { b with held := none }
  | none => return b

/-- Gives the held descriptor back and opens one for `subject`. -/
def reopenFor (b : Binding) (subject : Subject) : Meter (Except Error Fd × Binding) := do
  (← b.release).openFor subject

/-- The held descriptor, which every operation on a counter needs. -/
def requireFd (b : Binding) : Attempt Fd :=
  match b.held with
  | some d => return d.fd
  | none => throw .notOpen

/-- Makes a control request on an open descriptor. -/
def control (fd : Fd) (request : Control) : Attempt Unit :=
  .ofReply (Meter.control fd request) .controlling

/-- Sets the count to zero. -/
def reset (b : Binding) : Attempt Unit := do
  control (← b.requireFd) .reset

/-- Sets the count to zero and starts to count, so that every window is counted by itself. -/
def start (b : Binding) : Attempt Unit := do
  let fd ← b.requireFd
  control fd .reset
  control fd .enable

/-- Stops counting. -/
def stop (b : Binding) : Attempt Unit := do
  control (← b.requireFd) .disable

/-- Reads the count of an open descriptor. A counter that the counting unit could not hold delivers
too few bytes. -/
def readFrom (fd : Fd) : Attempt UInt64 := do
  match ← Meter.readCounter fd with
  | .full value => return value
  | .short _ => throw (.reading (.other "short read from counter descriptor"))
  | .failed errno => throw (.reading (.os errno))

/-- Reads the count. -/
def read (b : Binding) : Attempt UInt64 := do
  readFrom (← b.requireFd)

end Binding

end TrialMeter
