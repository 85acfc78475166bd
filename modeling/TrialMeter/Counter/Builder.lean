import TrialMeter.Counter.Binding

/-!
# Configuring a binding

A `Builder` collects what a binding will count and for whom. Its settings can be changed in any
order; the last one of each sort holds.
-/

namespace TrialMeter

/-- What a binding will count, and for whom. -/
structure Builder where
  event : Event
  domain : Domain := default
  subject : Subject := .caller
deriving DecidableEq, Repr

namespace Builder

/-- A binding of a hardware event. -/
def ofHardware (event : HardwareEvent) : Builder := { event := .hardware event }

/-- A binding of a software event. -/
def ofSoftware (event : SoftwareEvent) : Builder := { event := .software event }

/-- A binding of a cache event. -/
def ofCache (event : CacheEvent) : Builder := { event := .cache event }

/-- Counts in `domain`. -/
def inDomain (b : Builder) (domain : Domain) : Builder := { b with domain }

/-- Counts in user mode only. -/
def excludeKernel (b : Builder) : Builder := b.inDomain .user

/-- Counts in kernel mode only. -/
def excludeUser (b : Builder) : Builder := b.inDomain .kernel

/-- Counts the process `pid`. -/
def forPid (b : Builder) (pid : Pid) : Builder := { b with subject := .process pid }

/-- Counts the calling thread. -/
def forCaller (b : Builder) : Builder := { b with subject := .caller }

/-- The binding, without a descriptor. -/
def build (b : Builder) : Binding := { kind := ⟨b.event, b.domain⟩ }

/-- The binding, opened for the chosen subject. -/
def finish (b : Builder) : Attempt Binding := Attempt.insist (b.build.openFor b.subject)

end Builder

end TrialMeter
