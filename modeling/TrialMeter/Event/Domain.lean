/-!
# Domains

A `Domain` is the set of execution modes over which a counter accumulates. It is fixed when a
counter is configured.
-/

namespace TrialMeter

/-- The execution modes that a counter observes. -/
inductive Domain where
  /-- User mode only. -/
  | user
  /-- Kernel mode only. -/
  | kernel
  /-- Hypervisor mode only. -/
  | hypervisor
  /-- Every mode. -/
  | everything
deriving DecidableEq, Repr

namespace Domain

instance : Inhabited Domain := ⟨user⟩

/-- Every domain. -/
def all : List Domain := [user, kernel, hypervisor, everything]

/-- The wording of a domain. -/
def text : Domain → String
  | user => "user"
  | kernel => "kernel"
  | hypervisor => "hypervisor"
  | everything => "all"

instance : ToString Domain := ⟨text⟩

/-- The domain worded `text`. -/
def ofText? (text : String) : Option Domain := all.find? (·.text == text)

/-- The name of a domain. -/
def name : Domain → String
  | user => "User"
  | kernel => "Kernel"
  | hypervisor => "Hypervisor"
  | everything => "Everything"

end Domain

end TrialMeter
