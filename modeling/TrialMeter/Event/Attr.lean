import TrialMeter.Event.Basic
import TrialMeter.Event.Domain

/-!
# Counter attributes

The kernel is told what to count by a record of fixed layout, `Attr`. It names the family of the
event, the configuration word, and a word of flags. A counter starts disabled and pinned; which
modes it leaves out follows from its domain and, for the domain of all modes, from the family.

## Main definitions

* `Family`: the family of an event, by its number.
* `Flags`: a set of flags, written as the names of its members.
* `Domain.exclusions`: the modes that a domain leaves out.
* `Attr.ofEvent`: the attributes of an event in a domain.
-/

namespace TrialMeter

/-- A family of events. -/
inductive Family where
  | hardware
  | software
  | tracePoint
  | hwCache
  | raw
  | breakpoint
  /-- A number that names no family. -/
  | unknown (id : UInt32)
deriving DecidableEq, Repr

namespace Family

/-- The family of a number. -/
def ofId (id : UInt32) : Family :=
  match id.toNat with
  | 0 => hardware
  | 1 => software
  | 2 => tracePoint
  | 3 => hwCache
  | 4 => raw
  | 5 => breakpoint
  | _ => unknown id

/-- The number of a family. -/
def id : Family → UInt32
  | hardware => 0
  | software => 1
  | tracePoint => 2
  | hwCache => 3
  | raw => 4
  | breakpoint => 5
  | unknown id => id

/-- The name of a family; an unknown one is named by its number. -/
def name : Family → String
  | hardware => "Hardware"
  | software => "Software"
  | tracePoint => "TracePoint"
  | hwCache => "HwCache"
  | raw => "Raw"
  | breakpoint => "Breakpoint"
  | unknown id => "Unknown(" ++ toString id.toNat ++ ")"

end Family

/-- The family of an event. -/
def Event.family : Event → Family
  | hardware _ => .hardware
  | software _ => .software
  | cache _ => .hwCache

/-- A flag of a counter. -/
inductive Flag where
  /-- Off until it is enabled. -/
  | disabled
  /-- Children inherit the counter. -/
  | inherit
  /-- The counter must always be on the counting unit. -/
  | pinned
  /-- No other counter may share the counting unit. -/
  | exclusive
  /-- User mode is not counted. -/
  | excludeUser
  /-- Kernel mode is not counted. -/
  | excludeKernel
  /-- Hypervisor mode is not counted. -/
  | excludeHypervisor
  /-- Idle time is not counted. -/
  | excludeIdle
  /-- The next program image enables the counter. -/
  | enableOnExec
  /-- The host is not counted. -/
  | excludeHost
  /-- The guest is not counted. -/
  | excludeGuest
deriving DecidableEq, Repr

namespace Flag

/-- Every flag, from the lowest bit to the highest. -/
def all : List Flag :=
  [disabled, inherit, pinned, exclusive, excludeUser, excludeKernel, excludeHypervisor,
    excludeIdle, enableOnExec, excludeHost, excludeGuest]

/-- The place of a flag in the word of flags, from the lowest bit. -/
def place : Flag → UInt64
  | disabled => 0
  | inherit => 1
  | pinned => 2
  | exclusive => 3
  | excludeUser => 4
  | excludeKernel => 5
  | excludeHypervisor => 6
  | excludeIdle => 7
  | enableOnExec => 12
  | excludeHost => 19
  | excludeGuest => 20

/-- The word in which only a flag is set. -/
def bit (f : Flag) : UInt64 := 1 <<< f.place

/-- The name of a flag. -/
def name : Flag → String
  | disabled => "EVENT_ATTR_DISABLED"
  | inherit => "EVENT_ATTR_INHERIT"
  | pinned => "EVENT_ATTR_PINNED"
  | exclusive => "EVENT_ATTR_EXCLUSIVE"
  | excludeUser => "EVENT_ATTR_EXCLUDE_USER"
  | excludeKernel => "EVENT_ATTR_EXCLUDE_KERNEL"
  | excludeHypervisor => "EVENT_ATTR_EXCLUDE_HV"
  | excludeIdle => "EVENT_ATTR_EXCLUDE_IDLE"
  | enableOnExec => "EVENT_ATTR_ENABLE_ON_EXEC"
  | excludeHost => "EVENT_ATTR_EXCLUDE_HOST"
  | excludeGuest => "EVENT_ATTR_EXCLUDE_GUEST"

end Flag

/-- A set of flags, as the word in which the bits of its members are set. -/
structure Flags where
  bits : UInt64 := 0
deriving DecidableEq, Repr, Inhabited

namespace Flags

/-- The set of the flags in a list. -/
def ofList (flags : List Flag) : Flags :=
  ⟨flags.foldl (fun bits f => bits ||| f.bit) 0⟩

/-- Every flag. -/
def all : Flags := ofList Flag.all

/-- The flags of a word; bits that belong to no flag are dropped. -/
def ofWord (word : UInt64) : Flags := ⟨word &&& all.bits⟩

/-- Whether a flag is in the set. -/
def contains (s : Flags) (f : Flag) : Bool := s.bits &&& f.bit != 0

/-- The flags of either set. -/
def union (s t : Flags) : Flags := ⟨s.bits ||| t.bits⟩

instance : Union Flags := ⟨union⟩

/-- The members of the set, from the lowest bit to the highest. -/
def toList (s : Flags) : List Flag := Flag.all.filter s.contains

/-- The names of the members, joined by bars. -/
def text (s : Flags) : String :=
  match s.toList with
  | [] => "(empty)"
  | flags => " | ".intercalate (flags.map Flag.name)

end Flags

/-- The modes that a domain leaves out, for a counter of family `family`. Only hardware events are
counted in the hypervisor when every mode is asked for. -/
def Domain.exclusions : Domain → Family → Flags
  | user, _ => .ofList [.excludeKernel, .excludeHypervisor]
  | kernel, _ => .ofList [.excludeUser, .excludeHypervisor]
  | hypervisor, _ => .ofList [.excludeUser, .excludeKernel]
  | everything, .hardware => .ofList []
  | everything, _ => .ofList [.excludeHypervisor]

/-- The record by which the kernel is told what to count. -/
structure Attr where
  family : UInt32 := 0
  size : UInt32 := 0
  config : UInt64 := 0
  samplePeriodFreq : UInt64 := 0
  sampleType : UInt64 := 0
  readFormat : UInt64 := 0
  /-- The word of flags. -/
  settings : UInt64 := 0
  wakeupEventsWatermark : UInt32 := 0
  bpType : UInt32 := 0
  config1OrBpAddr : UInt64 := 0
  config2OrBpLen : UInt64 := 0
  branchSampleType : UInt64 := 0
  sampleRegsUser : UInt64 := 0
  sampleStackUser : UInt32 := 0
  clockId : Int32 := 0
  sampleRegsIntr : UInt64 := 0
  auxWatermark : UInt32 := 0
  reserved : UInt32 := 0
deriving DecidableEq, Repr, Inhabited

namespace Attr

/-- The size of the record in bytes. -/
def byteSize : UInt32 := 112

/-- The attributes of a counter of `event` in `domain`: disabled, pinned, and with the exclusions of
the domain. -/
def ofEvent (event : Event) (domain : Domain) : Attr where
  family := event.family.id
  size := byteSize
  config := event.config
  settings := (Flags.ofList [.disabled, .pinned] ∪ domain.exclusions event.family).bits

/-- The family that the record names. -/
def familyOf (a : Attr) : Family := .ofId a.family

/-- The flags that the record sets. -/
def flags (a : Attr) : Flags := .ofWord a.settings

end Attr

end TrialMeter
