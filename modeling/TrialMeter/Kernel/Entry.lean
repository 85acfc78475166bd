import TrialMeter.Child.Status
import TrialMeter.Event.Attr
import TrialMeter.Kernel.Errno
import TrialMeter.Log.Level
import TrialMeter.Subject
import TrialMeter.Time.Source
import TrialMeter.Time.Timestamp

/-!
# What a measurement does to the outside

A measurement touches the outside in four ways: it asks the kernel for something and is answered, it
gives a descriptor back, it runs a unit of work, and it writes a log line. An `Entry` is one such
act, with the arguments and the answer of a request; the entries of a run, in order, are its trace.
-/

namespace TrialMeter

/-- A descriptor of an open counter. -/
abbrev Fd := Nat

/-- The kernel's answer to a request: it is done, with a result, or it failed. -/
inductive Reply (α : Type) where
  | done (result : α)
  | failed (errno : Errno)
deriving DecidableEq, Repr

/-- The kernel's answer to a read of eight bytes. -/
inductive Delivery where
  /-- All eight bytes, which hold `value`. -/
  | full (value : UInt64)
  /-- Fewer than eight bytes. -/
  | short (bytes : Nat)
  | failed (errno : Errno)
deriving DecidableEq, Repr

/-- A request that controls an open counter. -/
inductive Control where
  /-- Start to count. -/
  | enable
  /-- Stop counting. -/
  | disable
  /-- Set the count to zero. -/
  | reset
deriving DecidableEq, Repr

/-- The number of a control request. -/
def Control.code : Control → Nat
  | enable => 0x2400
  | disable => 0x2401
  | reset => 0x2403

/-- The flag that closes a descriptor when its holder starts another program. -/
def closeOnExec : Nat := 8

/-- A unit of work that runs inside the measuring program, known by a label. -/
inductive Workload where
  | unnamed
  | named (name : String)
  | numbered (index : Nat)
deriving DecidableEq, Repr

/-- One act of a measurement towards the outside. -/
inductive Entry where
  /-- A clock was read. -/
  | clock (source : Source) (reply : Reply Timestamp)
  /-- A counter was asked for. -/
  | counter (attr : Attr) (pid : Pid) (cpu : Int) (group : Int) (flags : Nat) (reply : Reply Fd)
  /-- A counter was controlled. -/
  | control (fd : Fd) (request : Control) (argument : Nat) (reply : Reply Unit)
  /-- A counter was read. -/
  | read (fd : Fd) (bytes : Nat) (delivery : Delivery)
  /-- A descriptor was given back. -/
  | close (fd : Fd)
  /-- The attributes of a new child were set up. -/
  | childAttr (reply : Reply Unit)
  /-- A child was asked for. -/
  | child (path : String) (argv : List String) (reply : Reply Pid)
  /-- A child was waited for. -/
  | wait (pid : Pid) (options : Nat) (reply : Reply WaitStatus)
  /-- A unit of work ran. -/
  | work (workload : Workload)
  /-- A line was logged. -/
  | log (line : Log.Line)
deriving DecidableEq, Repr

end TrialMeter
