import TrialMeter.Counter.Basic
import TrialMeter.Group.Basic

/-!
# Groups of live counters

Counters are members of groups. A group of counters owns their descriptors: they are given back with
the group, in the order of the members, and also when the counters turn out to form no group.
-/

namespace TrialMeter

instance : Member Counter Meter where
  kind := Counter.kind
  isOpen := Counter.isOpen
  openHere := Counter.openHere
  reopen := Counter.reopen
  start c := c.start.run
  stop c := c.stop.run
  retrieve := Counter.retrieve

namespace Group

/-- Gives the descriptors of counters back, in order. -/
def releaseAll : List Counter → Meter Unit
  | [] => return ()
  | c :: rest => do
    let _ ← c.release
    releaseAll rest

/-- Gives the descriptors of all members back. -/
def release (g : Group Counter) : Meter Unit := releaseAll g.members

/-- The group of counters that may be open. When a kind repeats, the counters are given up: first
the one that was refused, then those after it, then those before it. -/
def ofCounters (counters : List Counter) : Attempt (Group Counter) :=
  match takeDistinct [] counters with
  | (grouped, []) => return ⟨grouped⟩
  | (grouped, c :: rest) => do
    releaseAll (c :: rest)
    releaseAll grouped
    throw (.duplicateKind c.kind)

/-- One closed counter of each kind. -/
def quiet (kinds : List Kind) : Except Error (Group Counter) :=
  ofMembers (kinds.map Counter.quiet)

/-- One counter of each kind, opened for the calling thread. Those that are refused stay closed. -/
def create (kinds : List Kind) : Attempt (Group Counter) := do
  let group ← ExceptT.mk (pure (quiet kinds))
  let (result, group) ← group.openHere
  match result with
  | .ok () => return group
  | .error e => do
    Meter.log .warn .group ("counter group partially opened: " ++ e.message)
    return group

end Group

end TrialMeter
