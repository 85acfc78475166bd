import TrialMeter.Clock.Stopwatch
import TrialMeter.Counter.Builder
import TrialMeter.Group.Counters

/-!
# Objects of a session

A session works on objects that it keeps in named slots: clocks, bindings, counters and groups. An
object owns the descriptors of its counters; they are given back when it leaves its slot.

## Main definitions

* `Object`, `Object.release`, `Object.bindings`: an object and the bindings in it.
* `Blueprint`, `Blueprint.make`: the ways to make an object.
* `Store`: the objects by slot.
-/

namespace TrialMeter

/-- What a slot holds. -/
inductive Object where
  /-- A clock that is read as the system clock. -/
  | systemClock (clock : IntervalClock)
  /-- A clock that is read as a wall clock. -/
  | wallClock (clock : IntervalClock)
  | stopwatch (watch : Stopwatch)
  | binding (binding : Binding)
  | counter (counter : Counter)
  | group (group : Group Counter)
deriving Repr

namespace Object

/-- The bindings that an object owns. -/
def bindings : Object → List Binding
  | systemClock _ | wallClock _ | stopwatch _ => []
  | binding b => [b]
  | counter c => [c.binding]
  | group g => g.members.map Counter.binding

/-- Gives the descriptors of an object back. -/
def release : Object → Meter Unit
  | systemClock _ | wallClock _ | stopwatch _ => return ()
  | binding b => discard b.release
  | counter c => discard c.release
  | group g => g.release

end Object

/-- A way to make an object. -/
inductive Blueprint where
  | systemClock (source : Source)
  | wallClock (source : Source)
  | stopwatch (source : Source)
  /-- A closed binding of a kind. -/
  | binding (kind : Kind)
  /-- The closed binding of a builder. -/
  | built (builder : Builder)
  /-- The binding of a builder, opened for its subject. -/
  | finished (builder : Builder)
  /-- A counter opened for the calling thread. -/
  | counter (kind : Kind)
  | quietCounter (kind : Kind)
  /-- A group of counters opened for the calling thread. -/
  | group (kinds : List Kind)
  | quietGroup (kinds : List Kind)
deriving Repr

/-- Makes an object. -/
def Blueprint.make : Blueprint → Attempt Object
  | systemClock source => .systemClock <$> IntervalClock.create source
  | wallClock source => .wallClock <$> IntervalClock.create source
  | stopwatch source => .stopwatch <$> Stopwatch.create source
  | binding kind => return .binding { kind }
  | built builder => return .binding builder.build
  | finished builder => .binding <$> builder.finish
  | counter kind => .counter <$> Counter.create kind
  | quietCounter kind => return .counter (Counter.quiet kind)
  | group kinds => .group <$> Group.create kinds
  | quietGroup kinds => .group <$> ExceptT.mk (pure (Group.quiet kinds))

/-- The name of a slot. -/
abbrev Slot := String

/-- The objects of a session, each in a slot of its own. -/
structure Store where
  objects : List (Slot × Object) := []
deriving Repr, Inhabited

namespace Store

/-- The object in a slot. -/
def get (s : Store) (slot : Slot) : Option Object := s.objects.lookup slot

/-- Empties a slot. -/
def erase (s : Store) (slot : Slot) : Store := ⟨s.objects.filter fun entry => entry.1 != slot⟩

/-- Puts an object into a slot, in place of the one that is there. -/
def put (s : Store) (slot : Slot) (object : Object) : Store :=
  ⟨(slot, object) :: (s.erase slot).objects⟩

/-- The bindings of all objects. -/
def bindings (s : Store) : List Binding := s.objects.flatMap fun entry => entry.2.bindings

/-- Gives the descriptors of the object in a slot back. -/
def release (s : Store) (slot : Slot) : Meter Unit :=
  match s.get slot with
  | some object => object.release
  | none => return ()

end Store

end TrialMeter
