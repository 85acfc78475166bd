import TrialMeter.Session.Object
import TrialMeter.Trial.External
import TrialMeter.Trial.InProcess
import TrialMeter.Trial.Timing

/-!
# Operations of a session

A session is a sequence of operations on a store of objects and a kernel. An operation answers with
a value, with a failure, or that the slot it names holds no object of the right sort; the session
goes on in every case. `Operation.perform` is one step and `Session.run` a whole session.

## Main definitions

* `Operation`: what a session can do, object by object.
* `Value`, `Outcome`: what it answers.
* `Operation.perform`, `Session.run`.
-/

namespace TrialMeter

/-- What an operation can answer. -/
inductive Value where
  | nothing
  | flag (b : Bool)
  | timestamp (t : Timestamp)
  | source (s : Source)
  | pid (pid : Pid)
  | status (status : WaitStatus)
  | time (t : Float)
  | times (ts : List Float)
  | count (n : UInt64)
  | fd (fd : Fd)
  | binding (b : Binding)
  | kinds (kinds : List Kind)
  | kind (kind : Kind)
  | record (r : Record)
deriving Repr

/-- How an operation ended. -/
inductive Outcome where
  | value (v : Value)
  | failure (f : Failure)
  /-- The slot holds no object of the right sort. -/
  | noObject (slot : Slot)
deriving Repr

/-- What an interval clock can do. -/
inductive ClockOperation where
  | start
  | stop
  | now
  | source
  | elapsed (r : Resolution)
  | elapsedTo (t : Timestamp) (r : Resolution)
deriving Repr

/-- What a stopwatch can do. -/
inductive StopwatchOperation where
  | start
  | lap
  | elapsed
  | measure (work : Workload)
deriving Repr

/-- What a binding can do. -/
inductive BindingOperation where
  | openFor (subject : Subject)
  | reopenFor (subject : Subject)
  | reset
  | start
  | stop
  | read
  | config
deriving Repr

/-- What a counter can do. -/
inductive CounterOperation where
  | openHere
  | reopen (pid : Pid)
  | reopenHere
  | start
  | stop
  | read
  | retrieve
  | measure (work : Workload)
  | kind
deriving Repr

/-- What a group can do. -/
inductive GroupOperation where
  | drive (drive : Drive)
  | retrieve (kind : Kind)
  | get (kind : Kind)
  | kinds
  | record (name : String) (time : Float)
deriving Repr

/-- The trials. -/
inductive Experiment where
  | benchmark (work : Workload)
  | benchmarkBatch (work : Workload)
  | benchmarkProgram (program : String) (args : List String)
  | countOne (kind : Kind) (work : Workload)
  | countProgram (kind : Kind) (program : String) (args : List String)
  | time (work : Workload)
  | timeProgram (program : String) (args : List String)
  | timeEach (works : List Workload)
  | timeRepeat (n : Nat) (work : Nat → Workload)

/-- What a session can do. -/
inductive Operation where
  /-- Samples a source. -/
  | now (source : Source)
  | spawn (program : String) (args : List String)
  | spawnAndWait (program : String) (args : List String)
  | wait (pid : Pid)
  /-- Makes an object and puts it into a slot; the object that was there leaves afterwards. -/
  | make (slot : Slot) (blueprint : Blueprint)
  /-- Groups the counters of some slots, which leave them for the group. -/
  | gather (slot : Slot) (members : List Slot)
  | drop (slot : Slot)
  | systemClock (slot : Slot) (operation : ClockOperation)
  | wallClock (slot : Slot) (operation : ClockOperation)
  | stopwatch (slot : Slot) (operation : StopwatchOperation)
  | binding (slot : Slot) (operation : BindingOperation)
  | counter (slot : Slot) (operation : CounterOperation)
  | group (slot : Slot) (operation : GroupOperation)
  | trial (settings : Settings) (experiment : Experiment)

/-- The result of an operation on an object, and the object that it leaves. -/
abbrev Acted (α : Type) : Type := Except Failure Value × α

/-- Runs a computation that leaves the object `x` as it is. -/
def keeping {α : Type} (x : α) (action : Trial Value) : Meter (Acted α) := do
  return (← action.run, x)

/-- Turns the result of an operation on an object into a value. -/
def answering {α β : Type} (answer : α → Value) : Except Error α × β → Acted β
  | (.ok result, object) => (.ok (answer result), object)
  | (.error e, object) => (.error (.error e), object)

/-- An operation of an interval clock. -/
def ClockOperation.perform (c : IntervalClock) : ClockOperation → Meter (Acted IntervalClock)
  | start => answering .timestamp <$> c.start
  | stop => answering .timestamp <$> c.stop
  | now => keeping c do return .timestamp (← c.now)
  | source => keeping c do return .source c.source
  | elapsed r => keeping c do return .time (← c.elapsed r)
  | elapsedTo t r => keeping c do return .time (← c.elapsedTo t r)

/-- An operation of a stopwatch. -/
def StopwatchOperation.perform (w : Stopwatch) : StopwatchOperation → Meter (Acted Stopwatch)
  | start => answering (fun _ => .nothing) <$> w.start
  | lap => answering (fun _ => .nothing) <$> w.lap
  | elapsed => keeping w do
    match ← w.elapsed with
    | some t => return .time t
    | none => return .nothing
  | measure work => do
    let (result, w) ← w.measure work
    return (result.map .time, w)

/-- An operation of a binding. -/
def BindingOperation.perform (b : Binding) : BindingOperation → Meter (Acted Binding)
  | openFor subject => answering .fd <$> b.openFor subject
  | reopenFor subject => answering .fd <$> b.reopenFor subject
  | reset => keeping b do
    b.reset
    return .nothing
  | start => keeping b do
    b.start
    return .nothing
  | stop => keeping b do
    b.stop
    return .nothing
  | read => keeping b do return .count (← b.read)
  | config => keeping b do return .binding b

/-- An operation of a counter. -/
def CounterOperation.perform (c : Counter) : CounterOperation → Meter (Acted Counter)
  | openHere => answering (fun _ => .nothing) <$> c.openHere
  | reopen pid => answering (fun _ => .nothing) <$> c.reopen pid
  | reopenHere => answering (fun _ => .nothing) <$> c.reopenHere
  | start => keeping c do
    c.start
    return .nothing
  | stop => keeping c do
    c.stop
    return .nothing
  | read => keeping c do return .count (← c.read)
  | retrieve => keeping c do return .count (← c.retrieve)
  | measure work => keeping c do return .count (← c.measure work)
  | kind => keeping c do return .kind c.kind

/-- An operation of a group. -/
def GroupOperation.perform (g : Group Counter) : GroupOperation → Meter (Acted (Group Counter))
  | drive d => answering (fun _ => .nothing) <$> g.drive d
  | retrieve kind => keeping g do return .count (← g.retrieve kind)
  | get kind => keeping g do
    match g.get kind with
    | some c => return .binding c.binding
    | none => return .nothing
  | kinds => keeping g do return .kinds g.kinds
  | record name time => keeping g do return .record (← (Record.ofGroup name time g : Meter Record))

/-- A trial. -/
def Experiment.perform (s : Settings) : Experiment → Trial Value
  | benchmark work => .record <$> Trial.benchmark s work
  | benchmarkBatch work => .record <$> Trial.benchmarkBatch s work
  | benchmarkProgram program args => .record <$> Trial.benchmarkProgram s program args
  | countOne kind work => do return .count (← Trial.countOne kind work)
  | countProgram kind program args => do return .count (← Trial.countProgram kind program args)
  | time work => .time <$> Trial.time s work
  | timeProgram program args => .time <$> Trial.timeProgram s program args
  | timeEach works => .times <$> Trial.timeEach s works
  | timeRepeat n work => .times <$> Trial.timeRepeat s n work

/-- The outcome of a result. -/
def Outcome.ofResult : Except Failure Value → Outcome
  | .ok v => value v
  | .error f => failure f

namespace Store

/-- Performs an operation on the object in a slot, when it is of the sort that `select` looks for.
-/
def act {α : Type} (s : Store) (slot : Slot) (select : Object → Option α) (wrap : α → Object)
    (action : α → Meter (Acted α)) : Meter (Outcome × Store) :=
  match (s.get slot).bind select with
  | some x => do
    let (result, x) ← action x
    return (.ofResult result, s.put slot (wrap x))
  | none => return (.noObject slot, s)

/-- Takes the counters out of some slots, one after another, unless a slot holds none. -/
def takeCounters (s : Store) : List Slot → Except Slot (List Counter × Store)
  | [] => .ok ([], s)
  | slot :: rest =>
    match s.get slot with
    | some (.counter c) => do
      let (others, s) ← (s.erase slot).takeCounters rest
      return (c :: others, s)
    | _ => .error slot

end Store

/-- Runs a computation that touches no object. -/
def apart (s : Store) (action : Trial Value) : Meter (Outcome × Store) := do
  return (.ofResult (← action.run), s)

/-- Puts what `attempt` makes into a slot. The object that was there leaves after the new one is
made, and stays when it is not made. -/
def placing (s : Store) (slot : Slot) (attempt : Attempt Object) : Meter (Outcome × Store) := do
  match ← attempt.run with
  | .ok object =>
    s.release slot
    return (.value .nothing, s.put slot object)
  | .error e => return (.failure (.error e), s)

/-- One step of a session. -/
def Operation.perform (s : Store) : Operation → Meter (Outcome × Store)
  | now source => apart s do return .timestamp (← Timestamp.now source)
  | spawn program args => apart s do return .pid (← Child.spawn program args)
  | spawnAndWait program args => apart s do return .pid (← Child.spawnAndWait program args)
  | wait pid => apart s do return .status (← Child.wait pid)
  | make slot blueprint => placing s slot blueprint.make
  | gather slot members =>
    match s.takeCounters members with
    | .ok (counters, s) => placing s slot (.group <$> Group.ofCounters counters)
    | .error slot => return (.noObject slot, s)
  | drop slot => do
    s.release slot
    return (.value (.flag (s.get slot).isSome), s.erase slot)
  | systemClock slot operation =>
    s.act slot (fun | .systemClock c => some c | _ => none) .systemClock operation.perform
  | wallClock slot operation =>
    s.act slot (fun | .wallClock c => some c | _ => none) .wallClock operation.perform
  | stopwatch slot operation =>
    s.act slot (fun | .stopwatch w => some w | _ => none) .stopwatch operation.perform
  | binding slot operation =>
    s.act slot (fun | .binding b => some b | _ => none) .binding operation.perform
  | counter slot operation =>
    s.act slot (fun | .counter c => some c | _ => none) .counter operation.perform
  | group slot operation =>
    s.act slot (fun | .group g => some g | _ => none) .group operation.perform
  | trial settings experiment => apart s (experiment.perform settings)

/-- A whole session: the outcomes of its operations, and the objects that are left. -/
def Session.run (s : Store) : List Operation → Meter (List Outcome × Store)
  | [] => return ([], s)
  | operation :: rest => do
    let (outcome, s) ← operation.perform s
    let (outcomes, s) ← Session.run s rest
    return (outcome :: outcomes, s)

end TrialMeter
