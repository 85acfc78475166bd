import TrialMeter.Kernel.Entry

/-!
# Metered computations

A `Kernel` answers requests from a `Script`: for each kind of request a list of answers, taken from
the front, and a fixed answer once the list is used up. A computation of type `Meter α` asks such a
kernel; a run of it returns the value, the kernel as it is left, and the trace of what was done.
A run of `m >>= f` is the run of `m` followed by the run of `f` on the value, and its trace is the
two traces joined, so facts about traces are proved part by part.

## Main definitions

* `Kernel`, `Script`: the answers that are still to come.
* `Meter`, `Ran`: a computation and its run.
* `Meter.readClock`, `Meter.openCounter`, `Meter.control`, `Meter.readCounter`, `Meter.close`,
  `Meter.initChild`, `Meter.startChild`, `Meter.waitOnce`: the requests.
* `Meter.work`, `Meter.log`: the acts that need no answer.

## Main results

* `Meter.bind_apply`: the run of a sequence.
* an instance of `LawfulMonad`.
-/

namespace TrialMeter

/-- The answers that a kernel has still to give, by the kind of request. -/
structure Script where
  clocks : List (Reply Timestamp) := []
  counters : List (Reply Unit) := []
  controls : List (Reply Unit) := []
  reads : List Delivery := []
  childAttrs : List (Reply Unit) := []
  children : List (Reply Pid) := []
  waits : List (Reply WaitStatus) := []
deriving DecidableEq, Repr, Inhabited

/-- A kernel that answers from a script. -/
structure Kernel where
  script : Script
  /-- The number of counters granted so far. -/
  granted : Nat := 0
  /-- The number of children asked for so far. -/
  asked : Nat := 0
  /-- The descriptor of the counter granted after `n` others. -/
  descriptor : Nat → Fd
  /-- The identifier of a child asked for after `n` others, when the script does not say. -/
  newPid : Nat → Pid

/-- What a run gives: a value, the kernel that is left, and the trace. -/
structure Ran (α : Type) where
  value : α
  kernel : Kernel
  trace : List Entry

/-- A computation that asks a kernel. -/
def Meter (α : Type) : Type := Kernel → Ran α

namespace Meter

/-- The run of `m` on the kernel `k`. -/
def run {α : Type} (m : Meter α) (k : Kernel) : Ran α := m k

instance : Monad Meter where
  pure a k := ⟨a, k, []⟩
  bind m f k :=
    let r := m k
    let s := f r.value r.kernel
    ⟨s.value, s.kernel, r.trace ++ s.trace⟩

theorem pure_apply {α : Type} (a : α) (k : Kernel) : (pure a : Meter α) k = ⟨a, k, []⟩ := rfl

theorem bind_apply {α β : Type} (m : Meter α) (f : α → Meter β) (k : Kernel) :
    (m >>= f) k = ⟨(f (m k).value (m k).kernel).value, (f (m k).value (m k).kernel).kernel,
      (m k).trace ++ (f (m k).value (m k).kernel).trace⟩ := rfl

instance : LawfulMonad Meter := LawfulMonad.mk' Meter
  (fun m => funext fun k => by simp [Functor.map, Function.comp])
  (fun a f => funext fun k => by simp [bind_apply, pure_apply])
  (fun m f g => funext fun k => by simp [bind_apply, List.append_assoc])

/-- Writes an entry that needs no answer. -/
def tell (e : Entry) : Meter Unit := fun k => ⟨(), k, [e]⟩

/-- Writes a log line. -/
def log (level : Log.Level) (target : Log.Target) (message : String) : Meter Unit :=
  tell (.log ⟨level, target, message⟩)

/-- Runs a unit of work. -/
def work (w : Workload) : Meter Unit := tell (.work w)

/-- Gives a descriptor back. -/
def close (fd : Fd) : Meter Unit := tell (.close fd)

/-- Reads a clock; the answer after the script is time zero. -/
def readClock (source : Source) : Meter (Reply Timestamp) := fun k =>
  let reply := k.script.clocks.headD (.done {})
  ⟨reply, { k with script.clocks := k.script.clocks.tail }, [.clock source reply]⟩

/-- Asks for a counter of the process `pid`, on any processor and in no group of the kernel; the
answer after the script is a grant. Only a grant uses a descriptor up. -/
def openCounter (attr : Attr) (pid : Pid) : Meter (Reply Fd) := fun k =>
  let rest := { k with script.counters := k.script.counters.tail }
  match k.script.counters.headD (.done ()) with
  | .done () =>
    let reply := .done (k.descriptor k.granted)
    ⟨reply, { rest with granted := k.granted + 1 }, [.counter attr pid (-1) (-1) closeOnExec reply]⟩
  | .failed e => ⟨.failed e, rest, [.counter attr pid (-1) (-1) closeOnExec (.failed e)]⟩

/-- Controls a counter; the answer after the script is success. -/
def control (fd : Fd) (request : Control) : Meter (Reply Unit) := fun k =>
  let reply := k.script.controls.headD (.done ())
  ⟨reply, { k with script.controls := k.script.controls.tail }, [.control fd request 0 reply]⟩

/-- Reads the eight bytes of a counter; the answer after the script is a count of zero. -/
def readCounter (fd : Fd) : Meter Delivery := fun k =>
  let delivery := k.script.reads.headD (.full 0)
  ⟨delivery, { k with script.reads := k.script.reads.tail }, [.read fd 8 delivery]⟩

/-- Sets up the attributes of a new child; the answer after the script is success. -/
def initChild : Meter (Reply Unit) := fun k =>
  let reply := k.script.childAttrs.headD (.done ())
  ⟨reply, { k with script.childAttrs := k.script.childAttrs.tail }, [.childAttr reply]⟩

/-- Asks for a child; after the script the answer is an identifier that counts the requests. -/
def startChild (path : String) (argv : List String) : Meter (Reply Pid) := fun k =>
  let reply := k.script.children.headD (.done (k.newPid k.asked))
  ⟨reply, { k with script.children := k.script.children.tail, asked := k.asked + 1 },
    [.child path argv reply]⟩

/-- Waits for a child once; the answer after the script is the status zero. -/
def waitOnce (pid : Pid) : Meter (Reply WaitStatus) := fun k =>
  let reply := k.script.waits.headD (.done {})
  ⟨reply, { k with script.waits := k.script.waits.tail }, [.wait pid 0 reply]⟩

/-- Waits for a child, and waits again after an interruption, at most `n` times again. -/
def waitAtMost : Nat → Pid → Meter (Reply WaitStatus)
  | 0, pid => waitOnce pid
  | n + 1, pid => do
    match ← waitOnce pid with
    | .failed e => if e = .interrupted then waitAtMost n pid else pure (.failed e)
    | .done status => pure (.done status)

/-- Waits for a child until it is answered by anything but an interruption. An interruption uses an
answer of the script up and the answer after the script is none, so there are at most as many
further requests as answers left. -/
def wait (pid : Pid) : Meter (Reply WaitStatus) := fun k => waitAtMost k.script.waits.length pid k

end Meter

end TrialMeter
