import TrialMeter.Proofs.Kernel.Waiting
import TrialMeter.Proofs.Record.Reading
import TrialMeter.Session.Operation

/-!
# Footprints

The footprint of a computation bounds what it can do to the outside: `Meter.Within p m` says that
every entry of every trace of `m` satisfies `p`, whatever the kernel answers. A footprint is built
along the computation, because the trace of a sequence is the traces of its parts joined, and an
attempt that stops early only leaves entries out. The footprints of the clocks, of the children and
of the operations on an open counter are stated for any `p` that holds of the requests they make, so
that each invariant on traces reads its own case off them.

## Main definitions

* `Meter.Within`: the footprint of a computation.

## Main results

* `Meter.Within.bind`, `Meter.Within.exceptBind`, `Meter.Within.finally`: footprints of sequences.
* `Binding.within_start`, `Binding.within_stop`, `Binding.within_read`: a binding works on its own
  descriptor only.
* `Group.within_visitOpen`, `Record.within_ofGroup`: so does a group.
-/

namespace TrialMeter

namespace Meter

variable {α β ε : Type} {p q : Entry → Prop}

/-- Every entry that a run of `m` leaves satisfies `p`. -/
def Within (p : Entry → Prop) (m : Meter α) : Prop :=
  ∀ k, ∀ e ∈ (m k).trace, p e

namespace Within

variable {m : Meter α}

theorem pure (a : α) : (Pure.pure a : Meter α).Within p := by
  intro k e he
  simp [pure_apply] at he

theorem bind {f : α → Meter β} (hm : m.Within p) (hf : ∀ a, (f a).Within p) :
    (m >>= f).Within p := by
  intro k e he
  rw [bind_apply] at he
  rcases List.mem_append.mp he with he | he
  · exact hm k e he
  · exact hf _ _ e he

theorem map (f : α → β) (hm : m.Within p) : (f <$> m).Within p := by
  rw [map_eq_pure_bind]
  exact hm.bind fun a => pure (f a)

theorem mapM {f : β → Meter α} (hf : ∀ b, (f b).Within p) (l : List β) :
    (l.mapM f).Within p := by
  induction l with
  | nil => exact pure []
  | cons b l ih =>
    rw [List.mapM_cons]
    exact (hf b).bind fun a => ih.bind fun as => pure (a :: as)

theorem tell {e : Entry} (he : p e) : (Meter.tell e).Within p := by
  intro k e' he'
  rw [List.mem_singleton.mp he']
  exact he

/-! ### Computations that may be refused -/

variable {x : ExceptT ε Meter α}

theorem exceptPure (a : α) : (Pure.pure a : ExceptT ε Meter α).run.Within p :=
  pure _

theorem throw (e : ε) : (MonadExcept.throw e : ExceptT ε Meter α).run.Within p :=
  pure _

theorem exceptBind {f : α → ExceptT ε Meter β} (hx : x.run.Within p)
    (hf : ∀ a, (f a).run.Within p) : (x >>= f).run.Within p := by
  rw [ExceptT.run_bind]
  refine hx.bind fun r => ?_
  cases r with
  | ok a => exact hf a
  | error e => exact pure _

theorem tryCatch {handler : ε → ExceptT ε Meter α} (hx : x.run.Within p)
    (hh : ∀ e, (handler e).run.Within p) : (MonadExcept.tryCatch x handler).run.Within p := by
  rw [ExceptT.run_tryCatch]
  refine hx.bind fun r => ?_
  cases r with
  | ok a => exact pure _
  | error e => exact hh e

theorem lift (hm : m.Within p) : (liftM m : ExceptT ε Meter α).run.Within p :=
  hm.map _

theorem liftAttempt {a : Attempt α} (ha : a.run.Within p) : (liftM a : Trial α).run.Within p :=
  ha.bind fun _ => pure _

theorem liftExcept (r : Except Fault α) : (liftM r : Trial α).run.Within p :=
  pure _

theorem ofReply {request : Meter (Reply α)} {refusal : Cause → Error} (h : request.Within p) :
    (Attempt.ofReply request refusal).run.Within p := by
  refine h.bind fun r => ?_
  cases r with
  | done result => exact pure _
  | failed errno => exact pure _

/-- To insist on an operation is to do what it does. -/
theorem insist {m : Meter (Except Error α × β)} (h : m.Within p) :
    (Attempt.insist m).run.Within p :=
  h.bind fun _ => pure _

/-- An attempt, followed by an answer, does what the attempt does. -/
theorem answer {attempt : Attempt α} {f : α → Value} (h : attempt.run.Within p) :
    (do return f (← attempt) : Trial Value).run.Within p :=
  (liftAttempt h).exceptBind fun _ => exceptPure _

theorem keeping {a : α} {action : Trial Value} (h : action.run.Within p) :
    (TrialMeter.keeping a action).Within p :=
  h.bind fun _ => pure _

end Within

/-! ### Requests -/

theorem within_readClock {source : Source} (h : ∀ r, p (.clock source r)) :
    (readClock source).Within p := by
  intro k e he
  rw [List.mem_singleton.mp he]
  exact h _

theorem within_control {fd : Fd} {request : Control} (h : ∀ r, p (.control fd request 0 r)) :
    (control fd request).Within p := by
  intro k e he
  rw [List.mem_singleton.mp he]
  exact h _

theorem within_readCounter {fd : Fd} (h : ∀ d, p (.read fd 8 d)) :
    (readCounter fd).Within p := by
  intro k e he
  rw [List.mem_singleton.mp he]
  exact h _

theorem within_initChild (h : ∀ r, p (.childAttr r)) : initChild.Within p := by
  intro k e he
  rw [List.mem_singleton.mp he]
  exact h _

theorem within_startChild {path : String} {argv : List String} (h : ∀ r, p (.child path argv r)) :
    (startChild path argv).Within p := by
  intro k e he
  rw [List.mem_singleton.mp he]
  exact h _

theorem within_wait {pid : Pid} (h : ∀ r, p (.wait pid 0 r)) : (wait pid).Within p := by
  intro k e he
  rw [trace_wait] at he
  obtain ⟨reply, rfl⟩ := k.exists_eq_of_mem_waitCalls pid he
  exact h reply

theorem within_log {level : Log.Level} {target : Log.Target} {message : String}
    (h : ∀ line, p (.log line)) : (log level target message).Within p :=
  .tell (h _)

end Meter

open Meter (Within)

variable {p : Entry → Prop}

/-! ### Clocks -/

section Clocks

theorem Timestamp.within_now {source : Source} (h : ∀ r, p (.clock source r)) :
    (Timestamp.now source).run.Within p :=
  .ofReply (Meter.within_readClock h)

theorem IntervalClock.within_create {source : Source} (h : ∀ r, p (.clock source r)) :
    (IntervalClock.create source).run.Within p :=
  (Timestamp.within_now h).exceptBind fun _ => .exceptPure _

variable {c : IntervalClock}

theorem IntervalClock.within_start (h : ∀ r, p (.clock c.source r)) : c.start.Within p := by
  refine (Timestamp.within_now h).bind fun r => ?_
  cases r with
  | ok t => exact .pure _
  | error e => exact .pure _

theorem IntervalClock.within_stop (h : ∀ r, p (.clock c.source r)) : c.stop.Within p := by
  refine (Timestamp.within_now h).bind fun r => ?_
  cases r with
  | ok t => exact .pure _
  | error e => exact .pure _

variable {w : Stopwatch}

theorem Stopwatch.within_create {source : Source} (h : ∀ r, p (.clock source r)) :
    (Stopwatch.create source).run.Within p :=
  (IntervalClock.within_create h).exceptBind fun _ => .exceptPure _

theorem Stopwatch.within_start (h : ∀ r, p (.clock w.clock.source r)) : w.start.Within p := by
  refine (IntervalClock.within_start h).bind fun (result, clock) => ?_
  cases result with
  | ok t => exact .pure _
  | error e => exact .pure _

theorem Stopwatch.within_lap (h : ∀ r, p (.clock w.clock.source r)) : w.lap.Within p := by
  refine (IntervalClock.within_stop h).bind fun (result, clock) => ?_
  cases result with
  | ok t => exact .pure _
  | error e => exact .pure _

theorem Stopwatch.within_measure {work : Workload} (h : ∀ r, p (.clock w.clock.source r))
    (hw : p (.work work)) : (w.measure work).Within p := by
  refine (Timestamp.within_now h).bind fun first => ?_
  cases first with
  | error e => exact .pure _
  | ok start =>
    refine Within.bind (.tell hw) fun _ => (Timestamp.within_now h).bind fun second => ?_
    cases second with
    | error e => exact .pure _
    | ok stop => exact .pure _

end Clocks

/-! ### Children -/

namespace Child

theorem within_spawn {program : String} {args : List String} (ha : ∀ r, p (.childAttr r))
    (hc : ∀ r, p (.child program (program :: args) r)) (hl : ∀ line, p (.log line)) :
    (spawn program args).run.Within p := by
  refine Within.exceptBind (.pure _) fun _ => ?_
  refine (Within.ofReply (Meter.within_initChild ha)).exceptBind fun _ => ?_
  refine (Within.ofReply (Meter.within_startChild hc)).exceptBind fun _ => ?_
  exact (Within.lift (Meter.within_log hl)).exceptBind fun _ => .exceptPure _

theorem within_wait {pid : Pid} (hw : ∀ r, p (.wait pid 0 r)) (hl : ∀ line, p (.log line)) :
    (wait pid).run.Within p := by
  refine (Within.ofReply (Meter.within_wait hw)).exceptBind fun _ => ?_
  exact (Within.lift (Meter.within_log hl)).exceptBind fun _ => .exceptPure _

theorem within_spawnAndWait {program : String} {args : List String} (ha : ∀ r, p (.childAttr r))
    (hc : ∀ r, p (.child program (program :: args) r)) (hw : ∀ pid r, p (.wait pid 0 r))
    (hl : ∀ line, p (.log line)) : (spawnAndWait program args).run.Within p :=
  (within_spawn ha hc hl).exceptBind fun pid =>
    (within_wait (hw pid) hl).exceptBind fun _ => .exceptPure _

end Child

/-! ### Counters -/

/-- The requests that `b` makes of the descriptor that it holds satisfy `p`. -/
def Binding.Serves (p : Entry → Prop) (b : Binding) : Prop :=
  ∀ fd ∈ b.fd, (∀ request r, p (.control fd request 0 r)) ∧ ∀ d, p (.read fd 8 d)

namespace Binding

variable {b : Binding}

theorem requireFd_of_none (h : b.held = none) : b.requireFd = throw .notOpen := by
  simp only [requireFd, h]

theorem requireFd_of_some {d : Descriptor} (h : b.held = some d) :
    b.requireFd = pure d.fd := by
  simp only [requireFd, h]

/-- An operation that needs the held descriptor does nothing without one. -/
theorem within_requireFd_bind {α : Type} {f : Fd → Attempt α}
    (h : ∀ fd ∈ b.fd, (f fd).run.Within p) : (b.requireFd >>= f).run.Within p := by
  cases hb : b.held with
  | none =>
    rw [requireFd_of_none hb]
    exact Within.pure (Except.error Error.notOpen)
  | some d =>
    rw [requireFd_of_some hb, pure_bind]
    exact h d.fd (by simp [fd, hb])

theorem within_control {fd : Fd} {request : Control} (h : ∀ r, p (.control fd request 0 r)) :
    (control fd request).run.Within p :=
  .ofReply (Meter.within_control h)

theorem within_reset (h : b.Serves p) : b.reset.run.Within p :=
  within_requireFd_bind fun fd hfd => within_control ((h fd hfd).1 _)

theorem within_start (h : b.Serves p) : b.start.run.Within p :=
  within_requireFd_bind fun fd hfd =>
    (within_control ((h fd hfd).1 _)).exceptBind fun _ => within_control ((h fd hfd).1 _)

theorem within_stop (h : b.Serves p) : b.stop.run.Within p :=
  within_requireFd_bind fun fd hfd => within_control ((h fd hfd).1 _)

theorem within_read (h : b.Serves p) : b.read.run.Within p := by
  refine within_requireFd_bind fun fd hfd => ?_
  refine (Within.lift (Meter.within_readCounter (h fd hfd).2)).exceptBind fun d => ?_
  cases d with
  | full value => exact .exceptPure _
  | short bytes => exact .throw _
  | failed errno => exact .throw _

end Binding

namespace Counter

variable {c : Counter}

theorem within_retrieve (h : c.binding.Serves p) (hl : ∀ line, p (.log line)) :
    c.retrieve.Within p := by
  refine (Binding.within_read h).bind fun r => ?_
  cases r with
  | ok value => exact .pure _
  | error e => exact (Meter.within_log hl).bind fun _ => .pure _

theorem within_measure {work : Workload} (h : c.binding.Serves p) (hw : p (.work work)) :
    (c.measure work).run.Within p := by
  refine (Binding.within_start h).exceptBind fun _ => ?_
  refine (Within.lift (.tell hw)).exceptBind fun _ => ?_
  exact (Binding.within_stop h).exceptBind fun _ => Binding.within_read h

end Counter

/-! ### Groups -/

/-- The requests that the members of `g` make of the descriptors that they hold satisfy `p`. -/
def Group.Serves (p : Entry → Prop) (g : Group Counter) : Prop :=
  ∀ c ∈ g.members, c.binding.Serves p

namespace Group

theorem within_visitOpen {act : Counter → Meter (Except Error Unit)} {members : List Counter}
    (h : ∀ c ∈ members, (act c).Within p) : (visitOpen act members).Within p := by
  induction members with
  | nil => exact .pure _
  | cons c rest ih =>
    have hrest := ih fun x hx => h x (List.mem_cons_of_mem c hx)
    rw [visitOpen]
    split
    · exact (h c List.mem_cons_self).bind fun _ => hrest.bind fun _ => .pure _
    · exact hrest

variable {g : Group Counter}

theorem within_start (h : g.Serves p) : g.start.Within p :=
  within_visitOpen fun c hc => Binding.within_start (h c hc)

theorem within_stop (h : g.Serves p) : g.stop.Within p :=
  within_visitOpen fun c hc => Binding.within_stop (h c hc)

theorem within_retrieve (h : g.Serves p) (hl : ∀ line, p (.log line)) (kind : Kind) :
    (g.retrieve kind).Within p := by
  rw [retrieve]
  cases hget : g.get kind with
  | none => exact .pure _
  | some c => exact Counter.within_retrieve (h c (List.mem_of_find?_eq_some hget)) hl

end Group

theorem Record.within_ofGroup {g : Group Counter} (h : g.Serves p) (hl : ∀ line, p (.log line))
    (name : String) (time : Float) : (Record.ofGroup name time g : Meter Record).Within p := by
  rw [Record.ofGroup_eq_mapM]
  exact (Within.mapM (Group.within_retrieve h hl) _).map _

/-! ### Trials -/

namespace Trial

variable {s : Settings} {clock : IntervalClock} {g : Group Counter} {c : Counter} {pid : Pid}
  {work : Workload} {program : String} {args : List String}

section

variable (hl : ∀ line, p (.log line))

include hl

theorem within_warnRefused {what : String} (r : Except Error Unit) :
    (warnRefused what r).Within p := by
  cases r with
  | ok u => exact .pure _
  | error e => exact Meter.within_log hl

theorem within_startCounters (h : g.Serves p) : (startCounters g).Within p :=
  (Group.within_start h).bind fun r => within_warnRefused hl r

theorem within_stopCounters (h : g.Serves p) : (stopCounters g).Within p :=
  (Group.within_stop h).bind fun r => within_warnRefused hl r

theorem within_startCounter (h : c.binding.Serves p) : (startCounter c).Within p := by
  rw [startCounter]
  split
  · exact (Binding.within_start h).bind fun r => within_warnRefused hl r
  · exact .pure _

theorem within_stopCounter (h : c.binding.Serves p) : (stopCounter c).Within p := by
  rw [stopCounter]
  split
  · exact (Binding.within_stop h).bind fun r => within_warnRefused hl r
  · exact .pure _

theorem within_report {name : String} (h : g.Serves p) : (report s name clock g).run.Within p :=
  (Within.liftExcept _).exceptBind fun _ => .lift (Record.within_ofGroup h hl _ _)

theorem within_reap (hw : ∀ r, p (.wait pid 0 r)) : (reap program pid).run.Within p := by
  refine (Child.within_wait hw hl).exceptBind fun status => ?_
  split
  · exact .lift (Meter.within_log hl)
  · exact .lift (Meter.within_log hl)

theorem within_abandon {α : Type} {e : Error} (hw : ∀ r, p (.wait pid 0 r)) :
    (abandon pid e : Attempt α).run.Within p := by
  refine Within.exceptBind (Within.tryCatch ?_ fun refusal => ?_) fun _ => .throw _
  · exact (Child.within_wait hw hl).exceptBind fun _ => .exceptPure _
  · exact .lift (Meter.within_log hl)

/-- What is done between the attachment of `c` to a child and its release. -/
theorem within_countRest (h : c.binding.Serves p) (hw : ∀ r, p (.wait pid 0 r)) :
    (countRest c program pid).run.Within p := by
  refine (Within.lift (within_startCounter hl h)).exceptBind fun _ => ?_
  refine (within_reap hl hw).exceptBind fun _ => ?_
  refine (Within.lift (within_stopCounter hl h)).exceptBind fun _ => ?_
  exact .lift (Counter.within_retrieve h hl)

variable (hc : ∀ source r, p (.clock source r))

include hc

theorem within_startClock (hw : ∀ r, p (.wait pid 0 r)) :
    (startClock clock pid).run.Within p := by
  refine (Within.lift (IntervalClock.within_start (hc _))).exceptBind fun (result, clock) => ?_
  cases result with
  | ok t => exact .exceptPure _
  | error e => exact within_abandon hl hw

/-- What is done between the opening of a group and its release. -/
theorem within_sample (h : g.Serves p) (hw : p (.work work)) :
    (sample s clock g work).run.Within p := by
  refine (Within.liftAttempt (.insist (IntervalClock.within_start (hc _)))).exceptBind fun _ => ?_
  refine (Within.lift (within_startCounters hl h)).exceptBind fun _ => ?_
  refine (Within.lift (.tell hw)).exceptBind fun _ => ?_
  refine (Within.liftAttempt (.insist (IntervalClock.within_stop (hc _)))).exceptBind fun _ => ?_
  exact (Within.lift (within_stopCounters hl h)).exceptBind fun _ => within_report hl h

/-- What is done between the attachment of a group to a child and its release. -/
theorem within_watch (h : g.Serves p) (hw : ∀ r, p (.wait pid 0 r)) :
    (watch s clock g program args pid).run.Within p := by
  refine (Within.liftAttempt (within_startClock hl hc hw)).exceptBind fun _ => ?_
  refine (Within.lift (within_startCounters hl h)).exceptBind fun _ => ?_
  refine (Within.liftAttempt (within_reap hl hw)).exceptBind fun _ => ?_
  refine (Within.liftAttempt (.insist (IntervalClock.within_stop (hc _)))).exceptBind fun _ => ?_
  exact (Within.lift (within_stopCounters hl h)).exceptBind fun _ => within_report hl h

theorem within_timeProgram (ha : ∀ r, p (.childAttr r)) (hp : ∀ argv r, p (.child program argv r))
    (hw : ∀ pid r, p (.wait pid 0 r)) : (timeProgram s program args).run.Within p := by
  refine (Within.liftAttempt (IntervalClock.within_create (hc _))).exceptBind fun _ => ?_
  refine (Within.liftAttempt (.insist (IntervalClock.within_start (hc _)))).exceptBind fun _ => ?_
  refine (Within.liftAttempt (Child.within_spawnAndWait ha (hp _) hw hl)).exceptBind fun _ => ?_
  exact (Within.liftAttempt (.insist (IntervalClock.within_stop (hc _)))).exceptBind
    fun _ => .liftExcept _

end

variable (hc : ∀ source r, p (.clock source r)) (hw : ∀ work, p (.work work))

include hc hw

/-- What is done around a unit of work that is timed, up to its second sample. -/
theorem within_timed {α : Type} {rest : IntervalClock → Trial α}
    (hrest : ∀ clock, (rest clock).run.Within p) :
    (do
      let clock ← Attempt.insist clock.start
      Meter.work work
      let clock ← Attempt.insist clock.stop
      rest clock : Trial α).run.Within p := by
  refine (Within.liftAttempt (.insist (IntervalClock.within_start (hc _)))).exceptBind fun _ => ?_
  refine (Within.lift (.tell (hw work))).exceptBind fun _ => ?_
  exact (Within.liftAttempt (.insist (IntervalClock.within_stop (hc _)))).exceptBind fun _ =>
    hrest _

theorem within_time : (time s work).run.Within p :=
  (Within.liftAttempt (IntervalClock.within_create (hc _))).exceptBind fun _ =>
    within_timed hc hw fun _ => .liftExcept _

theorem within_timeAll {r : Resolution} (works : List Workload) :
    (timeAll clock r works).run.Within p := by
  induction works generalizing clock with
  | nil => exact .exceptPure []
  | cons work rest ih =>
    exact within_timed hc hw fun _ =>
      (Within.liftExcept _).exceptBind fun _ => ih.exceptBind fun _ => .exceptPure _

theorem within_timeEach {works : List Workload} : (timeEach s works).run.Within p :=
  (Within.liftAttempt (IntervalClock.within_create (hc _))).exceptBind fun _ =>
    within_timeAll hc hw works

theorem within_timeFrom {r : Resolution} {work : Nat → Workload} (i n : Nat) :
    (timeFrom clock r work i n).run.Within p := by
  induction n generalizing clock i with
  | zero => exact .exceptPure []
  | succ n ih =>
    exact within_timed hc hw fun _ =>
      (Within.liftExcept _).exceptBind fun _ => (ih (i + 1)).exceptBind fun _ => .exceptPure _

theorem within_timeRepeat {n : Nat} {work : Nat → Workload} :
    (timeRepeat s n work).run.Within p := by
  refine (Within.liftAttempt (IntervalClock.within_create (hc _))).exceptBind fun _ => ?_
  split
  · exact .throw _
  · exact within_timeFrom hc hw 0 n

end Trial

end TrialMeter
