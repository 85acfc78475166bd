import TrialMeter.Proofs.Kernel.Exact
import TrialMeter.Proofs.Trace.Audit

/-!
# The conduct of counters and children

Much of what a measurement does is of no interest to an audit that watches over counting windows or
over children. A state of such an audit is idle when it is kept by every entry about clocks, the log
and counters, save for those that start a counter, and at rest when it is also kept by the two
entries of a start, taken together. An audit tends children when it is at rest with no child and
with one, and goes from one to the other with the entries that start a child and reap it. Every
computation of this library then passes: those that concern no child keep any state at rest, and
those that start a child end at rest without it, whichever way they end.

## Main definitions

* `Audit.Idle`, `Audit.AtRest`: a state that counters leave alone.
* `Audit.Tends`: an audit that goes along with children.

## Main results

* `Binding.start_of_done`, `Binding.start_of_refused`, `Binding.start_of_none`: the ways to start.
* `Audit.AtRest.start`: starting a counter keeps a state at rest, although its two entries need not
  keep it one by one.
* `Audit.AtRest.sample`, `Audit.Tends.watch`: what is done between opening and release.
* `Audit.Tends.perform`: every trial.
-/

namespace TrialMeter

/-! ### Starting a counter -/

namespace Binding

variable {b : Binding} {d : Descriptor} {k : Kernel} {u : Spent}

theorem start_of_none (h : b.held = none) : b.start.run k = ⟨.error .notOpen, k, []⟩ := by
  rw [start, requireFd_of_none h]
  rfl

/-- A start whose reset is refused ends there. -/
theorem start_of_refused (h : b.held = some d) {errno : Errno}
    (hreset : k.controlAt u.controls = .failed errno) :
    b.start.run (k.after u) = ⟨.error (.controlling (.os errno)),
      k.after { u with controls := u.controls + 1 },
      [.control d.fd .reset 0 (.failed errno)]⟩ := by
  have hcontrol := control_after (k := k) (u := u) d.fd .reset
  rw [hreset] at hcontrol
  rw [start, requireFd_of_some h, pure_bind]
  exact Meter.run_stop hcontrol

/-- A start whose reset is done goes on to the enabling. -/
theorem start_of_done (h : b.held = some d) (hreset : k.controlAt u.controls = .done ()) :
    b.start.run (k.after u) = ⟨(k.controlAt (u.controls + 1)).result .controlling,
      k.after { u with controls := u.controls + 2 },
      [.control d.fd .reset 0 (.done ()),
        .control d.fd .enable 0 (k.controlAt (u.controls + 1))]⟩ := by
  have hcontrol := control_after (k := k) (u := u) d.fd .reset
  rw [hreset] at hcontrol
  rw [start, requireFd_of_some h, pure_bind]
  exact Meter.run_ok hcontrol (control_after d.fd .enable)

end Binding

namespace Audit

open Meter (Within)

variable {σ α β ε : Type} {A : Audit σ} {s : σ}

/-! ### Rules for requests and groups -/

/-- A request whose failure is an error. -/
theorem Passes.ofReply {request : Meter (Reply α)} {refusal : Cause → Error}
    {mid : Reply α → σ → Prop} (hm : A.Passes s request mid) :
    A.Passes s (Attempt.ofReply request refusal).run fun r s' =>
      ∃ reply, r = reply.result refusal ∧ mid reply s' := by
  refine hm.bind fun reply s' h => ?_
  cases reply with
  | done a => exact Passes.pure ⟨_, rfl, h⟩
  | failed errno => exact Passes.pure ⟨_, rfl, h⟩

theorem Preserves.visit {act : Counter → Meter (Except Error Unit × Counter)}
    (hact : ∀ c, A.Preserves s (act c)) (cs : List Counter) :
    A.Preserves s (Group.visit act cs) := by
  induction cs with
  | nil => exact Preserves.pure _
  | cons c cs ih => exact (hact c).bind fun _ => ih.bind fun _ => Preserves.pure _

theorem Preserves.visitOpen {act : Counter → Meter (Except Error Unit)}
    (hact : ∀ c, A.Preserves s (act c)) (cs : List Counter) :
    A.Preserves s (Group.visitOpen act cs) := by
  induction cs with
  | nil => exact Preserves.pure _
  | cons c cs ih =>
    rw [Group.visitOpen]
    split
    · exact (hact c).bind fun _ => ih.bind fun _ => Preserves.pure _
    · exact ih

/-! ### Counters -/

/-- A state that the audit keeps whatever is done to clocks and the log, and to counters short of
starting them. -/
structure Idle (A : Audit σ) (s : σ) : Prop where
  clock : ∀ source reply, A.step s (.clock source reply) = some s
  counter : ∀ attr pid reply, A.step s (.counter attr pid (-1) (-1) closeOnExec reply) = some s
  disable : ∀ fd reply, A.step s (.control fd .disable 0 reply) = some s
  read : ∀ fd delivery, A.step s (.read fd 8 delivery) = some s
  close : ∀ fd, A.step s (.close fd) = some s
  work : ∀ workload, A.step s (.work workload) = some s
  log : ∀ line, A.step s (.log line) = some s

/-- An idle state that the audit also keeps over the start of a counter: over a reset that is
refused, and over one that is done and the enabling after it, taken together. -/
structure AtRest (A : Audit σ) (s : σ) : Prop extends A.Idle s where
  refused : ∀ fd errno, A.step s (.control fd .reset 0 (.failed errno)) = some s
  window : ∀ fd reply,
    A.check s [.control fd .reset 0 (.done ()), .control fd .enable 0 reply] = some s

namespace Idle

variable (h : A.Idle s)

include h

theorem tellLog (level : Log.Level) (target : Log.Target) (message : String) :
    A.Preserves s (Meter.log level target message) :=
  preserves_of_within (Meter.within_log h.log)

theorem tellWork (workload : Workload) : A.Preserves s (Meter.work workload) :=
  preserves_of_within (.tell (h.work workload))

/-! #### Bindings -/

section Binding

variable (b : Binding)

theorem openFor (subject : Subject) : A.Preserves s (b.openFor subject) := by
  have hask : A.Preserves s (Meter.openCounter b.attr subject.pid) := by
    refine preserves_of_within fun k e he => ?_
    unfold Meter.openCounter at he
    split at he
    · exact List.mem_singleton.mp he ▸ h.counter _ _ _
    · exact List.mem_singleton.mp he ▸ h.counter _ _ _
  unfold Binding.openFor
  cases b.held with
  | some d => exact Preserves.pure _
  | none =>
    refine hask.bind fun reply => ?_
    cases reply with
    | done fd => exact (h.tellLog _ _ _).bind fun _ => Preserves.pure _
    | failed errno => exact Preserves.pure _

theorem release : A.Preserves s b.release := by
  unfold Binding.release
  cases b.held with
  | some d => exact (preserves_of_within (.tell (h.close d.fd))).bind fun _ => Preserves.pure _
  | none => exact Preserves.pure _

theorem reopenFor (subject : Subject) : A.Preserves s (b.reopenFor subject) :=
  (h.release b).bind fun b' => h.openFor b' subject

theorem stop : A.Preserves s b.stop.run :=
  preserves_of_within (Binding.within_requireFd_bind fun fd _ =>
    Binding.within_control (h.disable fd))

theorem readCount : A.Preserves s b.read.run := by
  refine preserves_of_within (Binding.within_requireFd_bind fun fd _ => ?_)
  refine (Within.lift (Meter.within_readCounter (h.read fd))).exceptBind fun delivery => ?_
  cases delivery with
  | full value => exact .exceptPure _
  | short bytes => exact .throw _
  | failed errno => exact .throw _

end Binding

/-! #### Handles and groups -/

section Counter

variable (c : Counter)

theorem openHere : A.Preserves s c.openHere := (h.openFor c.binding .caller).map _

theorem reopen (pid : Pid) : A.Preserves s (c.reopen pid) :=
  (h.reopenFor c.binding (.process pid)).map _

theorem reopenHere : A.Preserves s c.reopenHere := (h.reopenFor c.binding .caller).map _

theorem create (kind : Kind) : A.Preserves s (Counter.create kind).run :=
  (h.openHere (Counter.quiet kind)).insist

theorem finish (b : Builder) : A.Preserves s b.finish.run :=
  (h.openFor b.build b.subject).insist

theorem giveBack : A.Preserves s c.release := (h.release c.binding).map _

theorem retrieve : A.Preserves s c.retrieve := by
  refine (h.readCount c.binding).bind fun result => ?_
  cases result with
  | ok value => exact Preserves.pure _
  | error e => exact (h.tellLog _ _ _).bind fun _ => Preserves.pure _

end Counter

theorem releaseAll (cs : List Counter) : A.Preserves s (Group.releaseAll cs) := by
  induction cs with
  | nil => exact Preserves.pure _
  | cons c cs ih => exact (h.giveBack c).bind fun _ => ih

theorem ofCounters (cs : List Counter) : A.Preserves s (Group.ofCounters cs).run := by
  unfold Group.ofCounters
  split
  · exact Preserves.exceptPure _
  · exact (h.releaseAll _).liftBind fun _ => (h.releaseAll _).liftBind fun _ => Preserves.pure _

section Group

variable (g : Group Counter)

theorem openGroup : A.Preserves s g.openHere :=
  (Preserves.visit h.openHere g.members).bind fun _ => Preserves.pure _

theorem reopenGroup (pid : Pid) : A.Preserves s (g.reopen pid) :=
  (Preserves.visit (fun c => h.reopen c pid) g.members).bind fun _ => Preserves.pure _

theorem stopGroup : A.Preserves s g.stop :=
  Preserves.visitOpen (fun c => h.stop c.binding) g.members

theorem retrieveKind (kind : Kind) : A.Preserves s (g.retrieve kind) := by
  unfold Group.retrieve
  cases g.get kind with
  | none => exact Preserves.pure _
  | some c => exact h.retrieve c

theorem record (name : String) (time : Float) :
    A.Preserves s (Record.ofGroup name time g : Meter Record) := by
  rw [Record.ofGroup_eq_mapM]
  exact (Preserves.mapM (h.retrieveKind g) _).map _

end Group

theorem createGroup (kinds : List Kind) : A.Preserves s (Group.create kinds).run := by
  refine Preserves.exceptBind (Preserves.pure _) (fun g => ?_) fun _ => rfl
  refine (h.openGroup g).liftBind fun r => ?_
  obtain ⟨result, g'⟩ := r
  cases result with
  | ok u => exact Preserves.exceptPure _
  | error e => exact (h.tellLog _ _ _).liftBind fun _ => Preserves.exceptPure _

/-! #### Clocks -/

theorem now (source : Source) : A.Preserves s (Timestamp.now source).run :=
  preserves_of_within (Timestamp.within_now (h.clock source))

theorem createClock (source : Source) : A.Preserves s (IntervalClock.create source).run :=
  preserves_of_within (IntervalClock.within_create (h.clock source))

theorem startClock (c : IntervalClock) : A.Preserves s c.start :=
  preserves_of_within (IntervalClock.within_start (h.clock c.source))

theorem stopClock (c : IntervalClock) : A.Preserves s c.stop :=
  preserves_of_within (IntervalClock.within_stop (h.clock c.source))

/-! #### Steps of trials -/

section Trial

variable {set : Settings}

theorem warnRefused (what : String) (r : Except Error Unit) :
    A.Preserves s (Trial.warnRefused what r) :=
  preserves_of_within (Trial.within_warnRefused h.log r)

theorem stopCounters (g : Group Counter) : A.Preserves s (Trial.stopCounters g) :=
  (h.stopGroup g).bind fun r => h.warnRefused _ r

theorem stopCounter (c : Counter) : A.Preserves s (Trial.stopCounter c) := by
  unfold Trial.stopCounter
  split
  · exact (h.stop c.binding).bind fun r => h.warnRefused _ r
  · exact Preserves.pure _

theorem report (name : String) (clock : IntervalClock) (g : Group Counter) :
    A.Preserves s (Trial.report set name clock g).run :=
  (Preserves.ofExcept _).exceptBind (fun time => (h.record g name time).lift) fun _ => rfl

theorem openEach (kinds : List Kind) : A.Preserves s (Trial.openEach kinds) := by
  induction kinds with
  | nil => exact Preserves.pure _
  | cons kind kinds ih =>
    refine (h.openHere _).bind fun r => ?_
    exact (h.warnRefused _ r.1).bind fun _ => ih.bind fun _ => Preserves.pure _

end Trial

end Idle

/-! ### Starting and stopping -/

namespace AtRest

variable (h : A.AtRest s)

include h

/-- The two entries of a start are taken together: when the reset is done, the audit may leave `s`,
and it is the enabling that brings it back. -/
theorem start (b : Binding) : A.Preserves s b.start.run := by
  intro k
  cases hheld : b.held with
  | none =>
    rw [Binding.start_of_none hheld]
    exact ⟨s, rfl, rfl⟩
  | some d =>
    cases hreset : k.controlAt 0 with
    | failed errno =>
      have hrun := Binding.start_of_refused (u := {}) hheld hreset
      refine ⟨s, ?_, rfl⟩
      rw [show b.start.run k = _ from hrun, check_cons, h.refused]
      rfl
    | done grant =>
      have hrun := Binding.start_of_done (u := {}) hheld hreset
      refine ⟨s, ?_, rfl⟩
      rw [show b.start.run k = _ from hrun]
      exact h.window _ _

theorem measure (c : Counter) (work : Workload) : A.Preserves s (c.measure work).run := by
  refine (h.start c.binding).exceptBind (fun _ => ?_) fun _ => rfl
  refine (h.tellWork work).liftBind fun _ => ?_
  exact (h.stop c.binding).exceptBind (fun _ => h.readCount c.binding) fun _ => rfl

theorem startGroup (g : Group Counter) : A.Preserves s g.start :=
  Preserves.visitOpen (fun c => h.start c.binding) g.members

theorem drive (g : Group Counter) (d : Drive) : A.Preserves s (g.drive d) := by
  cases d with
  | openHere => exact h.openGroup g
  | reopen pid => exact h.reopenGroup g pid
  | start => exact (h.startGroup g).bind fun _ => Preserves.pure _
  | stop => exact (h.stopGroup g).bind fun _ => Preserves.pure _

theorem startCounters (g : Group Counter) : A.Preserves s (Trial.startCounters g) :=
  (h.startGroup g).bind fun r => h.warnRefused _ r

theorem startCounter (c : Counter) : A.Preserves s (Trial.startCounter c) := by
  unfold Trial.startCounter
  split
  · exact (h.start c.binding).bind fun r => h.warnRefused _ r
  · exact Preserves.pure _

section Trial

variable {set : Settings} {work : Workload}

/-- What is done between the opening of a group and its release, and the release. -/
theorem sample (clock : IntervalClock) (g : Group Counter) :
    A.Preserves s (Meter.finally (Trial.sample set clock g work) g.release).run := by
  refine Preserves.finally ?_ (h.releaseAll g.members)
  refine (h.startClock clock).insist.attemptBind (fun clock => ?_) fun _ => rfl
  refine (h.startCounters g).liftBind fun _ => (h.tellWork work).liftBind fun _ => ?_
  refine (h.stopClock clock).insist.attemptBind (fun clock => ?_) fun _ => rfl
  exact (h.stopCounters g).liftBind fun _ => h.report _ clock g

theorem benchmark : A.Preserves s (Trial.benchmark set work).run := by
  refine (h.createClock set.source).attemptBind (fun clock => ?_) fun _ => rfl
  refine (h.openEach Kind.standard).liftBind fun cs => ?_
  exact (h.ofCounters cs).attemptBind (fun g => h.sample clock g) fun _ => rfl

theorem benchmarkBatch : A.Preserves s (Trial.benchmarkBatch set work).run := by
  refine (h.createClock set.source).attemptBind (fun clock => ?_) fun _ => rfl
  refine Preserves.exceptBind (Preserves.pure _) (fun g => ?_) fun _ => rfl
  refine (h.openGroup g).liftBind fun r => ?_
  exact (h.warnRefused _ r.1).liftBind fun _ => h.sample clock r.2

theorem countOne (kind : Kind) : A.Preserves s (Trial.countOne kind work) := by
  refine (h.openHere _).bind fun r => (h.warnRefused _ r.1).bind fun _ => ?_
  refine (h.startCounter r.2).bind fun _ => (h.tellWork work).bind fun _ => ?_
  refine (h.stopCounter r.2).bind fun _ => (h.retrieve r.2).bind fun _ => ?_
  exact (h.giveBack r.2).bind fun _ => Preserves.pure _

end Trial

end AtRest

/-! ### Children -/

/-- An audit that goes along with children: `free` is at rest without a child, `busy pid` with one
that has to be reaped. -/
structure Tends (A : Audit σ) (free : σ) (busy : Pid → σ) : Prop where
  rest : A.AtRest free
  rest_busy : ∀ pid, A.AtRest (busy pid)
  childAttr : ∀ reply, A.step free (.childAttr reply) = some free
  refused : ∀ path argv errno, A.step free (.child path argv (.failed errno)) = some free
  started : ∀ path argv pid, A.step free (.child path argv (.done pid)) = some (busy pid)
  interrupted : ∀ pid, A.step (busy pid) (.wait pid 0 (.failed .interrupted)) = some (busy pid)
  reaped : ∀ pid reply, reply ≠ .failed .interrupted →
    A.step (busy pid) (.wait pid 0 reply) = some free

/-- The state after an attempt, which depends on whether it succeeds. -/
def stateAfter (failed : σ) (succeeded : α → σ) : Except ε α → σ
  | .ok a => succeeded a
  | .error _ => failed

namespace Tends

variable {free : σ} {busy : Pid → σ} (h : A.Tends free busy)

include h

/-- A child that was started has to be reaped, and a refused start leaves none. -/
theorem spawn (program : String) (args : List String) :
    A.Passes free (Child.spawn program args).run fun r s' => s' = stateAfter free busy r := by
  have hask : A.Passes free (Meter.startChild program (program :: args)) fun reply s' =>
      s' = match reply with | .done pid => busy pid | .failed _ => free := by
    intro k
    unfold Meter.startChild
    cases k.script.children.headD (.done (k.newPid k.asked)) with
    | done pid => exact ⟨busy pid, (check_singleton _ _ _).trans (h.started _ _ pid), rfl⟩
    | failed errno => exact ⟨free, (check_singleton _ _ _).trans (h.refused _ _ errno), rfl⟩
  refine Preserves.exceptBind (Preserves.pure _) (fun _ => ?_) fun _ => rfl
  refine Preserves.exceptBind (preserves_of_within ?_) (fun _ => ?_) fun _ => rfl
  · exact .ofReply (Meter.within_initChild h.childAttr)
  · refine (Passes.ofReply hask).exceptBind ?_ ?_
    · rintro pid s' ⟨reply, hreply, rfl⟩
      cases reply with
      | done pid' =>
        obtain rfl : pid = pid' := Except.ok.inj hreply
        exact ((h.rest_busy pid).tellLog _ _ _).liftBind fun _ => Passes.pure rfl
      | failed errno => exact absurd hreply nofun
    · rintro e s' ⟨reply, hreply, rfl⟩
      cases reply with
      | done pid => exact absurd hreply nofun
      | failed errno => rfl

/-- However often it is interrupted, a wait ends with an answer, which reaps the child. -/
theorem waitOut (pid : Pid) : A.Passes (busy pid) (Meter.wait pid) fun _ s' => s' = free := by
  have hinterrupted (n : ℕ) : A.check (busy pid)
      (List.replicate n (.wait pid 0 (.failed .interrupted))) = some (busy pid) := by
    induction n with
    | zero => rfl
    | succ n ih => rw [List.replicate_succ, check_cons, h.interrupted, Option.bind_some, ih]
  intro k
  refine ⟨free, ?_, rfl⟩
  rw [Meter.trace_wait, Kernel.waitCalls, check_append, hinterrupted, Option.bind_some,
    check_singleton]
  exact h.reaped pid _ (k.waited_ne_interrupted 0)

theorem wait (pid : Pid) : A.Passes (busy pid) (Child.wait pid).run fun _ s' => s' = free := by
  refine (Passes.ofReply (h.waitOut pid)).exceptBind ?_ ?_
  · rintro status s' ⟨reply, -, rfl⟩
    exact (h.rest.tellLog _ _ _).liftBind fun _ => Passes.pure rfl
  · rintro e s' ⟨reply, -, hs'⟩
    exact hs'

theorem spawnAndWait (program : String) (args : List String) :
    A.Preserves free (Child.spawnAndWait program args).run := by
  refine (h.spawn program args).exceptBind ?_ fun _ _ hs' => hs'
  rintro pid _ rfl
  refine (h.wait pid).exceptBind ?_ fun _ _ hs' => hs'
  rintro status _ rfl
  exact Passes.pure rfl

/-! #### Trials of a program -/

section Trial

variable {set : Settings} {program : String} {args : List String}

theorem reap (pid : Pid) :
    A.Passes (busy pid) (Trial.reap program pid).run fun _ s' => s' = free := by
  refine (h.wait pid).exceptBind ?_ fun _ _ hs' => hs'
  rintro status _ rfl
  split
  · exact (h.rest.tellLog _ _ _).lift
  · exact (h.rest.tellLog _ _ _).lift

/-- A child whose trial failed is reaped. -/
theorem abandon {α : Type} (pid : Pid) (e : Error) :
    A.Passes (busy pid) (Trial.abandon pid e : Attempt α).run fun r s' =>
      s' = stateAfter free (fun _ => busy pid) r := by
  let attempt : Attempt Unit := do
    let _ ← Child.wait pid
  have hattempt : A.Passes (busy pid) attempt.run fun _ s' => s' = free := by
    refine (h.wait pid).exceptBind ?_ fun _ _ hs' => hs'
    rintro status _ rfl
    exact Passes.pure rfl
  have htry : A.Passes (busy pid) (MonadExcept.tryCatch attempt fun refusal => Meter.log .warn
      .trial ("could not reap pid " ++ toString pid ++ ": " ++ refusal.message)).run
      fun _ s' => s' = free := by
    refine hattempt.tryCatch (fun _ _ hs' => hs') ?_
    rintro refusal _ rfl
    exact (h.rest.tellLog _ _ _).lift
  refine htry.exceptBind ?_ fun _ _ hs' => hs'
  rintro u _ rfl
  exact Passes.pure rfl

theorem startClock (clock : IntervalClock) (pid : Pid) :
    A.Passes (busy pid) (Trial.startClock clock pid).run fun r s' =>
      s' = stateAfter free (fun _ => busy pid) r := by
  refine ((h.rest_busy pid).startClock clock).liftBind fun (result, clock) => ?_
  cases result with
  | ok t => exact Passes.pure rfl
  | error e => exact h.abandon pid e

/-- What is done between the attachment of a group to a child and its release, and the release. The
child is reaped on every way out. -/
theorem watch (clock : IntervalClock) (g : Group Counter) (pid : Pid) :
    A.Passes (busy pid) (Meter.finally (Trial.watch set clock g program args pid) g.release).run
      fun _ s' => s' = free := by
  have hbody : A.Passes (busy pid) (Trial.watch set clock g program args pid).run
      fun _ s' => s' = free := by
    refine (h.startClock clock pid).attemptBind ?_ fun _ _ hs' => hs'
    rintro clock _ rfl
    refine ((h.rest_busy pid).startCounters g).liftBind fun _ => ?_
    refine (h.reap pid).attemptBind ?_ fun _ _ hs' => hs'
    rintro u _ rfl
    refine (h.rest.stopClock clock).insist.attemptBind (fun clock => ?_) fun _ => rfl
    exact (h.rest.stopCounters g).liftBind fun _ => h.rest.report _ clock g
  refine hbody.finally ?_
  rintro r _ rfl
  exact h.rest.releaseAll g.members

theorem benchmarkProgram : A.Preserves free (Trial.benchmarkProgram set program args).run := by
  refine (h.rest.createClock set.source).attemptBind (fun clock => ?_) fun _ => rfl
  refine Preserves.exceptBind (Preserves.pure _) (fun g => ?_) fun _ => rfl
  refine (h.spawn program args).attemptBind ?_ fun _ _ hs' => hs'
  rintro pid _ rfl
  have hattach : A.Preserves (busy pid) (Trial.attach g pid) := by
    refine ((h.rest_busy pid).reopenGroup g pid).bind fun r => ?_
    exact ((h.rest_busy pid).warnRefused _ r.1).bind fun _ => Preserves.pure _
  exact hattach.liftBind fun g' => h.watch clock g' pid

theorem countProgram (kind : Kind) :
    A.Preserves free (Trial.countProgram kind program args).run := by
  refine (h.spawn program args).exceptBind ?_ fun _ _ hs' => hs'
  rintro pid _ rfl
  refine ((h.rest_busy pid).reopen _ pid).liftBind fun r => ?_
  refine ((h.rest_busy pid).warnRefused _ r.1).liftBind fun _ => ?_
  have hbody : A.Passes (busy pid) (Trial.countRest r.2 program pid).run fun _ s' => s' = free := by
    refine ((h.rest_busy pid).startCounter r.2).liftBind fun _ => ?_
    refine (h.reap pid).exceptBind ?_ fun _ _ hs' => hs'
    rintro u _ rfl
    exact (h.rest.stopCounter r.2).liftBind fun _ => (h.rest.retrieve r.2).lift
  refine hbody.finally ?_
  rintro result _ rfl
  exact (h.rest.giveBack r.2).map _

theorem timeProgram : A.Preserves free (Trial.timeProgram set program args).run := by
  refine (h.rest.createClock set.source).attemptBind (fun clock => ?_) fun _ => rfl
  refine (h.rest.startClock clock).insist.attemptBind (fun clock => ?_) fun _ => rfl
  refine (h.spawnAndWait program args).attemptBind (fun _ => ?_) fun _ => rfl
  exact (h.rest.stopClock clock).insist.attemptBind (fun _ => Preserves.ofExcept _) fun _ => rfl

end Trial

/-- **Every trial** passes, and ends at rest. -/
theorem perform (set : Settings) (e : Experiment) : A.Preserves free (e.perform set).run := by
  cases e with
  | benchmark work => exact h.rest.benchmark.exceptMap _
  | benchmarkBatch work => exact h.rest.benchmarkBatch.exceptMap _
  | benchmarkProgram program args => exact h.benchmarkProgram.exceptMap _
  | countOne kind work => exact (h.rest.countOne kind).liftBind fun _ => Preserves.pure _
  | countProgram kind program args =>
    exact (h.countProgram kind).attemptBind (fun _ => Preserves.pure _) fun _ => rfl
  | time work =>
    have htime : A.Preserves free (Trial.time set work).run :=
      preserves_of_within (Trial.within_time h.rest.clock h.rest.work)
    exact htime.exceptMap _
  | timeProgram program args => exact h.timeProgram.exceptMap _
  | timeEach works =>
    have htimes : A.Preserves free (Trial.timeEach set works).run :=
      preserves_of_within (Trial.within_timeEach h.rest.clock h.rest.work)
    exact htimes.exceptMap _
  | timeRepeat n work =>
    have htimes : A.Preserves free (Trial.timeRepeat set n work).run :=
      preserves_of_within (Trial.within_timeRepeat h.rest.clock h.rest.work)
    exact htimes.exceptMap _

end Tends

end Audit

end TrialMeter
