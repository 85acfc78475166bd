import TrialMeter.Proofs.Trial.Phases

/-!
# The protocol of a battery on a child

A benchmark of a program has more ways out than one of work inside the program: the child may not be
started, and once it is started it has to be waited for, whatever else fails. The first thing that
fails decides the outcome; in particular a clock that cannot be read stays the outcome when the
child, which is then only waited for so as not to be left behind, cannot be waited for either.

## Main definitions

* `Kernel.watched`: what happens between the attachment of the battery and its release.
* `Kernel.programBenchmarked`: the whole benchmark.

## Main results

* `Child.does_spawn`, `Child.does_wait`: starting and waiting for a child.
* `Trial.does_benchmarkProgram`: the course of the benchmark.
* `Trial.benchmarkProgram_protocol`: its calls and its outcome, exactly.
-/

namespace TrialMeter

open Meter (Does)

namespace Kernel

variable (k : Kernel) (s : Settings) (program : String) (args : List String) (pid : Pid)
  (reading : List Entry)

/-- How the rest of a child's life is sampled by a battery that is attached to it, and what that
leaves. `reading` is what is left when the battery is read. -/
def watched : Except Failure Record × List Entry :=
  let fds := k.descriptors 0 14
  let second := .clock s.source (k.clockAt 1)
  let starts := k.startCalls fds 0
  let waits := k.waitCalls pid 0
  let third := .clock s.source (k.clockAt 2)
  let stops := k.stopCalls fds starts.length
  match k.clockAt 1, k.waited 0, k.clockAt 2 with
  | .failed e, _, _ => (.error (.error (.clock s.source (.os e))), second :: waits)
  | .done _, .failed e, _ => (.error (.error (.waiting pid (.os e))), second :: (starts ++ waits))
  | .done _, .done _, .failed e =>
    (.error (.error (.clock s.source (.os e))), second :: (starts ++ (waits ++ [third])))
  | .done start, .done _, .done stop =>
    let report := k.reported s.resolution (Child.invocation program args) start stop reading
    (report.1, second :: (starts ++ (waits ++ third :: (stops ++ report.2))))

/-- How a benchmark of a program goes, and what it leaves. -/
def programBenchmarked : Except Failure Record × List Entry :=
  let first := .clock s.source (k.clockAt 0)
  let setup := .childAttr (k.childAttrAt 0)
  let child := .child program (program :: args) (k.childAt 0)
  let closes := closeCalls (k.descriptors 0 14)
  match k.clockAt 0, Child.checkArguments (program :: args), k.childAttrAt 0, k.childAt 0 with
  | .failed e, _, _, _ => (.error (.error (.clock s.source (.os e))), [first])
  | .done _, .error e, _, _ => (.error (.error e), [first])
  | .done _, .ok (), .failed e, _ => (.error (.error (.childAttr (.os e))), [first, setup])
  | .done _, .ok (), .done (), .failed e =>
    (.error (.error (.spawning program (.os e))), [first, setup, child])
  | .done _, .ok (), .done (), .done pid =>
    let watch := k.watched s program args pid reading
    (watch.1, first :: setup :: child :: (k.openCalls pid Kind.standard 0 ++ (watch.2 ++ closes)))

theorem calls_watched :
    calls (k.watched s program args pid reading).2 =
      (k.watched s program args pid (calls reading)).2 := by
  unfold watched
  cases k.clockAt 1 with
  | failed e => simp only [calls_cons, Entry.isCall, ↓reduceIte, (k.mute_waitCalls _ _).calls_eq]
  | done start =>
    cases k.waited 0 with
    | failed e =>
      simp only [calls_cons, Entry.isCall, ↓reduceIte, calls_append,
        (k.mute_startCalls _ _).calls_eq, (k.mute_waitCalls _ _).calls_eq]
    | done status =>
      cases k.clockAt 2 with
      | failed e =>
        simp only [calls_cons, Entry.isCall, ↓reduceIte, calls_append,
          (k.mute_startCalls _ _).calls_eq, (k.mute_waitCalls _ _).calls_eq, calls_nil]
      | done stop =>
        simp only [calls_cons, Entry.isCall, ↓reduceIte, calls_append,
          (k.mute_startCalls _ _).calls_eq, (k.mute_waitCalls _ _).calls_eq,
          (k.mute_stopCalls _ _).calls_eq, calls_reported]

theorem calls_programBenchmarked :
    calls (k.programBenchmarked s program args reading).2 =
      (k.programBenchmarked s program args (calls reading)).2 := by
  unfold programBenchmarked
  split
  · rfl
  · rfl
  · rfl
  · rfl
  · simp only [calls_cons, Entry.isCall, ↓reduceIte, calls_append, calls_openCalls, calls_watched,
      (mute_closeCalls _).calls_eq]

/-- The outcome of a benchmark does not depend on what is left when the counters are read. -/
theorem fst_programBenchmarked (reading' : List Entry) :
    (k.programBenchmarked s program args reading).1 =
      (k.programBenchmarked s program args reading').1 := by
  unfold programBenchmarked watched
  split
  · rfl
  · rfl
  · rfl
  · rfl
  · simp only
    split
    · rfl
    · rfl
    · rfl
    · exact k.fst_reported reading reading'

end Kernel

variable {k : Kernel} {u : Spent} {program : String} {args : List String} {pid : Pid}

/-! ### Children -/

namespace Child

theorem does_spawn_unchecked {e : Error} (h : checkArguments (program :: args) = .error e) :
    (spawn program args).run.Does k u (· = .error e) u [] := by
  rw [spawn, h]
  exact .pure rfl

variable (h : checkArguments (program :: args) = .ok ())

include h

theorem does_spawn_unset {e : Errno} (hattr : k.childAttrAt u.childAttrs = .failed e) :
    (spawn program args).run.Does k u (· = .error (.childAttr (.os e)))
      { u with childAttrs := u.childAttrs + 1 } [.childAttr (.failed e)] := by
  have hsetup : (Attempt.ofReply Meter.initChild .childAttr).run.Does k u _ _ _ :=
    .ofReply Meter.does_initChild
  rw [hattr] at hsetup
  rw [spawn, h, Attempt.mk_ok, pure_bind]
  exact hsetup.stop rfl

theorem does_spawn_refused {e : Errno} (hattr : k.childAttrAt u.childAttrs = .done ())
    (hchild : k.childAt u.children = .failed e) :
    (spawn program args).run.Does k u (· = .error (.spawning program (.os e)))
      { u with childAttrs := u.childAttrs + 1, children := u.children + 1 }
      [.childAttr (.done ()), .child program (program :: args) (.failed e)] := by
  have hsetup : (Attempt.ofReply Meter.initChild .childAttr).run.Does k u _ _ _ :=
    .ofReply Meter.does_initChild
  have hstart : (Attempt.ofReply (Meter.startChild program (program :: args))
      (.spawning program)).run.Does k { u with childAttrs := u.childAttrs + 1 } _ _ _ :=
    .ofReply (Meter.does_startChild program (program :: args))
  rw [hattr] at hsetup
  rw [hchild] at hstart
  rw [spawn, h, Attempt.mk_ok, pure_bind]
  exact hsetup.ok (hstart.stop rfl)

theorem does_spawn (hattr : k.childAttrAt u.childAttrs = .done ())
    (hchild : k.childAt u.children = .done pid) :
    (spawn program args).run.Does k u (· = .ok pid)
      { u with childAttrs := u.childAttrs + 1, children := u.children + 1 }
      [.childAttr (.done ()), .child program (program :: args) (.done pid)] := by
  have hsetup : (Attempt.ofReply Meter.initChild .childAttr).run.Does k u _ _ _ :=
    .ofReply Meter.does_initChild
  have hstart : (Attempt.ofReply (Meter.startChild program (program :: args))
      (.spawning program)).run.Does k { u with childAttrs := u.childAttrs + 1 } _ _ _ :=
    .ofReply (Meter.does_startChild program (program :: args))
  rw [hattr] at hsetup
  rw [hchild] at hstart
  rw [spawn, h, Attempt.mk_ok, pure_bind]
  exact hsetup.ok (hstart.okPure (.liftLog (by decide) (.return rfl)))

end Child

section

variable {e : Errno} {status : WaitStatus}

theorem Child.does_wait (h : k.waited u.waits = .done status) :
    (Child.wait pid).run.Does k u (· = .ok status)
      { u with waits := u.waits + (k.interruptions u.waits + 1) } (k.waitCalls pid u.waits) := by
  have hwait : (Attempt.ofReply (Meter.wait pid) (.waiting pid)).run.Does k u _ _ _ :=
    .ofReply (Meter.does_wait pid)
  rw [h] at hwait
  exact hwait.okPure (.liftLog (by decide) (.return rfl))

theorem Child.does_wait_refused (h : k.waited u.waits = .failed e) :
    (Child.wait pid).run.Does k u (· = .error (.waiting pid (.os e)))
      { u with waits := u.waits + (k.interruptions u.waits + 1) } (k.waitCalls pid u.waits) := by
  have hwait : (Attempt.ofReply (Meter.wait pid) (.waiting pid)).run.Does k u _ _ _ :=
    .ofReply (Meter.does_wait pid)
  rw [h] at hwait
  exact hwait.stop rfl

end

/-! ### The trial -/

namespace Trial

theorem does_reap {status : WaitStatus} (h : k.waited u.waits = .done status) :
    (reap program pid).run.Does k u (· = .ok ())
      { u with waits := u.waits + (k.interruptions u.waits + 1) } (k.waitCalls pid u.waits) := by
  refine (Child.does_wait h).okPure ?_
  by_cases hstatus : status.success
  · rw [if_pos hstatus]
    exact (Does.log (by decide)).map fun _ _ => rfl
  · rw [if_neg hstatus]
    exact (Does.log (by decide)).map fun _ _ => rfl

theorem does_reap_refused {e : Errno} (h : k.waited u.waits = .failed e) :
    (reap program pid).run.Does k u (· = .error (.waiting pid (.os e)))
      { u with waits := u.waits + (k.interruptions u.waits + 1) } (k.waitCalls pid u.waits) :=
  (Child.does_wait_refused h).stop rfl

/-- A child whose trial has failed is waited for, and the failure stays. -/
theorem does_abandon {α : Type} (e : Error) :
    (abandon pid e : Attempt α).run.Does k u (· = .error e)
      { u with waits := u.waits + (k.interruptions u.waits + 1) } (k.waitCalls pid u.waits) := by
  refine Does.okPure (a := ()) ?_ (.pure rfl)
  cases hreply : k.waited u.waits with
  | failed errno =>
    have hrest : (Child.wait pid >>= fun _ => pure () : Attempt Unit).run.Does k u
        (· = .error (.waiting pid (.os errno))) _ _ := (Child.does_wait_refused hreply).stop rfl
    refine (hrest.catchError ?_).congr rfl (List.append_nil _)
    exact (Does.log (by decide)).map fun _ _ => rfl
  | done status =>
    have hrest : (Child.wait pid >>= fun _ => pure () : Attempt Unit).run.Does k u
        (· = .ok ()) _ _ := (Child.does_wait hreply).okPure (.return rfl)
    exact hrest.catchOk

/-- A clock that is started for a child. -/
theorem does_startClock {t : Timestamp} (clock : IntervalClock) (h : k.clockAt u.clocks = .done t) :
    (startClock clock pid).run.Does k u (· = .ok { clock with startTime := t })
      { u with clocks := u.clocks + 1 } [.clock clock.source (.done t)] := by
  have hstart := clock.does_start (k := k) (u := u)
  rw [h] at hstart
  refine (hstart.lift fun r hr => ?_).congr rfl (List.append_nil _)
  subst hr
  exact .return rfl

/-- A clock that cannot be started for a child leaves it waited for. -/
theorem does_startClock_refused {e : Errno} (clock : IntervalClock)
    (h : k.clockAt u.clocks = .failed e) :
    (startClock clock pid).run.Does k u (· = .error (.clock clock.source (.os e)))
      { u with clocks := u.clocks + 1, waits := u.waits + (k.interruptions u.waits + 1) }
      (.clock clock.source (.failed e) :: k.waitCalls pid u.waits) := by
  have hstart := clock.does_start (k := k) (u := u)
  rw [h] at hstart
  refine hstart.lift fun r hr => ?_
  subst hr
  exact does_abandon _

theorem does_attach (kinds : List Kind) :
    (attach ⟨kinds.map Counter.quiet⟩ pid).Does k u
      (· = ⟨k.battery (.process pid) kinds u.counters⟩)
      { u with counters := u.counters + kinds.length } (k.openCalls pid kinds u.counters) := by
  refine (Group.does_reopen kinds pid).bindPure fun r hr => ?_
  obtain ⟨result, g⟩ := r
  subst hr
  exact (does_warnRefused _ result).bindPure fun _ _ => .pure rfl

section

variable {g : Group Counter} {subject : Subject} (s : Settings) (program : String)
  (args : List String) (pid : Pid) (t : Timestamp)

/-- The course of a watch, between the attachment of the battery and its release. -/
theorem does_watch (hg : g.members = k.battery subject Kind.standard 0) :
    ∃ u', (watch s { source := s.source, startTime := t } g program args pid).run.Does k
      { clocks := 1, counters := 14, childAttrs := 1, children := 1 }
      (· = (k.watched s program args pid (k.readout Kind.standard 0)).1) u'
      (k.watched s program args pid (k.readout Kind.standard 0)).2 := by
  have hfds : openFds g.members = k.descriptors 0 14 := hg ▸ k.openFds_battery subject _ 0
  unfold watch Kernel.watched
  simp only [IntervalClock.insist_stop]
  rw [← hfds]
  cases h₁ : k.clockAt 1 with
  | failed e =>
    exact ⟨_, (does_startClock_refused _ h₁).attempt.stop rfl⟩
  | done start =>
    cases hreply : k.waited 0 with
    | failed e =>
      exact ⟨_, (does_startClock _ h₁).attempt.ok <| (does_startCounters g).lift
        fun _ _ => (does_reap_refused hreply).attempt.stop rfl⟩
    | done status =>
      cases h₂ : k.clockAt 2 with
      | failed e =>
        exact ⟨_, (does_startClock _ h₁).attempt.ok <| (does_startCounters g).lift
          fun _ _ => (does_reap hreply).attempt.ok <|
          (Timestamp.does_now_refused _ h₂).attempt.stop rfl⟩
      | done stop =>
        exact ⟨_, (does_startClock _ h₁).attempt.ok <| (does_startCounters g).lift
          fun _ _ => (does_reap hreply).attempt.ok <| (Timestamp.does_now _ h₂).attempt.ok <|
          (does_stopCounters g).lift fun _ _ => does_report hg rfl⟩

/-- A battery that was attached is released after the watch. -/
theorem does_watch_release (hg : g.members = k.battery subject Kind.standard 0) :
    ∃ u', (Meter.finally (watch s { source := s.source, startTime := t } g program args pid)
      g.release).run.Does k { clocks := 1, counters := 14, childAttrs := 1, children := 1 }
      (· = (k.watched s program args pid (k.readout Kind.standard 0)).1) u'
      ((k.watched s program args pid (k.readout Kind.standard 0)).2 ++
        closeCalls (k.descriptors 0 14)) := by
  obtain ⟨u', hwatch⟩ := does_watch s program args pid t hg
  have hrelease := g.does_release (k := k) (u := u')
  rw [hg, k.openFds_battery] at hrelease
  exact ⟨u', hwatch.finally hrelease⟩

end

/-- The course of a benchmark of a program. -/
theorem does_benchmarkProgram (s : Settings) (program : String) (args : List String) :
    ∃ u', (benchmarkProgram s program args).run.Does k {}
      (· = (k.programBenchmarked s program args (k.readout Kind.standard 0)).1) u'
      (k.programBenchmarked s program args (k.readout Kind.standard 0)).2 := by
  have hquiet : Group.quiet Kind.standard = .ok ⟨Kind.standard.map Counter.quiet⟩ :=
    Group.quiet_of_nodup (by decide)
  unfold benchmarkProgram Kernel.programBenchmarked IntervalClock.create
  rw [hquiet, liftM_ok]
  simp only [pure_bind]
  cases h₀ : k.clockAt 0 with
  | failed e => exact ⟨_, (Timestamp.does_now_refused _ h₀).attempt.stop rfl⟩
  | done t =>
    cases hargs : Child.checkArguments (program :: args) with
    | error e =>
      exact ⟨_, (Timestamp.does_now _ h₀).attempt.ok <|
        (Child.does_spawn_unchecked hargs).attempt.stop rfl⟩
    | ok checked =>
      cases hattr : k.childAttrAt 0 with
      | failed e =>
        exact ⟨_, (Timestamp.does_now _ h₀).attempt.ok <|
          (Child.does_spawn_unset hargs hattr).attempt.stop rfl⟩
      | done set =>
        cases hchild : k.childAt 0 with
        | failed e =>
          exact ⟨_, (Timestamp.does_now _ h₀).attempt.ok <|
            (Child.does_spawn_refused hargs hattr hchild).attempt.stop rfl⟩
        | done pid =>
          obtain ⟨u', hwatch⟩ := does_watch_release s program args pid t
            (g := ⟨k.battery (.process pid) Kind.standard 0⟩) rfl
          refine ⟨u', (Timestamp.does_now _ h₀).attempt.ok <|
            (Child.does_spawn hargs hattr hchild).attempt.ok ?_⟩
          refine (does_attach Kind.standard).lift fun g hg => ?_
          subst hg
          exact hwatch

/-- **The protocol of a benchmark of a program.** Whatever the kernel answers, the calls of a
benchmark of a program are: one sample of the clock; the start of the child; one request for each
standard kind, in order, for that child; a second sample; a reset of each counter that was granted,
with an enabling when the reset was done; the waits for the child, up to the first that is not
interrupted; a third sample; one disabling, one read and one release of each counter that was
granted. What fails first decides the outcome and which calls are left out: a child that was started
is waited for, and the granted counters are released, in every case. -/
theorem benchmarkProgram_protocol (s : Settings) (program : String) (args : List String)
    (k : Kernel) :
    let run := (benchmarkProgram s program args).run k
    let course := k.programBenchmarked s program args (k.readCalls (k.descriptors 0 14) 0)
    calls run.trace = course.2 ∧ run.value = course.1 ∧ k.waited 0 ≠ .failed .interrupted := by
  intro run course
  obtain ⟨u', hcourse⟩ := does_benchmarkProgram (k := k) s program args
  have hreading : calls (k.readout Kind.standard 0) = k.readCalls (k.descriptors 0 14) 0 :=
    k.calls_readout Kind.standard 0
  refine ⟨?_, hcourse.value.trans (k.fst_programBenchmarked s program args _ _),
    k.waited_ne_interrupted 0⟩
  calc calls run.trace
      = calls (k.programBenchmarked s program args (k.readout Kind.standard 0)).2 :=
        hcourse.calls_trace
    _ = course.2 := by rw [k.calls_programBenchmarked, hreading]

end Trial

end TrialMeter
