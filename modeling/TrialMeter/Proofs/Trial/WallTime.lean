import TrialMeter.Proofs.Child.Starting
import TrialMeter.Proofs.Command.Reading
import TrialMeter.Proofs.Kernel.Exact
import TrialMeter.Proofs.Trace.Footprint

/-!
# The wall time of a program

The wall time of a program is taken in seven steps: a clock is made, which samples it; it is
started; the arguments are checked; the attributes of a child are set up; the child is asked for; it
is waited for; the clock is stopped. Each of them may be refused. The first refusal is the outcome,
and nothing comes after it, so the calls of a run are those of a beginning of the steps. If none is
refused the time is the distance between the two samples around the life of the child, however the
child ended. A command prints this time.

## Main definitions

* `Step`, `Step.callsOf`, `Step.refusalOf`: steps, each of which needs those before it.
* `Kernel.timingSteps`: the steps by which the wall time of a program is taken.
* `Kernel.LetsRun`: a kernel that refuses none of them.
* `Trial.TakesWallTime`: how a wall time is taken.
* `Command.TimeOne.Prints`: how it is printed.

## Main results

* `Step.callsOf_append`: steps that come after others.
* `Trial.does_timeProgram`: the course of a timing.
* `Command.TimeOne.wallTime`: the steps, the outcome, and what is printed.
-/

namespace TrialMeter

open Meter (Does)

/-! ### Steps -/

/-- A step of a trial: the calls it makes, and the error with which it ends if it is refused. -/
structure Step where
  calls : List Entry
  refusal : Option Error

namespace Step

/-- The step that makes `calls` and ends with the result `r`. -/
def of {α : Type} (calls : List Entry) (r : Except Error α) : Step where
  calls
  refusal := match r with
    | .ok _ => none
    | .error e => some e

/-- The calls of steps of which each needs those before it: what comes after a refusal is left out.
-/
def callsOf : List Step → List Entry
  | [] => []
  | step :: rest => step.calls ++
    match step.refusal with
    | none => callsOf rest
    | some _ => []

/-- The first refusal among steps. -/
def refusalOf (steps : List Step) : Option Error := steps.findSome? refusal

theorem callsOf_append (steps rest : List Step) :
    callsOf (steps ++ rest) =
      callsOf steps ++ if refusalOf steps = none then callsOf rest else [] := by
  induction steps with
  | nil => rfl
  | cons step steps ih =>
    obtain ⟨calls, refusal | e⟩ := step
    · exact (congrArg (calls ++ ·) ih).trans (List.append_assoc _ _ _).symm
    · exact (List.append_nil _).symm

theorem mem_callsOf {steps : List Step} {e : Entry} (h : e ∈ callsOf steps) :
    ∃ step ∈ steps, e ∈ step.calls := by
  induction steps with
  | nil => exact absurd h List.not_mem_nil
  | cons step steps ih =>
    rcases List.mem_append.mp h with h | h
    · exact ⟨step, List.mem_cons_self, h⟩
    · obtain ⟨calls, refusal | error⟩ := step
      · obtain ⟨step, hmem, he⟩ := ih h
        exact ⟨step, List.mem_cons_of_mem _ hmem, he⟩
      · exact absurd h List.not_mem_nil

theorem refusalOf_of_eq_none_iff {α : Type} {calls : List Entry} {r : Except Error α}
    {rest : List Step} :
    refusalOf (of calls r :: rest) = none ↔ (∃ a, r = .ok a) ∧ refusalOf rest = none := by
  cases r with
  | ok a => exact ⟨fun h => ⟨⟨a, rfl⟩, h⟩, And.right⟩
  | error e => exact ⟨nofun, fun h => absurd h.1 nofun⟩

/-- The outcome of steps is the first refusal among them or, if there is none, a value that
satisfies `P`. -/
def Ends {α : Type} (steps : List Step) (P : Except Failure α → Prop) (v : Except Failure α) :
    Prop :=
  match refusalOf steps with
  | some e => v = .error (.error e)
  | none => P v

/-- From position `u` on, a run of `x` takes `steps`: it makes their calls and has their outcome. -/
def Taken {α : Type} (x : Trial α) (k : Kernel) (u : Spent) (steps : List Step)
    (P : Except Failure α → Prop) : Prop :=
  ∃ u', x.run.Does k u (Ends steps P) u' (callsOf steps)

namespace Taken

variable {α β : Type} {k : Kernel} {u u' : Spent} {steps : List Step}
  {P : Except Failure β → Prop} {es : List Entry} {f : α → Trial β}

/-- An attempt is a step, and what comes after it is left out if it is refused. -/
theorem attempt {x : Attempt α} {r : Except Error α} (hx : x.run.Does k u (· = r) u' es)
    (hf : ∀ a, r = .ok a → Taken (f a) k u' steps P) :
    Taken (liftM x >>= f) k u (of es r :: steps) P := by
  cases r with
  | error e =>
    refine ⟨u', Does.congr ?_ rfl (List.append_nil es).symm⟩
    exact hx.attempt.stop rfl
  | ok a =>
    obtain ⟨u'', hrest⟩ := hf a rfl
    exact ⟨u'', hx.attempt.ok hrest⟩

/-- A request is a step. -/
theorem request {m : Meter (Reply α)} {refusal : Cause → Error} {reply : Reply α}
    (hm : m.Does k u (· = reply) u' es) (hf : ∀ a, reply = .done a → Taken (f a) k u' steps P) :
    Taken (liftM (Attempt.ofReply m refusal) >>= f) k u (of es (reply.result refusal) :: steps)
      P := by
  refine attempt (.ofReply hm) fun a h => hf a ?_
  cases reply with
  | done result => exact congrArg Reply.done (Except.ok.inj h)
  | failed e => exact absurd h nofun

/-- A line of the log is no step. -/
theorem log {level : Log.Level} {target : Log.Target} {message : String} {f : Unit → Trial β}
    (h : target ≠ .counter) (hf : Taken (f ()) k u steps P) :
    Taken (liftM (liftM (Meter.log level target message) : Attempt Unit) >>= f) k u steps P := by
  obtain ⟨u', hrest⟩ := hf
  have hlog : (liftM (Meter.log level target message) : Attempt Unit).run.Does k u (· = .ok ()) u
      [] := (Does.log h).map fun _ _ => rfl
  exact ⟨u', hlog.attempt.ok hrest⟩

end Taken

end Step

theorem Reply.exists_result_eq_ok_iff {α : Type} {refusal : Cause → Error} {reply : Reply α} :
    (∃ a, reply.result refusal = .ok a) ↔ ∃ a, reply = .done a := by
  cases reply with
  | done a => exact iff_of_true ⟨a, rfl⟩ ⟨a, rfl⟩
  | failed e => exact iff_of_false nofun nofun

/-! ### The steps of a timing -/

/-- What concerns a child. -/
def Entry.isOfChild : Entry → Bool
  | .childAttr _ | .child .. | .wait .. => true
  | _ => false

/-- What concerns a counter. -/
def Entry.isOfCounter : Entry → Bool
  | .counter .. | .control .. | .read .. | .close _ => true
  | _ => false

namespace Kernel

variable (k : Kernel) (s : Settings) (program : String) (args : List String)

/-- A sample of the clock that follows `i` others. -/
def clockStep (i : ℕ) : Step :=
  .of [.clock s.source (k.clockAt i)] ((k.clockAt i).result (.clock s.source))

/-- The wait for the child that was asked for. -/
def waitStep : Step :=
  match k.childAt 0 with
  | .done pid => .of (k.waitCalls pid 0) ((k.waited 0).result (.waiting pid))
  | .failed _ => .of [] (.ok ())

/-- The steps that concern the child. -/
def childSteps : List Step := [
  .of [] (Child.checkArguments (program :: args)),
  .of [.childAttr (k.childAttrAt 0)] ((k.childAttrAt 0).result .childAttr),
  .of [.child program (program :: args) (k.childAt 0)] ((k.childAt 0).result (.spawning program)),
  k.waitStep]

/-- The steps by which the wall time of a program is taken. -/
def timingSteps : List Step :=
  [0, 1].map (k.clockStep s) ++ (k.childSteps program args ++ [2].map (k.clockStep s))

/-- Nothing stands against a run of a program that starts at one sample and is over at another. -/
structure LetsRun (start stop : Timestamp) : Prop where
  made : ∃ t, k.clockAt 0 = .done t
  started : k.clockAt 1 = .done start
  fit : ∀ a ∈ program :: args, ¬Child.IsUnfit a
  attr : k.childAttrAt 0 = .done ()
  child : ∃ pid, k.childAt 0 = .done pid
  waited : ∃ status, k.waited 0 = .done status
  stopped : k.clockAt 2 = .done stop

variable {k s program args}

/-- There is only one run that nothing stands against. -/
theorem LetsRun.exists_and_iff {start stop : Timestamp} {p : Timestamp → Timestamp → Prop}
    (h : k.LetsRun program args start stop) :
    (∃ start' stop', k.LetsRun program args start' stop' ∧ p start' stop') ↔ p start stop := by
  refine ⟨?_, fun hp => ⟨start, stop, h, hp⟩⟩
  rintro ⟨start', stop', h', hp⟩
  obtain rfl : start = start' := Reply.done.inj (h.started.symm.trans h'.started)
  obtain rfl : stop = stop' := Reply.done.inj (h.stopped.symm.trans h'.stopped)
  exact hp

theorem refusalOf_clockStep {i : ℕ} {rest : List Step} :
    Step.refusalOf (k.clockStep s i :: rest) = none ↔
      (∃ t, k.clockAt i = .done t) ∧ Step.refusalOf rest = none := by
  rw [clockStep, Step.refusalOf_of_eq_none_iff, Reply.exists_result_eq_ok_iff]

/-- The wait for a child that was started is refused unless the child is reaped. -/
theorem refusalOf_waitStep {rest : List Step} {pid : Pid} (h : k.childAt 0 = .done pid) :
    Step.refusalOf (k.waitStep :: rest) = none ↔
      (∃ status, k.waited 0 = .done status) ∧ Step.refusalOf rest = none := by
  rw [waitStep, h, Step.refusalOf_of_eq_none_iff, Reply.exists_result_eq_ok_iff]

/-- No step is refused if and only if nothing stands against the run. -/
theorem refusalOf_timingSteps :
    Step.refusalOf (k.timingSteps s program args) = none ↔
      ∃ start stop, k.LetsRun program args start stop := by
  simp only [timingSteps, childSteps, List.map_cons, List.map_nil, List.cons_append,
    List.nil_append, refusalOf_clockStep, Step.refusalOf_of_eq_none_iff,
    Reply.exists_result_eq_ok_iff]
  constructor
  · rintro ⟨hmade, ⟨start, hstart⟩, ⟨⟨⟩, hfit⟩, ⟨⟨⟩, hattr⟩, ⟨pid, hchild⟩, hrest⟩
    rw [refusalOf_waitStep hchild, refusalOf_clockStep] at hrest
    obtain ⟨hwaited, ⟨stop, hstop⟩, -⟩ := hrest
    exact ⟨start, stop, hmade, hstart, Child.checkArguments_ok_iff.mp hfit, hattr, ⟨pid, hchild⟩,
      hwaited, hstop⟩
  · rintro ⟨start, stop, hmade, hstart, hfit, hattr, ⟨pid, hchild⟩, hwaited, hstop⟩
    refine ⟨hmade, ⟨start, hstart⟩, ⟨(), Child.checkArguments_ok_iff.mpr hfit⟩, ⟨(), hattr⟩,
      ⟨pid, hchild⟩, ?_⟩
    rw [refusalOf_waitStep hchild, refusalOf_clockStep]
    exact ⟨hwaited, ⟨stop, hstop⟩, rfl⟩

end Kernel

/-- What stands in a list of three parts, but neither in the first nor in the last, comes after the
first and a beginning of the second. -/
theorem before_eq_of_middle {α : Type} {first middle last before after : List α} {x : α}
    (h : first ++ (middle ++ last) = before ++ x :: after) (hfirst : x ∉ first)
    (hlast : x ∉ last) : ∃ part, before = first ++ part ∧ part <+: middle := by
  obtain ⟨part, rfl, hrest⟩ | ⟨extra, rfl, hrest⟩ := List.append_eq_append_iff.mp h
  · obtain ⟨extra, rfl, rfl⟩ | ⟨extra, hmiddle, hextra⟩ := List.append_eq_append_iff.mp hrest
    · exact absurd (List.mem_append_right _ List.mem_cons_self) hlast
    · exact ⟨part, rfl, extra, hmiddle.symm⟩
  · cases extra with
    | nil => exact ⟨[], by rw [List.append_nil, List.append_nil], List.nil_prefix⟩
    | cons y extra =>
      obtain ⟨rfl, -⟩ := List.cons.inj hrest
      exact absurd (List.mem_append_right _ List.mem_cons_self) hfirst

namespace Trial

/-- A sequence of attempts in a trial is a sequence of attempts in a trial. -/
theorem liftM_bind {α β : Type} (x : Attempt α) (f : α → Attempt β) :
    (liftM (x >>= f) : Trial β) = liftM x >>= fun a => liftM (f a) := by
  have hrun {γ : Type} (y : Attempt γ) :
    (liftM y : Trial γ).run = y.run >>= fun r => pure (r.mapError .error) := rfl
  refine ExceptT.ext ?_
  rw [hrun, ExceptT.run_bind, ExceptT.run_bind, hrun, bind_assoc, bind_assoc]
  refine bind_congr fun r => ?_
  cases r with
  | ok a => rfl
  | error e => rfl

variable {k : Kernel} (s : Settings) (program : String) (args : List String)

/-- The timing of a program, request by request. -/
theorem timeProgram_eq : timeProgram s program args = (do
    let _ ← Timestamp.now s.source
    let start ← Timestamp.now s.source
    (ExceptT.mk (pure (Child.checkArguments (program :: args))) : Attempt Unit)
    Attempt.ofReply Meter.initChild .childAttr
    let pid ← Attempt.ofReply (Meter.startChild program (program :: args)) (.spawning program)
    (Meter.log .debug .child ("spawned " ++ program ++ " as pid " ++ toString pid) : Attempt Unit)
    let status ← Attempt.ofReply (Meter.wait pid) (.waiting pid)
    (Meter.log .debug .child ("pid " ++ toString pid ++ " exited with " ++ status.text) :
      Attempt Unit)
    let stop ← Timestamp.now s.source
    s.resolution.between start stop) := by
  simp only [timeProgram, IntervalClock.create, IntervalClock.insist_start,
    IntervalClock.insist_stop, Child.spawnAndWait, Child.spawn, Child.wait, liftM_bind, liftM_pure,
    bind_assoc, pure_bind]
  rfl

/-- What comes out of a timing none of whose steps is refused. -/
def Timed (k : Kernel) (v : Except Failure Float) : Prop :=
  ∃ start stop, k.LetsRun program args start stop ∧
    v = (s.resolution.between start stop).mapError .fault

/-- The timing of a program takes the seven steps. -/
theorem timeProgram_taken : Step.Taken (timeProgram s program args) k {}
    (k.timingSteps s program args) (Timed s program args k) := by
  rw [timeProgram_eq]
  refine .request (Meter.does_readClock _) fun _ h₀ => ?_
  refine .request (Meter.does_readClock _) fun start h₁ => ?_
  refine .attempt (.pure rfl) fun _ hargs => ?_
  refine .request Meter.does_initChild fun _ hattr => ?_
  refine .request (Meter.does_startChild _ _) fun pid hchild => ?_
  refine .log (by decide) ?_
  have hwait : k.waitStep = .of (k.waitCalls pid 0) ((k.waited 0).result (.waiting pid)) := by
    rw [Kernel.waitStep, hchild]
  rw [hwait]
  refine .request (Meter.does_wait pid) fun status hstatus => ?_
  refine .log (by decide) ?_
  refine .request (Meter.does_readClock _) fun stop h₂ => ?_
  exact ⟨_, .pure ⟨start, stop, ⟨⟨_, h₀⟩, h₁, Child.checkArguments_ok_iff.mp hargs, hattr,
    ⟨pid, hchild⟩, ⟨status, hstatus⟩, h₂⟩, rfl⟩⟩

/-- How a run takes the wall time of `program` on the kernel `k`. -/
structure TakesWallTime (k : Kernel) (run : Ran (Except Failure Float)) : Prop where
  /-- No counter is asked for, controlled, read or given back. -/
  uncounted : ∀ e ∈ run.trace, e.isOfCounter = false
  /-- The calls are those of the steps, up to and with the first that is refused. -/
  calls_eq : calls run.trace = Step.callsOf (k.timingSteps s program args)
  /-- What concerns the child comes after two samples of the clock and before a third. -/
  framed : ∀ before e after, calls run.trace = before ++ e :: after → e.isOfChild →
    ∃ t start, before.filterMap Entry.clockReply? = [.done t, .done start]
  /-- A time is the distance between the second sample and the third, and is given if and only if no
  step is refused and the distance has a number, however the child ended. -/
  ok_iff : ∀ time, run.value = .ok time ↔
    ∃ start stop, k.LetsRun program args start stop ∧ s.resolution.between start stop = .ok time
  /-- The error of a run is the first refusal. -/
  error_iff : ∀ e, run.value = .error (.error e) ↔
    Step.refusalOf (k.timingSteps s program args) = some e
  /-- Otherwise the distance has no number. -/
  fault_iff : ∀ f, run.value = .error (.fault f) ↔
    ∃ start stop, k.LetsRun program args start stop ∧ s.resolution.between start stop = .error f

section

variable {s program args}

/-- The steps of a clock are its samples. -/
theorem eq_of_mem_clockSteps {is : List ℕ} {e : Entry}
    (he : e ∈ Step.callsOf (is.map (k.clockStep s))) :
    ∃ i, e = .clock s.source (k.clockAt i) := by
  obtain ⟨step, hstep, he⟩ := Step.mem_callsOf he
  obtain ⟨i, -, rfl⟩ := List.mem_map.mp hstep
  exact ⟨i, List.mem_singleton.mp he⟩

/-- The steps that concern the child are mute. -/
theorem mute_childSteps : Mute (Step.callsOf (k.childSteps program args)) := by
  intro e he
  obtain ⟨step, hstep, he⟩ := Step.mem_callsOf he
  simp only [Kernel.childSteps, List.mem_cons, List.not_mem_nil, or_false] at hstep
  obtain rfl | rfl | rfl | rfl := hstep
  · exact absurd he List.not_mem_nil
  · exact List.mem_singleton.mp he ▸ rfl
  · exact List.mem_singleton.mp he ▸ rfl
  · unfold Kernel.waitStep at he
    cases hchild : k.childAt 0 with
    | done pid =>
      rw [hchild] at he
      exact k.mute_waitCalls pid 0 e he
    | failed errno =>
      rw [hchild] at he
      exact absurd he List.not_mem_nil

/-- The steps leave no log. -/
theorem calls_timingSteps : calls (Step.callsOf (k.timingSteps s program args)) =
    Step.callsOf (k.timingSteps s program args) := by
  have hclock {is : List ℕ} : calls (Step.callsOf (is.map (k.clockStep s))) =
      Step.callsOf (is.map (k.clockStep s)) := List.filter_eq_self.mpr fun e he => by
    obtain ⟨i, rfl⟩ := eq_of_mem_clockSteps he
    rfl
  rw [Kernel.timingSteps, Step.callsOf_append, Step.callsOf_append, calls_append, hclock,
    apply_ite calls, calls_append, mute_childSteps.calls_eq, apply_ite calls, hclock, calls_nil]

/-- What concerns the child stands between the samples around it. -/
theorem framed_timingSteps {before after : List Entry} {e : Entry}
    (h : Step.callsOf (k.timingSteps s program args) = before ++ e :: after) (he : e.isOfChild) :
    ∃ t start, before.filterMap Entry.clockReply? = [.done t, .done start] := by
  have hclock {is : List ℕ} : e ∉ Step.callsOf (is.map (k.clockStep s)) := fun hmem => by
    obtain ⟨i, rfl⟩ := eq_of_mem_clockSteps hmem
    exact Bool.false_ne_true he
  rw [Kernel.timingSteps, Step.callsOf_append] at h
  -- The child is asked for only if the first two samples are taken.
  have hsampled : Step.refusalOf ([0, 1].map (k.clockStep s)) = none := by
    by_contra hrefused
    rw [if_neg hrefused, List.append_nil] at h
    exact hclock (h ▸ List.mem_append_right _ List.mem_cons_self)
  rw [if_pos hsampled, Step.callsOf_append] at h
  obtain ⟨part, rfl, hpart⟩ := before_eq_of_middle h hclock fun hmem => by
    split at hmem
    · exact hclock hmem
    · exact List.not_mem_nil hmem
  obtain ⟨⟨t, ht⟩, hrest⟩ := Kernel.refusalOf_clockStep.mp hsampled
  obtain ⟨⟨start, hstart⟩, -⟩ := Kernel.refusalOf_clockStep.mp hrest
  have hmute : Mute part := fun e hmem => mute_childSteps e (hpart.subset hmem)
  refine ⟨t, start, ?_⟩
  rw [List.filterMap_append, telling_clockReply.filterMap_mute hmute, List.map_cons, List.map_cons,
    Kernel.clockStep, Kernel.clockStep, ht, hstart]
  rfl

/-- What comes out of the steps. -/
theorem ends_timingSteps {v : Except Failure Float}
    (h : Step.Ends (k.timingSteps s program args) (Timed s program args k) v) :
    (∀ time, v = .ok time ↔
      ∃ start stop, k.LetsRun program args start stop ∧
        s.resolution.between start stop = .ok time) ∧
    (∀ e, v = .error (.error e) ↔ Step.refusalOf (k.timingSteps s program args) = some e) ∧
    ∀ f, v = .error (.fault f) ↔
      ∃ start stop, k.LetsRun program args start stop ∧
        s.resolution.between start stop = .error f := by
  unfold Step.Ends at h
  cases hrefusal : Step.refusalOf (k.timingSteps s program args) with
  | some e =>
    rw [hrefusal] at h
    have hnone {p : Timestamp → Timestamp → Prop} :
        ¬∃ start stop, k.LetsRun program args start stop ∧ p start stop := by
      rintro ⟨start, stop, hlets, -⟩
      rw [Kernel.refusalOf_timingSteps.mpr ⟨start, stop, hlets⟩] at hrefusal
      exact absurd hrefusal nofun
    simp [h, hnone]
  | none =>
    rw [hrefusal] at h
    obtain ⟨start, stop, hlets, hv⟩ := h
    simp only [hlets.exists_and_iff, hv]
    cases s.resolution.between start stop with
    | ok time => simp [Except.mapError]
    | error f => simp [Except.mapError]

end

theorem takesWallTime : TakesWallTime s program args k ((timeProgram s program args).run k) := by
  obtain ⟨u', hdoes⟩ := timeProgram_taken (k := k) s program args
  have hcalls := hdoes.calls_trace.trans calls_timingSteps
  have hcounter : (timeProgram s program args).run.Within (·.isOfCounter = false) :=
    within_timeProgram (fun _ => rfl) (fun _ _ => rfl) (fun _ => rfl) (fun _ _ => rfl)
      (fun _ _ => rfl)
  obtain ⟨hok, herror, hfault⟩ := ends_timingSteps hdoes.value
  exact ⟨hcounter k, hcalls, fun _ _ _ h => framed_timingSteps (hcalls.symm.trans h), hok, herror,
    hfault⟩

end Trial

/-! ### The command -/

namespace Command

namespace TimeOne

/-- How a run of the command prints the outcome of a timing. -/
structure Prints (timed : Ran (Except Failure Float)) (run : Ran Exit) : Prop where
  /-- The command does what the timing does. -/
  kernel_eq : run.kernel = timed.kernel
  trace_eq : run.trace = timed.trace
  /-- It succeeds if and only if there is a time, and then prints it. -/
  done_iff : run.value.code = 0 ↔ ∃ time, timed.value = .ok time
  printed : ∀ time, timed.value = .ok time → run.value.stdout = numberText time ++ "\n"
  /-- It fails if and only if there is an error. -/
  failed_iff : run.value.code = 1 ↔ ∃ e, timed.value = .error (.error e)
  /-- Without a time nothing is printed. -/
  silent : (∀ time, timed.value ≠ .ok time) → run.value.stdout = ""

theorem work_prints (r : Resolution) (program : String) (args : List String) (k : Kernel)
    (gate : Log.Gate) :
    let timed := (Trial.timeProgram { resolution := r } program args).run k
    let ran := work r program args k
    Prints timed
      ⟨exit (gate.warnings ++ logText gate ran.trace) ran.value, ran.kernel, ran.trace⟩ := by
  intro timed ran
  have hran : ran = ⟨verdict timed.value, timed.kernel, timed.trace⟩ :=
    Meter.run_bindPure (f := fun v => pure (verdict v)) rfl rfl
  rw [hran]
  rcases timed with ⟨(e | f) | time, k', trace⟩
  · exact ⟨rfl, rfl, iff_of_false nofun nofun, nofun, iff_of_true rfl ⟨e, rfl⟩, fun _ => rfl⟩
  · exact ⟨rfl, rfl, iff_of_false nofun nofun, nofun, iff_of_false nofun nofun, fun _ => rfl⟩
  · exact ⟨rfl, rfl, iff_of_true rfl ⟨time, rfl⟩, fun _ h => Except.ok.inj h ▸ rfl,
      iff_of_false nofun nofun, fun h => absurd rfl (h time)⟩

/-- **The wall time of a program.** Whatever the kernel answers, to time a program is to take seven
steps, in order: two samples of the clock, a look at the arguments, the attributes of a child, the
child, the waits for it, up to the first that is not interrupted, and a third sample. Counters have
no part in it. The first step that is refused is the outcome, and no call comes after it. If none
is, the outcome is the distance between the second sample and the third, however the child ended,
unless this has no number. However command lines are read and the log is written, a run of the
command times the program it is asked to time, and prints the time and succeeds, or prints nothing
and fails, as the timing does; a command line that asks for no run does not reach the kernel. -/
theorem wallTime (k : Kernel) :
    (∀ s program args,
      Trial.TakesWallTime s program args k ((Trial.timeProgram s program args).run k)) ∧
    ∀ read gateOf filterText line,
      let run := run read gateOf filterText line k
      match read line with
      | .help text => run.kernel = k ∧ run.trace = [] ∧ run.value.code = 0 ∧ run.value.stdout = text
      | .refused _ => run.kernel = k ∧ run.trace = [] ∧ run.value.code = 2 ∧ run.value.stdout = ""
      | .run (r, program, args) =>
        Prints ((Trial.timeProgram { resolution := r } program args).run k) run := by
  refine ⟨fun s program args => Trial.takesWallTime s program args, ?_⟩
  intro read gateOf filterText line run
  have hrun : run = TimeOne.run read gateOf filterText line k := rfl
  unfold TimeOne.run Command.run at hrun
  cases hasked : read line with
  | help text =>
    rw [hasked] at hrun
    rw [hrun]
    exact ⟨rfl, rfl, rfl, rfl⟩
  | refused message =>
    rw [hasked] at hrun
    rw [hrun]
    exact ⟨rfl, rfl, rfl, rfl⟩
  | run asked =>
    obtain ⟨r, program, args⟩ := asked
    rw [hasked] at hrun
    rw [hrun]
    exact work_prints r program args k _

/-- A program that ends with status 1 after an interrupted wait has a time, and a command line that
asks for it has the time printed. One with an argument that is unfit has none, nor has one whose
child and third sample would be refused both: the child is refused first, and the command prints
nothing. -/
theorem wallTime_at_refusals :
    let k : Kernel := {
      script := {
        clocks := [.done {}, .done ⟨1, 0⟩, .done ⟨3, 0⟩]
        waits := [.failed .interrupted, .done ⟨256⟩] }
      descriptor := id
      newPid := fun n => n }
    let broken : Kernel := { k with script := {
      clocks := [.done {}, .done {}, .failed ⟨22⟩]
      children := [.failed ⟨2⟩] } }
    let s : Settings := { resolution := .nanoseconds }
    let line := ["-r", "ns", "/a", "b", "-n"]
    ((Trial.timeProgram s "/a" []).run k).value = .ok (2000000000 : Int64).toFloat ∧
      ((Trial.timeProgram s "/a" ["\x00"]).run k).value = .error (.error (.interiorNul "\x00")) ∧
      ((Trial.timeProgram s "/a" []).run broken).value =
        .error (.error (.spawning "/a" (.os ⟨2⟩))) ∧
      calls ((Trial.timeProgram s "/a" []).run broken).trace = [
        .clock s.source (.done {}), .clock s.source (.done {}), .childAttr (.done ()),
        .child "/a" ["/a"] (.failed ⟨2⟩)] ∧
      command.read line = .run (.nanoseconds, "/a", ["b", "-n"]) ∧
      (command.run none line k).value.code = 0 ∧
      (command.run none line k).value.stdout =
        numberText (2000000000 : Int64).toFloat ++ "\n" ∧
      (command.run none line broken).value.code = 1 ∧
      (command.run none line broken).value.stdout = "" := by
  intro k broken s line
  obtain ⟨htimed, hruns⟩ := wallTime k
  obtain ⟨hbroken, hbreaks⟩ := wallTime broken
  have hlets {args : List String} (hfit : ∀ a ∈ "/a" :: args, ¬Child.IsUnfit a) :
      k.LetsRun "/a" args ⟨1, 0⟩ ⟨3, 0⟩ :=
    ⟨⟨{}, rfl⟩, rfl, hfit, rfl, ⟨0, rfl⟩, ⟨⟨256⟩, rfl⟩, rfl⟩
  have htime {args : List String} (hfit : ∀ a ∈ "/a" :: args, ¬Child.IsUnfit a) :
      ((Trial.timeProgram s "/a" args).run k).value = .ok (2000000000 : Int64).toFloat :=
    ((htimed s "/a" args).ok_iff _).mpr ⟨⟨1, 0⟩, ⟨3, 0⟩, hlets hfit, rfl⟩
  have hrefused {args : List String} (hfit : Child.checkArguments ("/a" :: args) = .ok ()) :
      ((Trial.timeProgram s "/a" args).run broken).value =
        .error (.error (.spawning "/a" (.os ⟨2⟩))) := by
    refine ((hbroken s "/a" args).error_iff _).mpr ?_
    rw [Kernel.timingSteps, Kernel.childSteps, hfit]
    rfl
  have hread : command.read line = .run (.nanoseconds, "/a", ["b", "-n"]) :=
    (read_program (by decide) rfl (by decide) (by decide)).2
  have hprints := hruns command.read Log.Filter.gateOf none line
  have hbroke := hbreaks command.read Log.Filter.gateOf none line
  rw [hread] at hprints hbroke
  refine ⟨htime (by decide), ((htimed s "/a" ["\x00"]).error_iff _).mpr (by decide +kernel),
    hrefused rfl, (hbroken s "/a" []).calls_eq.trans rfl, hread,
    hprints.done_iff.mpr ⟨_, htime (by decide)⟩, hprints.printed _ (htime (by decide)),
    hbroke.failed_iff.mpr ⟨_, hrefused (by decide +kernel)⟩, hbroke.silent fun time htime => ?_⟩
  rw [hrefused (by decide +kernel)] at htime
  cases htime

end TimeOne

end Command

end TrialMeter
