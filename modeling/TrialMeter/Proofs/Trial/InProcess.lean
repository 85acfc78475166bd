import TrialMeter.Proofs.Trial.Phases

/-!
# The protocol of a battery around a unit of work

A benchmark inside the program samples the clock three times. The first sample shows that the clock
works, before anything is opened; the other two enclose the work. Whatever the kernel answers to the
other requests, the benchmark goes through all phases, and it ends early only where the clock cannot
be read. In every case the descriptors that were granted are given back at the end.

## Main definitions

* `Kernel.sampled`: what happens between the opening of the battery and its release.
* `Kernel.benchmarked`: the whole benchmark.

## Main results

* `Trial.does_benchmark`, `Trial.does_benchmarkBatch`: the two benchmarks take the same course.
* `Trial.benchmark_protocol`: the calls of a benchmark, exactly.
-/

namespace TrialMeter

open Meter (Does)

namespace Kernel

variable (k : Kernel) (s : Settings) (work : Workload) (reading : List Entry)

/-- How work is sampled by a battery that is open, and what that leaves. `reading` is what is left
when the battery is read. -/
def sampled : Except Failure Record × List Entry :=
  let fds := k.descriptors 0 14
  let starts := k.startCalls fds 0
  let stops := k.stopCalls fds starts.length
  let second := .clock s.source (k.clockAt 1)
  let third := .clock s.source (k.clockAt 2)
  match k.clockAt 1, k.clockAt 2 with
  | .failed e, _ => (.error (.error (.clock s.source (.os e))), [second])
  | .done _, .failed e =>
    (.error (.error (.clock s.source (.os e))), second :: (starts ++ [.work work, third]))
  | .done start, .done stop =>
    let report := k.reported s.resolution s.name start stop reading
    (report.1, second :: (starts ++ .work work :: third :: (stops ++ report.2)))

/-- How a benchmark of work goes, and what it leaves. -/
def benchmarked : Except Failure Record × List Entry :=
  let first := .clock s.source (k.clockAt 0)
  let opens := k.openCalls 0 Kind.standard 0
  let closes := closeCalls (k.descriptors 0 14)
  match k.clockAt 0 with
  | .failed e => (.error (.error (.clock s.source (.os e))), [first])
  | .done _ =>
    let sample := k.sampled s work reading
    (sample.1, first :: (opens ++ (sample.2 ++ closes)))

theorem calls_sampled :
    calls (k.sampled s work reading).2 = (k.sampled s work (calls reading)).2 := by
  unfold sampled
  cases h₁ : k.clockAt 1 with
  | failed e => rfl
  | done start =>
    cases h₂ : k.clockAt 2 with
    | failed e =>
      simp only [calls_cons, Entry.isCall, ↓reduceIte, calls_append,
        (k.mute_startCalls _ _).calls_eq, calls_nil]
    | done stop =>
      simp only [calls_cons, Entry.isCall, ↓reduceIte, calls_append,
        (k.mute_startCalls _ _).calls_eq, (k.mute_stopCalls _ _).calls_eq, calls_reported]

theorem calls_benchmarked :
    calls (k.benchmarked s work reading).2 = (k.benchmarked s work (calls reading)).2 := by
  unfold benchmarked
  cases h₀ : k.clockAt 0 with
  | failed e => rfl
  | done t =>
    simp only [calls_cons, Entry.isCall, ↓reduceIte, calls_append, calls_openCalls, calls_sampled,
      (mute_closeCalls _).calls_eq]

/-- The outcome of a benchmark does not depend on what is left when the counters are read. -/
theorem fst_benchmarked (reading' : List Entry) :
    (k.benchmarked s work reading).1 = (k.benchmarked s work reading').1 := by
  unfold benchmarked sampled
  cases k.clockAt 0 with
  | failed e => rfl
  | done t =>
    cases k.clockAt 1 with
    | failed e => rfl
    | done start =>
      cases k.clockAt 2 with
      | failed e => rfl
      | done stop => exact k.fst_reported reading reading'

end Kernel

namespace Trial

variable {k : Kernel} (s : Settings) (work : Workload)

/-- The course of a sample, between the opening of the battery and its release. -/
theorem does_sample {g : Group Counter} {subject : Subject} (t : Timestamp)
    (hg : g.members = k.battery subject Kind.standard 0) :
    ∃ u', (sample s { source := s.source, startTime := t } g work).run.Does k
      { clocks := 1, counters := 14 }
      (· = (k.sampled s work (k.readout Kind.standard 0)).1) u'
      (k.sampled s work (k.readout Kind.standard 0)).2 := by
  have hfds : openFds g.members = k.descriptors 0 14 := hg ▸ k.openFds_battery subject _ 0
  unfold sample Kernel.sampled
  simp only [IntervalClock.insist_start, IntervalClock.insist_stop]
  rw [← hfds]
  cases h₁ : k.clockAt 1 with
  | failed e => exact ⟨_, (Timestamp.does_now_refused _ h₁).attempt.stop rfl⟩
  | done start =>
    cases h₂ : k.clockAt 2 with
    | failed e =>
      exact ⟨_, (Timestamp.does_now _ h₁).attempt.ok <| (does_startCounters g).lift fun _ _ =>
        (Does.tell rfl).lift fun _ _ => (Timestamp.does_now_refused _ h₂).attempt.stop rfl⟩
    | done stop =>
      exact ⟨_, (Timestamp.does_now _ h₁).attempt.ok <| (does_startCounters g).lift fun _ _ =>
        (Does.tell rfl).lift fun _ _ => (Timestamp.does_now _ h₂).attempt.ok <|
        (does_stopCounters g).lift fun _ _ => does_report hg rfl⟩

/-- A battery that was opened is released after the sample. -/
theorem does_sample_release {g : Group Counter} {subject : Subject} (t : Timestamp)
    (hg : g.members = k.battery subject Kind.standard 0) :
    ∃ u', (Meter.finally (sample s { source := s.source, startTime := t } g work)
      g.release).run.Does k { clocks := 1, counters := 14 }
      (· = (k.sampled s work (k.readout Kind.standard 0)).1) u'
      ((k.sampled s work (k.readout Kind.standard 0)).2 ++ closeCalls (k.descriptors 0 14)) := by
  obtain ⟨u', hsample⟩ := does_sample s work t hg
  have hrelease := g.does_release (k := k) (u := u')
  rw [hg, k.openFds_battery] at hrelease
  exact ⟨u', hsample.finally hrelease⟩

/-- The course of a benchmark that opens its counters one by one. -/
theorem does_benchmark :
    ∃ u', (benchmark s work).run.Does k {}
      (· = (k.benchmarked s work (k.readout Kind.standard 0)).1) u'
      (k.benchmarked s work (k.readout Kind.standard 0)).2 := by
  unfold benchmark Kernel.benchmarked IntervalClock.create
  cases h₀ : k.clockAt 0 with
  | failed e => exact ⟨_, (Timestamp.does_now_refused _ h₀).attempt.stop rfl⟩
  | done t =>
    have hform : Group.ofCounters (k.battery .caller Kind.standard 0) =
        pure ⟨k.battery .caller Kind.standard 0⟩ :=
      Group.ofCounters_of_nodup (by rw [k.kinds_battery]; decide)
    obtain ⟨u', hsample⟩ := does_sample_release s work t
      (g := ⟨k.battery .caller Kind.standard 0⟩) rfl
    refine ⟨u', (Timestamp.does_now _ h₀).attempt.ok <|
      (does_openEach Kind.standard).lift fun cs hcs => ?_⟩
    subst hcs
    rw [hform, liftM_pure, pure_bind]
    exact hsample

/-- The course of a benchmark that opens its counters as a group. -/
theorem does_benchmarkBatch :
    ∃ u', (benchmarkBatch s work).run.Does k {}
      (· = (k.benchmarked s work (k.readout Kind.standard 0)).1) u'
      (k.benchmarked s work (k.readout Kind.standard 0)).2 := by
  have hquiet : Group.quiet Kind.standard = .ok ⟨Kind.standard.map Counter.quiet⟩ :=
    Group.quiet_of_nodup (by decide)
  unfold benchmarkBatch Kernel.benchmarked IntervalClock.create
  rw [hquiet, liftM_ok]
  cases h₀ : k.clockAt 0 with
  | failed e => exact ⟨_, (Timestamp.does_now_refused _ h₀).attempt.stop rfl⟩
  | done t =>
    obtain ⟨u', hsample⟩ := does_sample_release s work t
      (g := ⟨k.battery .caller Kind.standard 0⟩) rfl
    refine ⟨u', (Timestamp.does_now _ h₀).attempt.ok ?_⟩
    rw [pure_bind]
    refine (Group.does_openHere Kind.standard).lift fun r hr => ?_
    obtain ⟨result, g⟩ := r
    subst hr
    exact (does_warnRefused _ result).lift fun _ _ => hsample

/-- **The protocol of a benchmark.** Whatever the kernel answers, the calls of a benchmark are: one
sample of the clock; one request for each standard kind, in order; a second sample; a reset of each
counter that was granted, with an enabling when the reset was done; the work; a third sample; one
disabling, one read and one release of each counter that was granted, in order. Where a sample
cannot be taken, the calls stop there and the granted counters are released. -/
theorem benchmark_protocol (k : Kernel) :
    let run := (benchmark s work).run k
    let course := k.benchmarked s work (k.readCalls (k.descriptors 0 14) 0)
    calls run.trace = course.2 ∧ run.value = course.1 := by
  intro run course
  obtain ⟨u', hcourse⟩ := does_benchmark (k := k) s work
  have hreading : calls (k.readout Kind.standard 0) = k.readCalls (k.descriptors 0 14) 0 :=
    k.calls_readout Kind.standard 0
  refine ⟨?_, hcourse.value.trans (k.fst_benchmarked s work _ _)⟩
  calc calls run.trace = calls (k.benchmarked s work (k.readout Kind.standard 0)).2 :=
        hcourse.calls_trace
    _ = course.2 := by rw [k.calls_benchmarked, hreading]

end Trial

end TrialMeter
