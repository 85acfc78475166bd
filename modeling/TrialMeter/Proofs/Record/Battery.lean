import TrialMeter.Proofs.Record.Telling

/-!
# What the record of a battery depends on

Three trials end in a record of the full battery: two on work inside the program, one on another
program. The time of a record comes from the clock alone, and its counts come from the counters
alone. Two kernels that answer alike for the clock and the child agree on how a trial ends, on the
name and on the time, whatever becomes of the counters; two kernels that grant and deliver alike
agree on the counts, whatever else they answer.

## Main definitions

* `Kernel.SameTiming`, `Kernel.SameCounting`: kernels that answer alike.
* `Battery`: the three trials.

## Main results

* `Battery.record_determined`: what the record of a battery holds, and what it depends on.
-/

namespace TrialMeter

open Meter (Does)

/-! ### Two kernels -/

/-- Kernels that answer alike to requests for the time and for children. -/
structure Kernel.SameTiming (k k' : Kernel) : Prop where
  clock : ∀ i, k.clockAt i = k'.clockAt i
  childAttr : ∀ i, k.childAttrAt i = k'.childAttrAt i
  child : ∀ i, k.childAt i = k'.childAt i
  wait : ∀ i, k.waitAt i = k'.waitAt i

/-- Kernels that grant the same requests for counters and deliver the same reads. -/
structure Kernel.SameCounting (k k' : Kernel) : Prop where
  grant : ∀ i, k.grantAt i = k'.grantAt i
  read : ∀ i, k.readAt i = k'.readAt i

/-- What a record holds apart from its counts. -/
def Record.heading (r : Record) : String × Float := (r.name, r.time)

namespace Kernel

variable {k k' : Kernel} {s : Settings} {reading reading' : List Entry}

theorem SameCounting.grants_eq (h : SameCounting k k') (n : ℕ) : k.grants n = k'.grants n := by
  simp only [grants, h.grant]

theorem SameCounting.countAt_eq (h : SameCounting k k') (i : ℕ) : k.countAt i = k'.countAt i := by
  unfold countAt resultAt fdAt openAt
  rw [h.grant i]
  cases k'.grantAt i with
  | done grant => simp only [h.grants_eq, h.read]
  | failed e => rfl

theorem SameCounting.counts_eq (h : SameCounting k k') (i n : ℕ) : k.counts i n = k'.counts i n :=
  List.map_congr_left fun j _ => h.countAt_eq j

/-- Apart from the counts, a report depends on the samples alone. -/
theorem heading_reported {resolution : Resolution} {name : String} {start stop : Timestamp} :
    (k.reported resolution name start stop reading).1.map Record.heading =
      (k'.reported resolution name start stop reading').1.map Record.heading := by
  unfold reported
  cases resolution.between start stop with
  | error fault => rfl
  | ok time =>
    simp only [Except.map, Record.heading, Record.ofCounts_name, Record.ofCounts_time]

theorem SameTiming.benchmarked_eq (h : SameTiming k k') (work : Workload) :
    (k.benchmarked s work reading).1.map Record.heading =
      (k'.benchmarked s work reading').1.map Record.heading := by
  unfold benchmarked sampled
  rw [h.clock 0, h.clock 1, h.clock 2]
  cases k'.clockAt 0 with
  | failed e => rfl
  | done first =>
    cases k'.clockAt 1 with
    | failed e => rfl
    | done start =>
      cases k'.clockAt 2 with
      | failed e => rfl
      | done stop => exact heading_reported

theorem SameTiming.watched_eq (h : SameTiming k k') (program : String) (args : List String)
    (pid : Pid) :
    (k.watched s program args pid reading).1.map Record.heading =
      (k'.watched s program args pid reading').1.map Record.heading := by
  unfold watched
  rw [h.clock 1, h.clock 2, waited_congr h.wait 0]
  cases k'.clockAt 1 with
  | failed e => rfl
  | done start =>
    cases k'.waited 0 with
    | failed e => rfl
    | done status =>
      cases k'.clockAt 2 with
      | failed e => rfl
      | done stop => exact heading_reported

theorem SameTiming.programBenchmarked_eq (h : SameTiming k k') (program : String)
    (args : List String) :
    (k.programBenchmarked s program args reading).1.map Record.heading =
      (k'.programBenchmarked s program args reading').1.map Record.heading := by
  unfold programBenchmarked
  rw [h.clock 0, h.childAttr 0, h.child 0]
  cases k'.clockAt 0 with
  | failed e => rfl
  | done first =>
    cases Child.checkArguments (program :: args) with
    | error e => rfl
    | ok checked =>
      cases k'.childAttrAt 0 with
      | failed e => rfl
      | done set =>
        cases k'.childAt 0 with
        | failed e => rfl
        | done pid => exact h.watched_eq program args pid

end Kernel

/-! ### The three trials -/

/-- A trial that ends in a record of the full battery. -/
inductive Battery where
  /-- On work inside the program, each counter opened on its own. -/
  | each (work : Workload)
  /-- On work inside the program, the counters opened as a group. -/
  | batch (work : Workload)
  /-- On a run of a program. -/
  | child (program : String) (args : List String)

namespace Battery

/-- The trial itself. -/
def trial (s : Settings) : Battery → Trial Record
  | each work => Trial.benchmark s work
  | batch work => Trial.benchmarkBatch s work
  | child program args => Trial.benchmarkProgram s program args

/-- How a trial goes, and what it leaves. -/
def course (k : Kernel) (s : Settings) : Battery → Except Failure Record × List Entry
  | each work | batch work => k.benchmarked s work (k.readout Kind.standard 0)
  | child program args => k.programBenchmarked s program args (k.readout Kind.standard 0)

variable {k k' : Kernel} {s : Settings} {r : Record} (b : Battery)

theorem does_trial :
    ∃ u', (b.trial s).run.Does k {} (· = (b.course k s).1) u' (b.course k s).2 := by
  cases b with
  | each work => exact Trial.does_benchmark s work
  | batch work => exact Trial.does_benchmarkBatch s work
  | child program args => exact Trial.does_benchmarkProgram s program args

theorem value_trial : ((b.trial s).run k).value = (b.course k s).1 := by
  obtain ⟨u', h⟩ := b.does_trial (k := k) (s := s)
  exact h.value

theorem completes_course (h : (b.course k s).1 = .ok r) : k.Completes s r (b.course k s).2 := by
  cases b with
  | each work => exact Kernel.completes_benchmarked h
  | batch work => exact Kernel.completes_benchmarked h
  | child program args => exact Kernel.completes_programBenchmarked h

theorem heading_course (h : k.SameTiming k') :
    (b.course k s).1.map Record.heading = (b.course k' s).1.map Record.heading := by
  cases b with
  | each work => exact h.benchmarked_eq work
  | batch work => exact h.benchmarked_eq work
  | child program args => exact h.programBenchmarked_eq program args

/-- **What the record of a battery holds.** A record tells what the trace of its trial holds: the
time between the second and the third sample, and for each standard kind the count that was
delivered by the read in the place that the grants before it leave, or zero with one line that says
so. The outcome, the name and the time do not depend on what the kernel answers to requests about
counters, and the counts do not depend on what it answers to any other requests. -/
theorem record_determined (s : Settings) (b : Battery) (k : Kernel) :
    let run := fun s (b : Battery) k => (b.trial s).run k
    (∀ r, (run s b k).value = .ok r → r.Tells s.resolution (run s b k).trace) ∧
    (∀ k', k.SameTiming k' →
      (run s b k).value.map Record.heading = (run s b k').value.map Record.heading) ∧
    (∀ s' b' k' r r', k.SameCounting k' → (run s b k).value = .ok r →
      (run s' b' k').value = .ok r' → r.counters = r'.counters) := by
  intro run
  have hcompletes : ∀ {s b k r}, (run s b k).value = .ok r → k.Completes s r (b.course k s).2 :=
    fun h => completes_course _ ((value_trial _).symm.trans h)
  refine ⟨fun r h => ?_, fun k' h => ?_, fun s' b' k' r r' h hr hr' => ?_⟩
  · obtain ⟨u', hcourse⟩ := b.does_trial (k := k) (s := s)
    exact (hcompletes h).tells hcourse.observed
  · calc (run s b k).value.map Record.heading = (b.course k s).1.map Record.heading :=
          congrArg _ (b.value_trial)
      _ = (b.course k' s).1.map Record.heading := b.heading_course h
      _ = (run s b k').value.map Record.heading := congrArg _ b.value_trial.symm
  · calc r.counters = k.counts 0 14 := (hcompletes hr).counters_eq
      _ = k'.counts 0 14 := h.counts_eq 0 14
      _ = r'.counters := (hcompletes hr').counters_eq.symm

/-- The second counter is refused, and the read of the third one is short. A kernel with other
counters gives the same time, and a kernel on which a program is tried gives the same counts. -/
theorem record_determined_after_refusals :
    let script : Script := {
      clocks := [.done {}, .done ⟨1, 5⟩, .done ⟨3, 2⟩]
      counters := [.done (), .failed .accessDenied]
      reads := [.full 7, .short 4, .full 18446744073709551615] }
    let k : Kernel := { script, descriptor := (· + 3), newPid := fun n => n }
    let refusing : Kernel := { k with script := { script with
      counters := [.failed .notPermitted] } }
    let slow : Kernel := { k with script := { script with
      clocks := [], waits := [.failed .interrupted] } }
    let counts : List UInt64 := [7, 0, 0, 18446744073709551615, 0, 0, 0, 0, 0, 0, 0, 0, 0, 0]
    let run := (trial {} (.each .unnamed)).run k
    (∃ r, run.value = .ok r ∧ r.Tells .milliseconds run.trace ∧ r.counters = counts) ∧
      run.value.map Record.heading =
        ((trial {} (.each .unnamed)).run refusing).value.map Record.heading ∧
      ∃ r, ((trial {} (.child "true" [])).run slow).value = .ok r ∧ r.counters = counts := by
  intro script k refusing slow counts run
  obtain ⟨htells, htiming, hcounting⟩ := record_determined {} (.each .unnamed) k
  have hrun : run.value.toBool = true := by decide +kernel
  have hslow : ((trial {} (.child "true" [])).run slow).value.toBool = true := by decide +kernel
  have hcounts :
      ((List.range 14).map fun i => (resultIn run.trace i).toOption.getD 0) = counts := by
    decide +kernel
  have htime : run.value.map Record.heading =
      ((trial {} (.each .unnamed)).run refusing).value.map Record.heading :=
    htiming refusing ⟨fun _ => rfl, fun _ => rfl, fun _ => rfl, fun _ => rfl⟩
  cases hr : run.value with
  | error f =>
    rw [hr] at hrun
    exact absurd hrun nofun
  | ok r =>
    cases hr' : ((trial {} (.child "true" [])).run slow).value with
    | error f =>
      rw [hr'] at hslow
      exact absurd hslow nofun
    | ok r' =>
      have hr_counts : r.counters = counts := (htells r hr).counters.trans hcounts
      refine ⟨⟨r, rfl, htells r hr, hr_counts⟩, hr ▸ htime, r', rfl, ?_⟩
      rw [← hr_counts]
      exact (hcounting {} (.child "true" []) slow r r' ⟨fun _ => rfl, fun _ => rfl⟩ hr hr').symm

end Battery

end TrialMeter
