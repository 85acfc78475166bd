import TrialMeter.Proofs.Kernel.Exact
import TrialMeter.Proofs.Trace.Calls
import TrialMeter.Trial.Timing

/-!
# Timing units of work, run by run

The times of several units of work are taken on one clock. It is read once when it is made; then
every run reads it before and after its work, and the time of a run is the distance of its own two
samples, whatever the clock held before. A sample that cannot be taken, or a distance that cannot be
worked out, ends the timing at once. So the trace of a timing that is cut short is the beginning of
the trace of the whole one, and where it ends tells which samples were taken and which runs were
made.

## Main definitions

* `Kernel.runs`, `Kernel.timed`: what runs of units of work leave when nothing cuts them short.
* `Kernel.Ticks`, `runTime`: the first samples of a clock, and the time of a run from them.
* `Trial.timeOn`: one run of work on a clock.

## Main results

* `Trial.timeOn_sampled` and its companions: one run of work.
* `Trial.timeAll_append`: runs that are not cut short, and what comes after them.
* `Trial.timeFrom_eq_timeAll`, `Trial.timeEach_singleton`: one unit of work several times, or once.
* `Trial.timeEach_exact`: where a timing ends and what it gives.
-/

namespace TrialMeter

/-- The unit of work that an entry runs. -/
def Entry.workload? : Entry → Option Workload
  | .work w => some w
  | _ => none

/-- The time of run `i` on a clock whose samples are `t`, the first of them taken before all runs.
-/
def runTime (r : Resolution) (t : ℕ → Timestamp) (i : ℕ) : Except Fault Float :=
  r.between (t (2 * i + 1)) (t (2 * i + 2))

namespace Kernel

variable (k : Kernel) (source : Source)

/-- The first `n` samples of the clock are taken, and are those of `t`. -/
def Ticks (n : ℕ) (t : ℕ → Timestamp) : Prop := ∀ j < n, k.clockAt j = .done (t j)

instance (n : ℕ) (t : ℕ → Timestamp) : Decidable (k.Ticks n t) :=
  inferInstanceAs (Decidable (∀ j < n, _))

/-- What runs of units of work leave when none is cut short, the first sample being taken after `j`
others. -/
def runs : ℕ → List Workload → List Entry
  | _, [] => []
  | j, work :: rest =>
    .clock source (k.clockAt j) :: .work work :: .clock source (k.clockAt (j + 1)) ::
      runs (j + 2) rest

/-- What the timing of units of work leaves when it is not cut short. -/
def timed (works : List Workload) : List Entry :=
  .clock source (k.clockAt 0) :: k.runs source 1 works

/-- What it leaves when sample `j` is the last thing that happens. -/
def timedTo (works : List Workload) (j : ℕ) : List Entry :=
  (k.timed source works).take (j + j / 2 + 1)

theorem runs_append (j : ℕ) (works rest : List Workload) :
    k.runs source j (works ++ rest) =
      k.runs source j works ++ k.runs source (j + 2 * works.length) rest := by
  induction works generalizing j with
  | nil => rfl
  | cons work works ih =>
    have hnext : j + 2 + 2 * works.length = j + 2 * (work :: works).length := by
      rw [List.length_cons]
      omega
    rw [List.cons_append, runs, ih, hnext]
    rfl

theorem length_runs (j : ℕ) (works : List Workload) :
    (k.runs source j works).length = 3 * works.length := by
  induction works generalizing j with
  | nil => rfl
  | cons work works ih =>
    simp only [runs, List.length_cons, ih]
    omega

/-- What runs that are cut short leave, in terms of the runs before the cut. -/
theorem timed_append (works rest : List Workload) :
    k.timed source (works ++ rest) =
      k.timed source works ++ k.runs source (2 * works.length + 1) rest := by
  rw [timed, runs_append, Nat.add_comm 1]
  rfl

theorem timedTo_even (works rest : List Workload) :
    k.timedTo source (works ++ rest) (2 * works.length) = k.timed source works := by
  have hlength : 2 * works.length + 2 * works.length / 2 + 1 = (k.timed source works).length := by
    rw [timed, List.length_cons, length_runs]
    omega
  rw [timedTo, hlength, timed_append, List.take_left]

theorem timedTo_odd (works rest : List Workload) (work : Workload) :
    k.timedTo source (works ++ work :: rest) (2 * works.length + 1) =
      k.timed source works ++ [.clock source (k.clockAt (2 * works.length + 1))] := by
  have hlength : 2 * works.length + 1 + (2 * works.length + 1) / 2 + 1 =
      (k.timed source works).length + 1 := by
    rw [timed, List.length_cons, length_runs]
    omega
  rw [timedTo, hlength, timed_append, List.take_length_add_append]
  rfl

/-- The second sample of a run is the last thing that happens in it. -/
theorem timedTo_run (works rest : List Workload) (work : Workload) :
    k.timedTo source (works ++ work :: rest) (2 * works.length + 2) =
      k.timed source works ++ k.runs source (2 * works.length + 1) [work] := by
  have heven := k.timedTo_even source (works ++ [work]) rest
  rwa [List.append_assoc, List.length_append, timed_append] at heven

theorem workloads_runs (j : ℕ) (works : List Workload) :
    (k.runs source j works).filterMap Entry.workload? = works := by
  induction works generalizing j with
  | nil => rfl
  | cons work works ih => exact congrArg (work :: ·) (ih (j + 2))

theorem replies_runs (j : ℕ) (works : List Workload) :
    (k.runs source j works).filterMap Entry.clockReply? =
      (List.range' j (2 * works.length)).map k.clockAt := by
  induction works generalizing j with
  | nil => rfl
  | cons work works ih =>
    have hrange : List.range' j (2 * (work :: works).length) =
        j :: (j + 1) :: List.range' (j + 2) (2 * works.length) := rfl
    rw [hrange]
    exact congrArg (k.clockAt j :: k.clockAt (j + 1) :: ·) (ih (j + 2))

theorem workloads_timed (works : List Workload) :
    (k.timed source works).filterMap Entry.workload? = works :=
  k.workloads_runs source 1 works

theorem replies_timed (works : List Workload) :
    (k.timed source works).filterMap Entry.clockReply? =
      (List.range (2 * works.length + 1)).map k.clockAt := by
  rw [List.range_eq_range', List.range'_succ]
  exact congrArg (k.clockAt 0 :: ·) (k.replies_runs source 1 works)

/-- The last sample stands before or after a run. -/
theorem timedTo_cases {works : List Workload} {j : ℕ} (h : j ≤ 2 * works.length) :
    (∃ done rest, works = done ++ rest ∧ j = 2 * done.length) ∨
    ∃ done work rest, works = done ++ work :: rest ∧ j = 2 * done.length + 1 := by
  have hsplit : works = works.take (j / 2) ++ works.drop (j / 2) :=
    (List.take_append_drop _ _).symm
  have hlength : (works.take (j / 2)).length = j / 2 := List.length_take_of_le (by omega)
  rcases Nat.mod_two_eq_zero_or_one j with hj | hj
  · exact .inl ⟨_, _, hsplit, by omega⟩
  · have hlt : j / 2 < works.length := by omega
    rw [List.drop_eq_getElem_cons hlt] at hsplit
    exact .inr ⟨_, _, _, hsplit, by omega⟩

/-- Half of the samples but the first are followed by a run. -/
theorem workloads_timedTo {works : List Workload} {j : ℕ} (h : j ≤ 2 * works.length) :
    (k.timedTo source works j).filterMap Entry.workload? = works.take (j / 2) := by
  obtain ⟨done, rest, rfl, rfl⟩ | ⟨done, work, rest, rfl, rfl⟩ := timedTo_cases h
  · rw [timedTo_even, workloads_timed, Nat.mul_div_cancel_left _ Nat.two_pos, List.take_left]
  · have hhalf : (2 * done.length + 1) / 2 = done.length := by omega
    rw [timedTo_odd, List.filterMap_append, workloads_timed, hhalf, List.take_left]
    exact List.append_nil done

theorem replies_timedTo {works : List Workload} {j : ℕ} (h : j ≤ 2 * works.length) :
    (k.timedTo source works j).filterMap Entry.clockReply? =
      (List.range (j + 1)).map k.clockAt := by
  obtain ⟨done, rest, rfl, rfl⟩ | ⟨done, work, rest, rfl, rfl⟩ := timedTo_cases h
  · rw [timedTo_even, replies_timed]
  · have hrange : List.range (2 * done.length + 1 + 1) =
        List.range (2 * done.length + 1) ++ [2 * done.length + 1] := List.range_succ
    rw [timedTo_odd, List.filterMap_append, replies_timed, hrange, List.map_append]
    rfl

end Kernel

namespace Trial

variable {k : Kernel} {r : Resolution} {j : ℕ} {start stop : Timestamp} {e : Errno}
  (clock : IntervalClock) (work : Workload)

/-! ### One run of work -/

/-- The time of one run of `work` on a clock that is there, and the clock that it leaves. -/
def timeOn (clock : IntervalClock) (r : Resolution) (work : Workload) :
    Trial (Float × IntervalClock) := do
  let clock ← Attempt.insist clock.start
  Meter.work work
  let clock ← Attempt.insist clock.stop
  return (← clock.elapsed r, clock)

/-- Units of work are timed by a run of the first and runs of the others. -/
theorem timeAll_cons (rest : List Workload) :
    timeAll clock r (work :: rest) = do
      let (t, clock) ← timeOn clock r work
      return t :: (← timeAll clock r rest) := by
  simp only [timeAll, timeOn, bind_assoc, pure_bind]

section

variable {clock : IntervalClock} {work : Workload} {rest : List Workload} {k k' k'' : Kernel}
  {es es' : List Entry}

/-- A first run that is cut short is the last one. -/
theorem timeAll_of_error {f : Failure}
    (hone : (timeOn clock r work).run k = ⟨.error f, k', es⟩) :
    (timeAll clock r (work :: rest)).run k = ⟨.error f, k', es⟩ := by
  rw [timeAll_cons]
  exact Meter.run_stop hone

/-- A first run that gives its time is followed by the others, on the clock that it leaves. -/
theorem timeAll_of_ok {t : Float} {clock' : IntervalClock} {value : Except Failure (List Float)}
    (hone : (timeOn clock r work).run k = ⟨.ok (t, clock'), k', es⟩)
    (hrest : (timeAll clock' r rest).run k' = ⟨value, k'', es'⟩) :
    (timeAll clock r (work :: rest)).run k = ⟨value.map (t :: ·), k'', es ++ es'⟩ := by
  rw [timeAll_cons]
  exact Meter.run_ok hone (Meter.run_okPure hrest fun _ => rfl)

end

/-- A run whose first sample cannot be taken does not begin its work. -/
theorem timeOn_unstarted (h : k.clockAt j = .failed e) :
    (timeOn clock r work).run (k.after { clocks := j }) =
      ⟨.error (.error (.clock clock.source (.os e))), k.after { clocks := j + 1 },
        [.clock clock.source (k.clockAt j)]⟩ := by
  have hstart := clock.insist_start_after (k := k) (u := { clocks := j })
  rw [h] at hstart ⊢
  exact Meter.run_stop (Meter.run_attempt hstart)

/-- A run whose first sample is taken does its work and takes another sample. -/
theorem timeOn_started {result : Except Failure (Float × IntervalClock)} {k' : Kernel}
    {es : List Entry} (hstart : k.clockAt j = .done start)
    (hrest : (do
      let clock ← Attempt.insist { clock with startTime := start }.stop
      return (← clock.elapsed r, clock) : Trial _).run (k.after { clocks := j + 1 }) =
        ⟨result, k', es⟩) :
    (timeOn clock r work).run (k.after { clocks := j }) =
      ⟨result, k', .clock clock.source (k.clockAt j) :: .work work :: es⟩ := by
  have hbegin := clock.insist_start_after (k := k) (u := { clocks := j })
  have hwork : Meter.work work (k.after { clocks := j + 1 }) =
    ⟨(), k.after { clocks := j + 1 }, [.work work]⟩ := rfl
  rw [hstart] at hbegin ⊢
  exact Meter.run_ok (Meter.run_attempt hbegin) (Meter.run_lift hwork hrest)

/-- A run whose second sample cannot be taken has done its work. -/
theorem timeOn_unstopped (hstart : k.clockAt j = .done start)
    (hstop : k.clockAt (j + 1) = .failed e) :
    (timeOn clock r work).run (k.after { clocks := j }) =
      ⟨.error (.error (.clock clock.source (.os e))), k.after { clocks := j + 2 },
        k.runs clock.source j [work]⟩ := by
  have hend := { clock with startTime := start }.insist_stop_after (k := k)
    (u := { clocks := j + 1 })
  rw [hstop] at hend
  refine (timeOn_started clock work hstart (Meter.run_stop (Meter.run_attempt hend))).trans ?_
  rw [← hstop]
  rfl

/-- A run whose samples are taken gives their distance, if it can be worked out, and leaves them on
the clock. -/
theorem timeOn_sampled (hstart : k.clockAt j = .done start)
    (hstop : k.clockAt (j + 1) = .done stop) :
    (timeOn clock r work).run (k.after { clocks := j }) =
      ⟨((r.between start stop).mapError .fault).map fun x => (x, ⟨clock.source, start, stop⟩),
        k.after { clocks := j + 2 }, k.runs clock.source j [work]⟩ := by
  have hend := { clock with startTime := start }.insist_stop_after (k := k)
    (u := { clocks := j + 1 })
  rw [hstop] at hend
  have helapsed : (do return (← r.between start stop, ⟨clock.source, start, stop⟩) :
      Trial (Float × IntervalClock)).run (k.after { clocks := j + 2 }) =
        ⟨((r.between start stop).mapError .fault).map fun x => (x, ⟨clock.source, start, stop⟩),
          k.after { clocks := j + 2 }, []⟩ :=
    Meter.run_okPure rfl fun _ => rfl
  refine (timeOn_started clock work hstart
    (Meter.run_ok (Meter.run_attempt hend) helapsed)).trans ?_
  rw [← hstop]
  rfl

/-- However a run goes, what it leaves ends with a sample. -/
theorem timeOn_cases (k : Kernel) (r : Resolution) (j : ℕ) :
    (∃ f, ∃ m ≤ 2, (timeOn clock r work).run (k.after { clocks := j }) =
      ⟨.error f, k.after { clocks := j + m }, (k.runs clock.source j [work]).take (m + m / 2)⟩) ∨
    ∃ x clock', clock'.source = clock.source ∧
      (timeOn clock r work).run (k.after { clocks := j }) =
        ⟨.ok (x, clock'), k.after { clocks := j + 2 }, k.runs clock.source j [work]⟩ := by
  cases hstart : k.clockAt j with
  | failed e => exact .inl ⟨_, 1, Nat.le_succ 1, timeOn_unstarted clock work hstart⟩
  | done start =>
    cases hstop : k.clockAt (j + 1) with
    | failed e =>
      exact .inl ⟨_, 2, Nat.le_refl 2, timeOn_unstopped clock work hstart hstop⟩
    | done stop =>
      have hrun := timeOn_sampled (r := r) clock work hstart hstop
      cases hx : r.between start stop with
      | error f =>
        rw [hx] at hrun
        exact .inl ⟨_, 2, Nat.le_refl 2, hrun⟩
      | ok x =>
        rw [hx] at hrun
        exact .inr ⟨x, ⟨clock.source, start, stop⟩, rfl, hrun⟩

/-! ### Runs one after another -/

/-- Runs that are not cut short give their times, and what comes after them goes on from there. The
clock is then another one, but its source is the same. -/
theorem timeAll_append {works : List Workload} {x : ℕ → Float} (rest : List Workload)
    (h : ∀ i < works.length, ∃ start stop, k.clockAt (j + 2 * i) = .done start ∧
      k.clockAt (j + 2 * i + 1) = .done stop ∧ r.between start stop = .ok (x i)) :
    ∃ clock' : IntervalClock, clock'.source = clock.source ∧
      ∀ value k' es, (timeAll clock' r rest).run (k.after { clocks := j + 2 * works.length }) =
          ⟨value, k', es⟩ →
        (timeAll clock r (works ++ rest)).run (k.after { clocks := j }) =
          ⟨value.map ((List.range works.length).map x ++ ·), k',
            k.runs clock.source j works ++ es⟩ := by
  -- Every run leaves its own samples on the clock, so the induction is for all clocks.
  induction works generalizing clock j x with
  | nil =>
    refine ⟨clock, rfl, fun value k' es hrest => hrest.trans ?_⟩
    cases value with
    | ok xs => rfl
    | error f => rfl
  | cons work works ih =>
    obtain ⟨start, stop, hstart, hstop, hx⟩ := h 0 (Nat.zero_lt_succ _)
    have hone := timeOn_sampled (r := r) (j := j) clock work hstart hstop
    rw [hx] at hone
    have hnext (i : ℕ) : j + 2 * (i + 1) = j + 2 + 2 * i := by omega
    obtain ⟨clock', hsource, hgo⟩ := ih (j := j + 2) (x := fun i => x (i + 1))
      ⟨clock.source, start, stop⟩ fun i hi => hnext i ▸ h (i + 1) (Nat.succ_lt_succ hi)
    refine ⟨clock', hsource, fun value k' es hrest => ?_⟩
    rw [List.length_cons, hnext] at hrest
    have htimes : (List.range (work :: works).length).map x =
        x 0 :: (List.range works.length).map fun i => x (i + 1) := by
      rw [List.length_cons, List.range_succ_eq_map, List.map_cons, List.map_map]
      rfl
    refine (timeAll_of_ok hone (hgo value k' es hrest)).trans ?_
    rw [htimes]
    cases value with
    | ok xs => rfl
    | error f => rfl

/-- What the timing of some units of work does after those that are not cut short. -/
theorem timeEach_append {works : List Workload} {t : ℕ → Timestamp} {x : ℕ → Float} (s : Settings)
    (rest : List Workload) (ht : k.Ticks (2 * works.length + 1) t)
    (hx : ∀ i < works.length, runTime s.resolution t i = .ok (x i)) :
    ∃ clock : IntervalClock, clock.source = s.source ∧
      ∀ value k' es, (timeAll clock s.resolution rest).run
          (k.after { clocks := 2 * works.length + 1 }) = ⟨value, k', es⟩ →
        (timeEach s (works ++ rest)).run k =
          ⟨value.map ((List.range works.length).map x ++ ·), k', k.timed s.source works ++ es⟩ := by
  have hfirst : k.clockAt 0 = .done (t 0) := ht 0 (Nat.succ_pos _)
  have hcreate := create_done s hfirst
  have hruns (i : ℕ) (hi : i < works.length) : ∃ start stop, k.clockAt (1 + 2 * i) = .done start ∧
      k.clockAt (1 + 2 * i + 1) = .done stop ∧ s.resolution.between start stop = .ok (x i) := by
    rw [Nat.add_comm 1]
    exact ⟨_, _, ht _ (by omega), ht _ (by omega), hx i hi⟩
  obtain ⟨clock, hsource, hgo⟩ :=
    timeAll_append { source := s.source, startTime := t 0 } rest hruns
  rw [Nat.add_comm 1] at hgo
  refine ⟨clock, hsource, fun value k' es hrest => ?_⟩
  refine (Meter.run_ok (Meter.run_attempt hcreate) (hgo value k' es hrest)).trans ?_
  rw [Kernel.timed, hfirst]
  rfl

section

variable {s : Settings} {works : List Workload} {t : ℕ → Timestamp} {x : ℕ → Float}

/-- A timing whose clock cannot be made. -/
theorem timeEach_uncreated (works : List Workload) (h : k.clockAt 0 = .failed e) :
    (timeEach s works).run k = ⟨.error (.error (.clock s.source (.os e))), k.after { clocks := 1 },
      k.timedTo s.source works 0⟩ := by
  rw [Kernel.timedTo, Kernel.timed, h]
  exact Meter.run_stop (Meter.run_attempt (create_refused s h))

/-- A timing that is not cut short. -/
theorem timeEach_completed (ht : k.Ticks (2 * works.length + 1) t)
    (hx : ∀ i < works.length, runTime s.resolution t i = .ok (x i)) :
    (timeEach s works).run k = ⟨.ok ((List.range works.length).map x),
      k.after { clocks := 2 * works.length + 1 }, k.timed s.source works⟩ := by
  obtain ⟨clock, -, hgo⟩ := timeEach_append s [] ht hx
  have hrun := hgo (.ok []) _ [] rfl
  rwa [List.append_nil, Except.map, List.append_nil, List.append_nil] at hrun

/-- A timing that is cut short before a run. -/
theorem timeEach_unstarted (rest : List Workload) (ht : k.Ticks (2 * works.length + 1) t)
    (hx : ∀ i < works.length, runTime s.resolution t i = .ok (x i))
    (h : k.clockAt (2 * works.length + 1) = .failed e) :
    (timeEach s (works ++ work :: rest)).run k = ⟨.error (.error (.clock s.source (.os e))),
      k.after { clocks := 2 * works.length + 2 },
      k.timedTo s.source (works ++ work :: rest) (2 * works.length + 1)⟩ := by
  obtain ⟨clock, hsource, hgo⟩ := timeEach_append s (work :: rest) ht hx
  -- The error names the source of the clock, which is that of the settings.
  rw [Kernel.timedTo_odd, ← hsource]
  rw [← hsource] at hgo
  exact hgo _ _ _ (timeAll_of_error (timeOn_unstarted clock work h))

/-- A timing that is cut short after a run. -/
theorem timeEach_unstopped (rest : List Workload) (ht : k.Ticks (2 * works.length + 2) t)
    (hx : ∀ i < works.length, runTime s.resolution t i = .ok (x i))
    (h : k.clockAt (2 * works.length + 2) = .failed e) :
    (timeEach s (works ++ work :: rest)).run k = ⟨.error (.error (.clock s.source (.os e))),
      k.after { clocks := 2 * works.length + 3 },
      k.timedTo s.source (works ++ work :: rest) (2 * works.length + 2)⟩ := by
  obtain ⟨clock, hsource, hgo⟩ := timeEach_append s (work :: rest)
    (fun j hj => ht j (Nat.lt_succ_of_lt hj)) hx
  rw [Kernel.timedTo_run, ← hsource]
  rw [← hsource] at hgo
  exact hgo _ _ _
    (timeAll_of_error (timeOn_unstopped clock work (ht _ (Nat.lt_succ_self _)) h))

/-- A timing that is cut short by a time that cannot be worked out. -/
theorem timeEach_faulted {i : ℕ} {f : Fault} (hi : i < works.length)
    (ht : k.Ticks (2 * i + 3) t) (hx : ∀ h < i, runTime s.resolution t h = .ok (x h))
    (h : runTime s.resolution t i = .error f) :
    (timeEach s works).run k = ⟨.error (.fault f), k.after { clocks := 2 * i + 3 },
      k.timedTo s.source works (2 * i + 2)⟩ := by
  have hodd : 2 * i + 1 ≤ 2 * works.length := by omega
  obtain ⟨done, _, -, heven⟩ | ⟨done, work, rest, rfl, hodd⟩ := Kernel.timedTo_cases hodd
  · omega
  obtain rfl : i = done.length := by omega
  obtain ⟨clock, hsource, hgo⟩ := timeEach_append s (work :: rest) (fun j hj => ht j (by omega)) hx
  rw [Kernel.timedTo_run, ← hsource]
  rw [← hsource] at hgo
  have hone := timeOn_sampled (r := s.resolution) clock work
    (ht (2 * done.length + 1) (by omega)) (ht (2 * done.length + 2) (by omega))
  rw [← runTime, h] at hone
  exact hgo _ _ _ (timeAll_of_error hone)

/-- A timing that is cut short by a sample that cannot be taken: the first of all, the first of a
run or the second of a run. -/
theorem timeEach_refused (hj : j ≤ 2 * works.length) (ht : k.Ticks j t)
    (hx : ∀ i, 2 * i + 2 < j → runTime s.resolution t i = .ok (x i))
    (h : k.clockAt j = .failed e) :
    (timeEach s works).run k = ⟨.error (.error (.clock s.source (.os e))),
      k.after { clocks := j + 1 }, k.timedTo s.source works j⟩ := by
  obtain ⟨done, rest, rfl, rfl⟩ | ⟨done, work, rest, rfl, rfl⟩ := Kernel.timedTo_cases hj
  · rcases List.eq_nil_or_concat' done with rfl | ⟨before, work, rfl⟩
    · exact timeEach_uncreated _ h
    · have hlength : 2 * (before ++ [work]).length = 2 * before.length + 2 := by
        rw [List.length_append]
        rfl
      rw [hlength] at ht hx h ⊢
      rw [List.append_assoc]
      exact timeEach_unstopped work rest ht (fun i hi => hx i (by omega)) h
  · exact timeEach_unstarted work rest ht (fun i hi => hx i (by omega)) h

/-- However runs one after another end, what they leave ends with a sample. -/
theorem timeAll_cut (works : List Workload) (clock : IntervalClock) (j : ℕ) :
    ∃ m ≤ 2 * works.length,
      ((timeAll clock r works).run (k.after { clocks := j })).kernel =
        k.after { clocks := j + m } ∧
      ((timeAll clock r works).run (k.after { clocks := j })).trace =
        (k.runs clock.source j works).take (m + m / 2) := by
  induction works generalizing clock j with
  | nil => exact ⟨0, Nat.le_refl 0, rfl, rfl⟩
  | cons work rest ih =>
    have hruns : k.runs clock.source j (work :: rest) =
        k.runs clock.source j [work] ++ k.runs clock.source (j + 2) rest := rfl
    have hlength : 2 * (work :: rest).length = 2 * rest.length + 2 := rfl
    obtain ⟨f, m, hm, hone⟩ | ⟨x, clock', hsource, hone⟩ :=
      timeOn_cases clock work k r j
    · have hrun : (timeAll clock r (work :: rest)).run _ = _ := timeAll_of_error hone
      have hshort : m + m / 2 ≤ (k.runs clock.source j [work]).length := by
        rw [Kernel.length_runs, List.length_singleton]
        omega
      rw [hrun]
      refine ⟨m, by omega, rfl, ?_⟩
      rw [hruns, List.take_append_of_le_length hshort]
    · obtain ⟨m, hm, hkernel, htrace⟩ := ih clock' (j + 2)
      have hrun : (timeAll clock r (work :: rest)).run _ = _ := timeAll_of_ok hone rfl
      have htake : m + 2 + (m + 2) / 2 = (k.runs clock.source j [work]).length + (m + m / 2) := by
        rw [Kernel.length_runs, List.length_singleton]
        omega
      have hnext : j + 2 + m = j + (m + 2) := by omega
      rw [hrun]
      refine ⟨m + 2, by omega, hnext ▸ hkernel, ?_⟩
      rw [hruns, htake, List.take_length_add_append, ← hsource, ← htrace]
      rfl

/-- However a timing ends, what it leaves ends with a sample. -/
theorem timeEach_cut (s : Settings) (works : List Workload) (k : Kernel) :
    ∃ j ≤ 2 * works.length, ((timeEach s works).run k).kernel = k.after { clocks := j + 1 } ∧
      ((timeEach s works).run k).trace = k.timedTo s.source works j := by
  cases hfirst : k.clockAt 0 with
  | failed e =>
    rw [timeEach_uncreated works hfirst]
    exact ⟨0, Nat.zero_le _, rfl, rfl⟩
  | done first =>
    have hcreate := create_done s hfirst
    obtain ⟨m, hm, hkernel, htrace⟩ := timeAll_cut (k := k) (r := s.resolution) works
      { source := s.source, startTime := first } 1
    have hrun : (timeEach s works).run k = _ := Meter.run_ok (Meter.run_attempt hcreate) rfl
    rw [hrun]
    refine ⟨m, hm, Nat.add_comm 1 m ▸ hkernel, ?_⟩
    rw [Kernel.timedTo, Kernel.timed, hfirst, List.take_succ_cons, ← htrace]
    rfl

end

/-! ### Other timings -/

/-- One run of one unit of work is the first of several. -/
theorem timeEach_singleton (s : Settings) (work : Workload) :
    timeEach s [work] = (fun x => [x]) <$> time s work := by
  simp only [timeEach, time, timeAll, map_eq_pure_bind, bind_assoc, pure_bind]

/-- Runs of one unit of work, from run `i` on, are runs of several units. -/
theorem timeFrom_eq_timeAll (clock : IntervalClock) (r : Resolution) (work : ℕ → Workload)
    (i n : ℕ) : timeFrom clock r work i n = timeAll clock r ((List.range' i n).map work) := by
  -- Every run leaves another clock to the next one.
  induction n generalizing clock i with
  | zero => rfl
  | succ n ih =>
    rw [List.range'_succ, List.map_cons]
    simp only [timeFrom, timeAll, ih]

/-- As long as there is room, a unit of work that is timed several times is several units of work.
-/
theorem timeRepeat_of_room {n : ℕ} (h : n ≤ capacity) (s : Settings) (work : ℕ → Workload) :
    timeRepeat s n work = timeEach s ((List.range n).map work) := by
  unfold timeRepeat timeEach
  simp only [if_neg (Nat.not_lt.mpr h), timeFrom_eq_timeAll, List.range_eq_range']

/-- Where there is no room, only the first sample is taken. -/
theorem timeRepeat_beyond {n : ℕ} (h : capacity < n) (s : Settings) (work : ℕ → Workload)
    (k : Kernel) :
    (timeRepeat s n work).run k =
      ⟨match k.clockAt 0 with
        | .failed e => .error (.error (.clock s.source (.os e)))
        | .done _ => .error (.fault .capacityOverflow),
      k.after { clocks := 1 }, [.clock s.source (k.clockAt 0)]⟩ := by
  unfold timeRepeat
  simp only [if_pos h]
  cases hfirst : k.clockAt 0 with
  | failed e =>
    exact Meter.run_stop (Meter.run_attempt (create_refused s hfirst))
  | done first =>
    exact Meter.run_ok (Meter.run_attempt (create_done s hfirst)) rfl

/-- **Where a timing ends and what it gives.** The timing of units of work reads the clock once, and
then before and after each unit in order, and does nothing else. When all samples are taken and all
times can be worked out, it gives the times of the runs. The first sample that cannot be taken, or
the first time that cannot be worked out, ends it at once. To time a unit of work several times is
to time so many units of work, as long as there is room for the times; where there is none, the
timing ends after the first sample. To time one unit of work once is to time a list of one. -/
theorem timeEach_exact (s : Settings) (works : List Workload) (k : Kernel) (t : ℕ → Timestamp)
    (x : ℕ → Float) :
    let run := (timeEach s works).run k
    let whole := k.timed s.source works
    (∃ j ≤ 2 * works.length, run.kernel = k.after { clocks := j + 1 } ∧
      run.trace = whole.take (j + j / 2 + 1)) ∧
    (k.Ticks (2 * works.length + 1) t →
      (∀ i < works.length, runTime s.resolution t i = .ok (x i)) →
      run = ⟨.ok ((List.range works.length).map x), k.after { clocks := 2 * works.length + 1 },
        whole⟩) ∧
    (∀ j ≤ 2 * works.length, ∀ e, k.Ticks j t →
      (∀ i, 2 * i + 2 < j → runTime s.resolution t i = .ok (x i)) → k.clockAt j = .failed e →
      run = ⟨.error (.error (.clock s.source (.os e))), k.after { clocks := j + 1 },
        whole.take (j + j / 2 + 1)⟩ ∧
      run.trace.filterMap Entry.workload? = works.take (j / 2) ∧
      run.trace.filterMap Entry.clockReply? = (List.range (j + 1)).map k.clockAt) ∧
    (∀ i < works.length, ∀ f, k.Ticks (2 * i + 3) t →
      (∀ h < i, runTime s.resolution t h = .ok (x h)) → runTime s.resolution t i = .error f →
      run = ⟨.error (.fault f), k.after { clocks := 2 * i + 3 }, whole.take (3 * i + 4)⟩ ∧
      run.trace.filterMap Entry.workload? = works.take (i + 1) ∧
      run.trace.filterMap Entry.clockReply? = (List.range (2 * i + 3)).map k.clockAt) ∧
    (∀ n work, n ≤ capacity →
      timeRepeat s n (fun _ => work) = timeEach s (List.replicate n work)) ∧
    (∀ n work, capacity < n → (timeRepeat s n work).run k =
      ⟨match k.clockAt 0 with
        | .failed e => .error (.error (.clock s.source (.os e)))
        | .done _ => .error (.fault .capacityOverflow),
      k.after { clocks := 1 }, [.clock s.source (k.clockAt 0)]⟩) ∧
    ∀ work, timeEach s [work] = (fun x => [x]) <$> time s work := by
  intro run whole
  refine ⟨timeEach_cut s works k, timeEach_completed, fun j hj e ht hx h => ?_,
    fun i hi f ht hx h => ?_, fun n work h => ?_, fun n work h => timeRepeat_beyond h s work k,
    timeEach_singleton s⟩
  · have hrun : run = _ := timeEach_refused hj ht hx h
    rw [hrun]
    exact ⟨rfl, k.workloads_timedTo s.source hj, k.replies_timedTo s.source hj⟩
  · have hj : 2 * i + 2 ≤ 2 * works.length := by omega
    have hcut : 3 * i + 4 = 2 * i + 2 + (2 * i + 2) / 2 + 1 := by omega
    have hhalf : i + 1 = (2 * i + 2) / 2 := by omega
    have hrun : run = _ := timeEach_faulted hi ht hx h
    rw [hrun, hcut, hhalf]
    exact ⟨rfl, k.workloads_timedTo s.source hj, k.replies_timedTo s.source hj⟩
  · rw [timeRepeat_of_room h, List.map_const', List.length_range]

/-- A clock that stands still through three runs; one that steps back in the first run and cannot
be read after the second; and one whose second run is too long. -/
theorem timeEach_exact_on_steps :
    let s : Settings := { resolution := .nanoseconds }
    let works : List Workload := [.numbered 0, .numbered 1, .numbered 2]
    let still : Kernel := { script := {}, descriptor := id, newPid := fun n => n }
    let breaking : Kernel := { still with script := {
      clocks := [.done {}, .done ⟨1, 0⟩, .done {}, .done ⟨2, 0⟩, .failed ⟨22⟩] } }
    let long : Kernel := { still with script := {
      clocks := [.done {}, .done {}, .done {}, .done ⟨-1, 0⟩, .done ⟨9223372036854775807, 0⟩] } }
    let zero : Float := (0 : Int64).toFloat
    ((timeEach s works).run still).value = .ok [zero, zero, zero] ∧
      (still.Ticks 7 fun _ => {}) ∧
      ((timeEach s works).run breaking).value = .error (.error (.clock s.source (.os ⟨22⟩))) ∧
      ((timeEach s works).run breaking).trace.filterMap Entry.workload? = works.take 2 ∧
      ((timeEach s works).run long).value = .error (.fault .subtractOverflow) ∧
      ((timeEach s works).run long).trace.length = 7 ∧
      timeRepeat s 3 (fun _ => .unnamed) = timeEach s [.unnamed, .unnamed, .unnamed] := by
  intro s works still breaking long zero
  let steps (j : ℕ) : Timestamp := [{}, ⟨1, 0⟩, {}, ⟨2, 0⟩].getD j {}
  let bounds (j : ℕ) : Timestamp := [{}, {}, {}, ⟨-1, 0⟩, ⟨9223372036854775807, 0⟩].getD j {}
  let back : Float := (-1000000000 : Int64).toFloat
  obtain ⟨-, hstill, -, -, hrepeat, -, -⟩ :=
    timeEach_exact s works still (fun _ => {}) fun _ => zero
  obtain ⟨-, -, hbreaking, -⟩ := timeEach_exact s works breaking steps fun _ => back
  obtain ⟨-, -, -, hlong, -⟩ := timeEach_exact s works long bounds fun _ => zero
  have hsamples : still.Ticks 7 fun _ => {} := by decide
  have hstands : Resolution.nanoseconds.between {} {} = .ok zero := rfl
  have hback : Resolution.nanoseconds.between ⟨1, 0⟩ {} = .ok back := rfl
  have htooLong : Resolution.nanoseconds.between ⟨-1, 0⟩ ⟨9223372036854775807, 0⟩ =
    .error .subtractOverflow := rfl
  have hfirst {t : ℕ → Timestamp} {x : Float} (ht : runTime s.resolution t 0 = .ok x) (i : ℕ)
      (hi : i < 1) : runTime s.resolution t i = .ok x := Nat.lt_one_iff.mp hi ▸ ht
  obtain ⟨hvalue, hworks, -⟩ := hbreaking 4 (by decide) ⟨22⟩ (by decide)
    (fun i hi => hfirst (t := steps) hback i (by omega)) rfl
  obtain ⟨hfault, -, -⟩ := hlong 1 (by decide) .subtractOverflow (by decide +kernel)
    (hfirst (t := bounds) hstands) htooLong
  refine ⟨congrArg Ran.value (hstill hsamples fun _ _ => hstands), hsamples,
    congrArg Ran.value hvalue, hworks, congrArg Ran.value hfault, ?_,
    hrepeat 3 .unnamed (by decide)⟩
  rw [hfault]
  rfl

/-- Where there is no room for the times, to time a unit of work several times is not to time so
many units of work. -/
theorem timeRepeat_ne_timeEach_beyond_capacity :
    let s : Settings := {}
    let k : Kernel := {
      script := { clocks := [.done {}, .failed ⟨22⟩] }
      descriptor := id
      newPid := fun n => n }
    let repeated := (timeRepeat s 1152921504606846976 fun _ => .unnamed).run k
    let each := (timeEach s (List.replicate 1152921504606846976 .unnamed)).run k
    repeated.value = .error (.fault .capacityOverflow) ∧ repeated.trace.length = 1 ∧
      each.value = .error (.error (.clock s.source (.os ⟨22⟩))) ∧ each.trace.length = 2 := by
  intro s k repeated each
  have hbeyond : capacity < 1152921504606846976 := by
    unfold capacity
    omega
  have hrepeated : repeated = _ := timeRepeat_beyond hbeyond s _ k
  have hfirst : k.Ticks (2 * ([] : List Workload).length + 1) fun _ => {} := by decide
  have heach : each = _ := timeEach_unstarted (x := fun _ => 0) .unnamed
    (List.replicate 1152921504606846975 .unnamed) hfirst nofun rfl
  rw [hrepeated, heach]
  exact ⟨rfl, rfl, rfl, rfl⟩

end Trial

end TrialMeter
