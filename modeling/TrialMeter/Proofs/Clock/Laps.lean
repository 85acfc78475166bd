import Mathlib.Data.List.DropRight
import Mathlib.Data.List.Forall2
import Mathlib.Data.List.Induction
import TrialMeter.Proofs.Kernel.Exact
import TrialMeter.Session.Operation

/-!
# The laps of a stopwatch

A stopwatch is started anew, takes laps, is ended, and measures units of work on the side, and any
sample that it needs may be refused. What it keeps can be read off its past: where it starts is the
last sample with which it was started, and its laps are the samples that were taken as laps since
then. For that the sample has to come before the laps are forgotten: a start that is refused changes
nothing, nor does anything else that is refused, nor a measurement at all.

## Main definitions

* `Stopwatch.Use`, `Stopwatch.Use.perform`: the uses of a stopwatch.
* `Stopwatch.used`: what one use does and leaves.
* `Stopwatch.Watched`, `Stopwatch.Watched.reached`: a stopwatch, the kernel and the past, after any
  uses.
* `Stopwatch.Watched.Sound`: what holds of a stopwatch and its past.

## Main results

* `Stopwatch.Use.perform_eq`: one use, exactly.
* `Stopwatch.Watched.sound_step`, `Stopwatch.Watched.sound_reached`: one use, and any number of
  them.
* `Stopwatch.lapTimes_eq_ok_iff`, `Stopwatch.elapsed_of_lapTimes`: the times of the laps.
* `Stopwatch.laps_follow_history`: a stopwatch and its past.
-/

namespace TrialMeter.Stopwatch

/-- A use of a stopwatch. -/
inductive Use where
  | start
  | lap
  | stop
  | measure (work : Workload)

/-- A use of a stopwatch, and the stopwatch that it leaves. -/
def Use.perform (w : Stopwatch) : Use → Meter (Acted Stopwatch)
  | start => StopwatchOperation.start.perform w
  | lap => StopwatchOperation.lap.perform w
  | stop => answering (fun _ => .nothing) <$> w.stop
  | measure work => (StopwatchOperation.measure work).perform w

/-- How a unit of work is measured on the kernel `k`: between two samples, of which the first has to
be taken for the work to be done. -/
def measured (w : Stopwatch) (k : Kernel) (work : Workload) : Ran (Except Failure Float) :=
  let first := .clock w.clock.source (k.clockAt 0)
  let second := .clock w.clock.source (k.clockAt 1)
  match k.clockAt 0, k.clockAt 1 with
  | .failed e, _ =>
    ⟨.error (.error (.clock w.clock.source (.os e))), k.after { clocks := 1 }, [first]⟩
  | .done _, .failed e =>
    ⟨.error (.error (.clock w.clock.source (.os e))), k.after { clocks := 2 },
      [first, .work work, second]⟩
  | .done start, .done stop =>
    ⟨(Resolution.seconds.between start stop).mapError .fault, k.after { clocks := 2 },
      [first, .work work, second]⟩

/-- What becomes of a stopwatch by a use that needs the sample `t`. -/
def sampled (w : Stopwatch) (t : Timestamp) : Use → Stopwatch
  | .start => { clock := { w.clock with startTime := t } }
  | .lap | .stop => { clock := { w.clock with stopTime := t }, laps := w.laps ++ [t] }
  | .measure _ => w

/-- What a use of a stopwatch does on the kernel `k`, and what it leaves: a measurement leaves the
stopwatch as it is, and so does a sample that is refused. -/
def used (w : Stopwatch) (k : Kernel) (u : Use) : Ran (Acted Stopwatch) :=
  match u with
  | .measure work =>
    let run := w.measured k work
    ⟨(run.value.map .time, w), run.kernel, run.trace⟩
  | u =>
    match k.clockAt 0 with
    | .done t =>
      ⟨(.ok .nothing, w.sampled t u), k.after { clocks := 1 }, [.clock w.clock.source (.done t)]⟩
    | .failed e =>
      ⟨(.error (.error (.clock w.clock.source (.os e))), w), k.after { clocks := 1 },
        [.clock w.clock.source (.failed e)]⟩

/-- A use that is past, with its result and what it left. -/
structure Turn where
  use : Use
  result : Except Failure Value
  trace : List Entry

namespace Turn

/-- The last sample of a turn that succeeded. -/
def sample? (t : Turn) : Option Timestamp :=
  match t.result with
  | .ok _ => (t.trace.filterMap fun
    | .clock _ (.done sample) => some sample
    | _ => none).getLast?
  | .error _ => none

/-- The sample with which a turn started the stopwatch. -/
def started? (t : Turn) : Option Timestamp :=
  match t.use with
  | .start => t.sample?
  | _ => none

/-- The sample that a turn added to the laps. -/
def lapped? (t : Turn) : Option Timestamp :=
  match t.use with
  | .lap | .stop => t.sample?
  | _ => none

end Turn

/-- A stopwatch in use. -/
structure Watched where
  watch : Stopwatch
  kernel : Kernel
  past : List Turn := []

namespace Watched

/-- The run of one more use. -/
def run (s : Watched) (u : Use) : Ran (Acted Stopwatch) := (u.perform s.watch).run s.kernel

/-- One more use, as it will be remembered. -/
def turn (s : Watched) (u : Use) : Turn := ⟨u, (s.run u).value.1, (s.run u).trace⟩

/-- What one more use leaves. -/
def step (s : Watched) (u : Use) : Watched :=
  ⟨(s.run u).value.2, (s.run u).kernel, s.past ++ [s.turn u]⟩

/-- A stopwatch after some uses, from the time when it was made. -/
def reached (w : Stopwatch) (k : Kernel) (uses : List Use) : Watched :=
  uses.foldl step { watch := w, kernel := k }

/-- What was done since the last start. -/
def sinceStart (s : Watched) : List Turn := s.past.rtakeWhile fun t => t.started?.isNone

/-- What holds of a stopwatch that was made with the sample `first`, and of its past. -/
structure Sound (source : Source) (first : Timestamp) (s : Watched) : Prop where
  source_eq : s.watch.clock.source = source
  start_eq : s.watch.clock.startTime = ((s.past.filterMap Turn.started?).getLast?).getD first
  laps_eq : s.watch.laps = s.sinceStart.filterMap Turn.lapped?

end Watched

/-! ### One use -/

/-- A start samples first: the laps are forgotten when that is done, and kept when it is refused. -/
theorem start_run (w : Stopwatch) (k : Kernel) :
    w.start k =
      ⟨match k.clockAt 0 with
        | .done t => (.ok (), { clock := { w.clock with startTime := t } })
        | .failed e => (.error (.clock w.clock.source (.os e)), w),
        k.after { clocks := 1 }, [.clock w.clock.source (k.clockAt 0)]⟩ := by
  have hstart := w.clock.start_after (k := k) (u := {})
  cases hreply : k.clockAt 0 with
  | done t => rw [hreply] at hstart; exact Meter.run_bindPure hstart rfl
  | failed e => rw [hreply] at hstart; exact Meter.run_bindPure hstart rfl

theorem lap_run (w : Stopwatch) (k : Kernel) :
    w.lap k =
      ⟨match k.clockAt 0 with
        | .done t => (.ok (), { clock := { w.clock with stopTime := t }, laps := w.laps ++ [t] })
        | .failed e => (.error (.clock w.clock.source (.os e)), w),
        k.after { clocks := 1 }, [.clock w.clock.source (k.clockAt 0)]⟩ := by
  have hstop := w.clock.stop_after (k := k) (u := {})
  cases hreply : k.clockAt 0 with
  | done t => rw [hreply] at hstop; exact Meter.run_bindPure hstop rfl
  | failed e => rw [hreply] at hstop; exact Meter.run_bindPure hstop rfl

/-- A measurement leaves the stopwatch as it is, however it ends. -/
theorem measure_run (w : Stopwatch) (k : Kernel) (work : Workload) :
    w.measure work k =
      ⟨((w.measured k work).value, w), (w.measured k work).kernel, (w.measured k work).trace⟩ := by
  have hfirst := Timestamp.now_after (k := k) (u := {}) w.clock.source
  have hsecond := Timestamp.now_after (k := k) (u := { clocks := 1 }) w.clock.source
  have hwork : Meter.work work (k.after { clocks := 1 }) =
    ⟨(), k.after { clocks := 1 }, [.work work]⟩ := rfl
  unfold measured
  cases h₀ : k.clockAt 0 with
  | failed e =>
    rw [h₀] at hfirst
    exact Meter.run_bindPure hfirst rfl
  | done start =>
    rw [h₀] at hfirst
    cases h₁ : k.clockAt 1 with
    | failed e =>
      rw [h₁] at hsecond
      exact Meter.run_bind hfirst (Meter.run_bind hwork (Meter.run_bindPure hsecond rfl))
    | done stop =>
      rw [h₁] at hsecond
      exact Meter.run_bind hfirst (Meter.run_bind hwork (Meter.run_bindPure hsecond rfl))

/-- One use, exactly. -/
theorem Use.perform_eq (w : Stopwatch) (k : Kernel) (u : Use) :
    (u.perform w).run k = used w k u := by
  cases u with
  | start =>
    refine (Meter.run_map (w.start_run k) _).trans ?_
    unfold used
    cases k.clockAt 0 with
    | done t => rfl
    | failed e => rfl
  | lap | stop =>
    refine (Meter.run_map (w.lap_run k) _).trans ?_
    unfold used
    cases k.clockAt 0 with
    | done t => rfl
    | failed e => rfl
  | measure work => exact Meter.run_bindPure (w.measure_run k work) rfl

/-! ### Any number of uses -/

namespace Watched

variable {source : Source} {first : Timestamp} {s : Watched}

/-- What one more use can do: it starts the stopwatch anew, or it keeps where it starts and adds
what it takes as a lap, if anything, to the laps. -/
theorem step_cases (s : Watched) (u : Use) :
    (∃ t, (s.turn u).started? = some t ∧ (s.step u).watch = s.watch.sampled t .start) ∨
    ((s.turn u).started? = none ∧ (s.step u).watch.clock.source = s.watch.clock.source ∧
      (s.step u).watch.clock.startTime = s.watch.clock.startTime ∧
      (s.step u).watch.laps = s.watch.laps ++ (s.turn u).lapped?.toList) := by
  have hrun : s.run u = used s.watch s.kernel u := u.perform_eq s.watch s.kernel
  rw [turn, step, hrun]
  unfold used
  cases u with
  | measure work => exact .inr ⟨rfl, rfl, rfl, (List.append_nil _).symm⟩
  | start =>
    cases s.kernel.clockAt 0 with
    | done t => exact .inl ⟨t, rfl, rfl⟩
    | failed e => exact .inr ⟨rfl, rfl, rfl, (List.append_nil _).symm⟩
  | lap | stop =>
    cases s.kernel.clockAt 0 with
    | done t => exact .inr ⟨rfl, rfl, rfl, rfl⟩
    | failed e => exact .inr ⟨rfl, rfl, rfl, (List.append_nil _).symm⟩

/-- The last start is that of the last use, if it started the stopwatch. -/
theorem getLast?_started_step (s : Watched) (u : Use) :
    ((s.step u).past.filterMap Turn.started?).getLast? =
      (s.turn u).started?.or (s.past.filterMap Turn.started?).getLast? := by
  rw [step, List.filterMap_append, List.getLast?_append]
  cases hstarted : (s.turn u).started? with
  | none => rw [List.filterMap_cons_none hstarted]; rfl
  | some t => rw [List.filterMap_cons_some hstarted]; rfl

/-- One use keeps what holds of a stopwatch and its past. -/
theorem sound_step (hs : s.Sound source first) (u : Use) : (s.step u).Sound source first := by
  obtain ⟨hsource, hstart, hlaps⟩ := hs
  have hsince : (s.step u).sinceStart =
      if (s.turn u).started?.isNone then s.sinceStart ++ [s.turn u] else [] :=
    List.rtakeWhile_concat _ _ _
  obtain ⟨t, hstarted, hwatch⟩ | ⟨hstarted, hsource', hstart', hlaps'⟩ := s.step_cases u
  · refine ⟨hwatch ▸ hsource, ?_, ?_⟩
    · rw [getLast?_started_step, hstarted, hwatch]
      rfl
    · rw [hsince, hstarted, hwatch]
      rfl
  · refine ⟨hsource'.trans hsource, ?_, ?_⟩
    · rw [getLast?_started_step, hstarted, hstart', hstart]
      rfl
    · rw [hsince, hstarted, hlaps', hlaps, Option.isNone_none, if_pos rfl, List.filterMap_append]
      cases hlapped : (s.turn u).lapped? with
      | none => rw [List.filterMap_cons_none hlapped]; rfl
      | some t => rw [List.filterMap_cons_some hlapped]; rfl

/-- What holds of a stopwatch and its past, after any uses. -/
theorem sound_reached {w : Stopwatch} (hw : w.laps = []) (k : Kernel) (uses : List Use) :
    (reached w k uses).Sound w.clock.source w.clock.startTime := by
  induction uses using List.reverseRecOn with
  | nil => exact ⟨rfl, rfl, hw⟩
  | append_singleton uses u ih =>
    rw [reached, List.foldl_concat]
    exact sound_step ih u

/-- The past tells of all uses, in order. -/
theorem past_reached (w : Stopwatch) (k : Kernel) (uses : List Use) :
    (reached w k uses).past.map Turn.use = uses := by
  induction uses using List.reverseRecOn with
  | nil => rfl
  | append_singleton uses u ih =>
    rw [reached, List.foldl_concat, step, List.map_append]
    exact congrArg (· ++ [u]) ih

end Watched

/-! ### The times of the laps -/

/-- A pass succeeds when it does at every element. -/
theorem mapM_eq_ok_iff {α β : Type} {f : α → Except Fault β} {l : List α} {xs : List β} :
    l.mapM f = .ok xs ↔ List.Forall₂ (fun a x => f a = .ok x) l xs := by
  induction l generalizing xs with
  | nil =>
    rw [List.forall₂_nil_left_iff]
    exact ⟨fun h => (Except.ok.inj h).symm, fun h => h ▸ rfl⟩
  | cons a l ih =>
    rw [List.mapM_cons, List.forall₂_cons_left_iff]
    constructor
    · intro h
      cases ha : f a with
      | error e =>
        rw [ha] at h
        exact absurd h nofun
      | ok x =>
        cases hl : l.mapM f with
        | error e =>
          rw [ha, hl] at h
          exact absurd h nofun
        | ok rest =>
          rw [ha, hl] at h
          exact ⟨x, rest, rfl, ih.mp hl, (Except.ok.inj h).symm⟩
    · rintro ⟨x, rest, ha, hl, rfl⟩
      rw [ha, ih.mpr hl]
      rfl

theorem lapTimes_eq_ok_iff {w : Stopwatch} {xs : List Float} :
    w.lapTimes = .ok xs ↔ List.Forall₂
      (fun t x => Resolution.milliseconds.between w.clock.startTime t = .ok x) w.laps xs :=
  mapM_eq_ok_iff

/-- Where every lap has a time, that of the last lap is the last of the times. -/
theorem elapsed_of_lapTimes {w : Stopwatch} {xs : List Float} (h : w.lapTimes = .ok xs) :
    w.elapsed = .ok xs.getLast? := by
  have hlast {l : List Timestamp} {xs : List Float}
      (h : List.Forall₂ (fun t x => w.timeAt t = .ok x) l xs) :
      l.getLast?.mapM w.timeAt = .ok xs.getLast? := by
    induction h with
    | nil => rfl
    | @cons t x _ _ ht hrest ih =>
      cases hrest with
      | nil => exact congrArg (some <$> ·) ht
      | cons ht' hrest => rwa [List.getLast?_cons_cons, List.getLast?_cons_cons]
  exact hlast (mapM_eq_ok_iff.mp h)

theorem elapsed_eq_none_iff {w : Stopwatch} : w.elapsed = .ok none ↔ w.laps = [] := by
  rw [elapsed, ← List.getLast?_eq_none_iff]
  cases w.laps.getLast? with
  | none => exact iff_of_true rfl rfl
  | some t =>
    have hmap : (some t).mapM w.timeAt = some <$> w.timeAt t := rfl
    rw [hmap]
    cases w.timeAt t with
    | ok x => exact iff_of_false nofun nofun
    | error f => exact iff_of_false nofun nofun

/-- A stopwatch that is made starts at the sample that is taken for it, and has no laps. -/
theorem eq_of_create {source : Source} {k k' : Kernel} {w : Stopwatch} {es : List Entry}
    (h : (create source).run k = ⟨.ok w, k', es⟩) :
    w.clock.source = source ∧ w.laps = [] ∧ es = [.clock source (.done w.clock.startTime)] := by
  have hnow := Timestamp.now_after (k := k) (u := {}) source
  cases hfirst : k.clockAt 0 with
  | failed e =>
    rw [hfirst] at hnow
    have hrun : (create source).run k = _ := Meter.run_stop (Meter.run_stop hnow)
    exact absurd (congrArg Ran.value (hrun.symm.trans h)) nofun
  | done t =>
    rw [hfirst] at hnow
    have hrun : (create source).run k =
      ⟨.ok { clock := { source, startTime := t } }, _, _⟩ :=
      Meter.run_ok (Meter.run_ok hnow rfl) rfl
    obtain ⟨hw, -, rfl⟩ := Ran.mk.inj (hrun.symm.trans h)
    obtain rfl := Except.ok.inj hw
    exact ⟨rfl, rfl, rfl⟩

/-- **A stopwatch and its past.** After any uses of a stopwatch, whatever samples it was refused, it
starts where it was started last, which is where it was made if it was not started since, and its
laps are the samples that were taken as laps since then, the last one by ending it or not, in order.
From there on a use goes as `used` tells: a sample that is refused is reported and changes nothing;
a start forgets the laps, once it is sampled; a lap is added behind the others; and a measurement
samples before and after one run of the work, which is not done if the first sample is refused, and
changes nothing. The times of the laps are their distances from the start in milliseconds; there is
a last one if and only if there is a lap, and it is the last of them. -/
theorem laps_follow_history {source : Source} {k k' : Kernel} {w : Stopwatch} {es : List Entry}
    (h : (create source).run k = ⟨.ok w, k', es⟩) (uses : List Use) :
    let s := Watched.reached w k' uses
    es = [.clock source (.done w.clock.startTime)] ∧
    s.past.map Turn.use = uses ∧
    s.watch.clock.source = source ∧
    s.watch.clock.startTime =
      ((s.past.filterMap Turn.started?).getLast?).getD w.clock.startTime ∧
    s.watch.laps = s.sinceStart.filterMap Turn.lapped? ∧
    (∀ u, s.run u = s.watch.used s.kernel u) ∧
    (∀ xs, s.watch.lapTimes = .ok xs ↔ List.Forall₂
      (fun t x => Resolution.milliseconds.between s.watch.clock.startTime t = .ok x)
      s.watch.laps xs) ∧
    (s.watch.elapsed = .ok none ↔ s.watch.laps = []) ∧
    ∀ xs, s.watch.lapTimes = .ok xs → s.watch.elapsed = .ok xs.getLast? := by
  intro s
  obtain ⟨hsource, hlaps, hes⟩ := eq_of_create h
  obtain ⟨hsource', hstart, hlaps'⟩ := Watched.sound_reached hlaps k' uses
  exact ⟨hes, Watched.past_reached w k' uses, hsource'.trans hsource, hstart, hlaps',
    fun u => u.perform_eq s.watch s.kernel, fun _ => lapTimes_eq_ok_iff, elapsed_eq_none_iff,
    fun _ => elapsed_of_lapTimes⟩

/-- A start that is refused between two laps forgets neither; a start that is sampled forgets both,
and the lap after it that is refused is none. -/
theorem laps_follow_history_past_refusals :
    let k : Kernel := {
      script := { clocks := [.done {}, .done ⟨1, 0⟩, .failed ⟨22⟩, .done ⟨2, 0⟩, .done ⟨3, 0⟩,
        .failed ⟨22⟩, .done ⟨5, 0⟩] }
      descriptor := id
      newPid := fun n => n }
    let w : Stopwatch := { clock := { source := .monotonic, startTime := {} } }
    let k' := k.after { clocks := 1 }
    (create .monotonic).run k = ⟨.ok w, k', [.clock .monotonic (.done {})]⟩ ∧
      (Watched.reached w k' [.lap, .start, .stop]).watch.laps = [⟨1, 0⟩, ⟨2, 0⟩] ∧
      (Watched.reached w k' [.lap, .start, .stop, .start, .lap, .lap]).watch.laps = [⟨5, 0⟩] ∧
      (Watched.reached w k' [.lap, .start, .stop, .start, .lap, .lap]).watch.clock.startTime =
        ⟨3, 0⟩ := by
  intro k w k'
  have hmade : (create .monotonic).run k = ⟨.ok w, k', [.clock .monotonic (.done {})]⟩ := rfl
  obtain ⟨-, -, -, -, hlaps, -⟩ := laps_follow_history hmade [.lap, .start, .stop]
  obtain ⟨-, -, -, hstart', hlaps', -⟩ :=
    laps_follow_history hmade [.lap, .start, .stop, .start, .lap, .lap]
  exact ⟨hmade, hlaps.trans (by decide +kernel), hlaps'.trans (by decide +kernel),
    hstart'.trans (by decide +kernel)⟩

end TrialMeter.Stopwatch
