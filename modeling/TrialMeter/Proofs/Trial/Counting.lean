import TrialMeter.Proofs.Trace.Conduct
import TrialMeter.Proofs.Trial.External
import TrialMeter.Proofs.Trial.Opening
import TrialMeter.Proofs.Trial.Timing

/-!
# One counter, strictly and leniently

A program that counts one run of its work can insist on the count, and then the first refusal ends
the counting: a counter that is not started runs no work, and one that is not stopped is not read.
Or it can take what it gets, and then the work is run in any case, a granted counter is stopped and
read whatever was refused before, and a count that cannot be had is zero. Where the strict counting
succeeds, the lenient one is the same run; where it does not, the two part at the first refusal.

## Main definitions

* `Counter.measureOnce`: the strict counting, from the opening of the counter to its release.
* `Kernel.measured`, `Kernel.counted`: the calls and the outcome of the two countings.
* `Kernel.countedOn`: the calls and the outcome of the lenient counting of a child that was started.

## Main results

* `Trial.countOne_of_measureOnce`: where the strict counting succeeds.
* `Trial.does_countOne`, `Counter.does_measureOnce`, `Trial.does_countProgram`: the courses.
* `Trial.countOne_answers`: the countings together.
-/

namespace TrialMeter

open Meter (Does)

/-- The count over one run of `work`, by a counter that is opened for it and given back. -/
def Counter.measureOnce (kind : Kind) (work : Workload) : Attempt UInt64 := do
  let c ← create kind
  Meter.finally (c.measure work) (discard c.release)

/-! ### Where the strict counting succeeds -/

section

variable {k k' : Kernel} {es : List Entry} {c : Counter}

namespace Counter

theorem openHere_of_create {kind : Kind} (h : (create kind).run k = ⟨.ok c, k', es⟩) :
    (quiet kind).openHere k = ⟨(.ok (), c), k', es⟩ := by
  rcases hopen : (quiet kind).openHere k with ⟨⟨result, c'⟩, k₁, es₁⟩
  have hcreate : (create kind).run k = ⟨result.map fun _ => c', k₁, es₁⟩ :=
    Meter.run_bindPure hopen rfl
  rw [hcreate] at h
  cases result with
  | error e => exact absurd (congrArg Ran.value h) nofun
  | ok done =>
    obtain ⟨hc, rfl, rfl⟩ := Ran.mk.inj h
    obtain rfl := Except.ok.inj hc
    rfl

/-- A counter is open if an operation on its descriptor succeeds. -/
theorem isOpen_of_ok {α : Type} {f : Fd → Attempt α} {a : α}
    (h : (c.binding.requireFd >>= f).run k = ⟨.ok a, k', es⟩) : c.isOpen := by
  by_contra hopen
  have hheld : c.binding.held = none := Option.not_isSome_iff_eq_none.mp hopen
  rw [Binding.requireFd_of_none hheld] at h
  exact absurd (congrArg Ran.value h) nofun

theorem retrieve_of_ok {v : UInt64} (h : c.read.run k = ⟨.ok v, k', es⟩) :
    c.retrieve k = ⟨v, k', es⟩ :=
  Meter.run_bindPure h rfl

end Counter

namespace Trial

theorem startCounter_of_ok (h : c.start.run k = ⟨.ok (), k', es⟩) :
    startCounter c k = ⟨(), k', es⟩ := by
  rw [startCounter, if_pos (Counter.isOpen_of_ok h)]
  exact Meter.run_bindPure h rfl

theorem stopCounter_of_ok (h : c.stop.run k = ⟨.ok (), k', es⟩) :
    stopCounter c k = ⟨(), k', es⟩ := by
  rw [stopCounter, if_pos (Counter.isOpen_of_ok h)]
  exact Meter.run_bindPure h rfl

/-- Where the strict counting succeeds, the lenient one is the same run. -/
theorem countOne_of_measureOnce {kind : Kind} {work : Workload} {v : UInt64}
    (h : (Counter.measureOnce kind work).run k = ⟨.ok v, k', es⟩) :
    countOne kind work k = ⟨v, k', es⟩ := by
  obtain ⟨c, k₁, opening, scope, hcreate, hscope, rfl⟩ := Meter.run_ok_inv h
  obtain ⟨k₂, measuring, closing, hmeasure, hclose, rfl⟩ := Meter.run_finally_inv hscope
  obtain ⟨_, k₃, starting, window, hstart, hwindow, rfl⟩ := Meter.run_ok_inv hmeasure
  obtain ⟨_, k₄, working, ending, hwork, hending, rfl⟩ := Meter.run_ok_inv hwindow
  obtain ⟨_, k₅, stopping, reading, hstop, hread, rfl⟩ := Meter.run_ok_inv hending
  have hopen : (Counter.quiet kind).openHere k = ⟨(.ok (), c), k₁, opening⟩ :=
    Counter.openHere_of_create hcreate
  have hclose : (do let _ ← c.release; return v) k₂ = ⟨v, k', closing⟩ := by
    rcases hrelease : c.release k₂ with ⟨c', k₆, es₆⟩
    have hdiscard : discard c.release k₂ = ⟨(), k₆, es₆⟩ := Meter.run_map hrelease _
    rw [hdiscard] at hclose
    obtain ⟨-, rfl, rfl⟩ := Ran.mk.inj hclose
    exact Meter.run_bindPure hrelease rfl
  have htrace : opening ++ (starting ++ (working ++ (stopping ++ reading)) ++ closing) =
      opening ++ ([] ++ (starting ++ (working ++ (stopping ++ (reading ++ closing))))) := by
    simp only [List.append_assoc, List.nil_append]
  rw [htrace]
  exact Meter.run_bind hopen <| Meter.run_bind rfl <| Meter.run_bind (startCounter_of_ok hstart) <|
    Meter.run_bind (Meter.run_lift_inv hwork) <| Meter.run_bind (stopCounter_of_ok hstop) <|
    Meter.run_bind (Counter.retrieve_of_ok hread) hclose

end Trial

end

/-! ### The courses -/

namespace Kernel

variable (k : Kernel) (kind : Kind)

/-- How the strict counting goes on a counter that was granted, by the first thing that is refused,
and which calls it makes. -/
def measuredOn (fd : Fd) (work : Workload) : Except Error UInt64 × List Entry :=
  match k.controlAt 0, k.controlAt 1, k.controlAt 2 with
  | .failed e, _, _ => (.error (.controlling (.os e)), [.control fd .reset 0 (.failed e)])
  | .done (), .failed e, _ => (.error (.controlling (.os e)),
    [.control fd .reset 0 (.done ()), .control fd .enable 0 (.failed e)])
  | .done (), .done (), .failed e => (.error (.controlling (.os e)),
    [.control fd .reset 0 (.done ()), .control fd .enable 0 (.done ()), .work work,
      .control fd .disable 0 (.failed e)])
  | .done (), .done (), .done () => ((k.readAt 0).result,
    [.control fd .reset 0 (.done ()), .control fd .enable 0 (.done ()), .work work,
      .control fd .disable 0 (.done ()), .read fd 8 (k.readAt 0)])

/-- How the strict counting goes, and which calls it makes. -/
def measured (work : Workload) : Except Error UInt64 × List Entry :=
  let request := .counter kind.attr 0 (-1) (-1) closeOnExec (k.openAt 0)
  match k.openAt 0 with
  | .failed e => (.error (.opening kind.text .caller (.os e)), [request])
  | .done fd =>
    let window := k.measuredOn fd work
    (window.1, request :: (window.2 ++ [.close fd]))

/-- How the lenient counting goes, and which calls it makes. -/
def counted (work : Workload) : UInt64 × List Entry :=
  let request := .counter kind.attr 0 (-1) (-1) closeOnExec (k.openAt 0)
  match k.openAt 0 with
  | .failed _ => (0, [request, .work work])
  | .done fd =>
    let starts := k.startCalls [fd] 0
    ((k.readAt 0).result.toOption.getD 0, request :: (starts ++
      [.work work, .control fd .disable 0 (k.controlAt starts.length), .read fd 8 (k.readAt 0),
        .close fd]))

/-- How the lenient counting of a child goes on when the child has been started, and which calls it
makes from there on. -/
def countedOn (pid : Pid) : Except Error UInt64 × List Entry :=
  let request := .counter kind.attr pid (-1) (-1) closeOnExec (k.openAt 0)
  let waits := k.waitCalls pid 0
  match k.openAt 0, k.waited 0 with
  | .failed _, .failed e => (.error (.waiting pid (.os e)), request :: waits)
  | .failed _, .done _ => (.ok 0, request :: waits)
  | .done fd, .failed e =>
    (.error (.waiting pid (.os e)), request :: (k.startCalls [fd] 0 ++ (waits ++ [.close fd])))
  | .done fd, .done _ =>
    let starts := k.startCalls [fd] 0
    (.ok ((k.readAt 0).result.toOption.getD 0), request :: (starts ++ (waits ++
      [.control fd .disable 0 (k.controlAt starts.length), .read fd 8 (k.readAt 0), .close fd])))

end Kernel

variable {k : Kernel} {u : Spent}

/-- A closed counter asks the kernel once, and is given up when it is refused. -/
theorem Counter.does_create (kind : Kind) :
    (create kind).run.Does k u
      (· = ((k.openAt u.counters).result (.opening kind.text .caller)).map fun _ =>
        k.counterAt .caller kind u.counters)
      { u with counters := u.counters + 1 }
      [.counter kind.attr 0 (-1) (-1) closeOnExec (k.openAt u.counters)] := by
  have hopen : (quiet kind).openHere.Does k u (· = ofBinding _) _ _ :=
    (Binding.does_openFor kind .caller).map fun _ h => congrArg ofBinding h
  refine hopen.bindPure fun r hr => .pure ?_
  subst hr
  cases k.openAt u.counters with
  | done fd => rfl
  | failed e => rfl

/-- The course of the strict counting on a counter that was just granted. -/
theorem Counter.does_measure {c : Counter} {d : Descriptor} (h : c.binding.held = some d)
    (work : Workload) :
    ∃ u', (c.measure work).run.Does k { counters := 1 } (· = (k.measuredOn d.fd work).1) u'
      (k.measuredOn d.fd work).2 := by
  unfold Kernel.measuredOn measure
  cases hreset : k.controlAt 0 with
  | failed e =>
    exact ⟨_, (Meter.does_of_run (Binding.start_of_refused h hreset) rfl).stop rfl⟩
  | done reset =>
    have hstart := Meter.does_of_run (Binding.start_of_done (u := { counters := 1 }) h hreset) rfl
    cases henable : k.controlAt 1 with
    | failed e =>
      rw [henable] at hstart
      exact ⟨_, hstart.stop rfl⟩
    | done enable =>
      have hstop : c.stop.run.Does k { counters := 1, controls := 2 }
          (· = (k.controlAt 2).result .controlling) { counters := 1, controls := 3 }
          [.control d.fd .disable 0 (k.controlAt 2)] := by
        rw [stop, Binding.stop, Binding.requireFd_of_some h, pure_bind]
        exact Binding.does_control d.fd .disable
      rw [henable] at hstart
      cases hdisable : k.controlAt 2 with
      | failed e =>
        rw [hdisable] at hstop
        exact ⟨_, hstart.ok <| (Does.tell rfl).lift fun _ _ => hstop.stop rfl⟩
      | done disable =>
        rw [hdisable] at hstop
        exact ⟨_, hstart.ok <| (Does.tell rfl).lift fun _ _ => hstop.ok <|
          Binding.does_read_of_some h⟩

/-- The course of the strict counting. -/
theorem Counter.does_measureOnce (kind : Kind) (work : Workload) :
    ∃ u', (measureOnce kind work).run.Does k {} (· = (k.measured kind work).1) u'
      (k.measured kind work).2 := by
  have hcreate := does_create (k := k) (u := {}) kind
  unfold measureOnce Kernel.measured
  cases hopen : k.openAt 0 with
  | failed e =>
    rw [hopen] at hcreate
    exact ⟨_, hcreate.stop rfl⟩
  | done fd =>
    rw [hopen] at hcreate
    have hfd : k.fdAt 0 = some fd := by rw [Kernel.fdAt, hopen]
    have hheld : (k.counterAt .caller kind 0).binding.held = some ⟨fd, .caller⟩ := by
      rw [Kernel.counterAt, hfd, Option.map_some]
    obtain ⟨u', hmeasure⟩ := does_measure hheld work
    have hrelease : (discard (k.counterAt .caller kind 0).release).Does k u' (fun _ => True) u'
        (closeCalls (k.fdAt 0).toList) :=
      (k.fd_counterAt .caller kind 0) ▸ (does_release _).map fun _ _ => trivial
    rw [hfd] at hrelease
    exact ⟨_, hcreate.ok (hmeasure.finally hrelease)⟩

theorem Counter.measureOnce_exact (kind : Kind) (work : Workload) (k : Kernel) :
    (((measureOnce kind work).run k).value,
      calls ((measureOnce kind work).run k).trace) = k.measured kind work := by
  obtain ⟨u', hcourse⟩ := does_measureOnce (k := k) kind work
  have hvalue : ((measureOnce kind work).run k).value = (k.measured kind work).1 :=
    hcourse.value
  have hcalls : calls (k.measured kind work).2 = (k.measured kind work).2 := by
    unfold Kernel.measured Kernel.measuredOn
    split
    · rfl
    · split
      · rfl
      · rfl
      · rfl
      · rfl
  have htrace : calls ((measureOnce kind work).run k).trace = (k.measured kind work).2 :=
    hcourse.calls_trace.trans hcalls
  rw [hvalue, htrace]

/-- Units of work are calls. -/
theorem filterMap_workload_calls (trace : List Entry) :
    (calls trace).filterMap Entry.workload? = trace.filterMap Entry.workload? := by
  rw [calls, List.filterMap_filter]
  refine List.filterMap_congr fun e _ => ?_
  cases e with
  | log line => rfl
  | _ => rfl

namespace Trial

section

variable {c : Counter} {fd : Option Fd} (hfd : c.binding.fd = fd)

include hfd

/-- A counter that is open is started. -/
theorem does_startCounter :
    (startCounter c).Does k u (fun _ => True)
      { u with controls := (k.startCalls fd.toList u.controls).length + u.controls }
      (k.startCalls fd.toList u.controls) := by
  subst hfd
  unfold startCounter Counter.isOpen Binding.isOpen Binding.fd
  cases h : c.binding.held with
  | none =>
    rw [Option.map_none, Option.toList_none, Kernel.startCalls, List.length_nil, Nat.zero_add]
    exact .pure trivial
  | some d => exact (Binding.does_start h).bindPure fun r _ => does_warnRefused _ r

/-- A counter that is open is stopped. -/
theorem does_stopCounter :
    (stopCounter c).Does k u (fun _ => True)
      { u with controls := (k.stopCalls fd.toList u.controls).length + u.controls }
      (k.stopCalls fd.toList u.controls) := by
  subst hfd
  unfold stopCounter Counter.isOpen Binding.isOpen Binding.fd
  cases h : c.binding.held with
  | none =>
    have hnone : k.stopCalls [] u.controls = [] := rfl
    rw [Option.map_none, Option.toList_none, hnone, List.length_nil, Nat.zero_add]
    exact .pure trivial
  | some d => exact (Binding.does_stop h).bindPure fun r _ => does_warnRefused _ r

end

/-- The course of the lenient counting. -/
theorem does_countOne (kind : Kind) (work : Workload) :
    let fds := (k.fdAt 0).toList
    let starts := k.startCalls fds 0
    let stops := k.stopCalls fds starts.length
    (countOne kind work).Does k {} (· = k.countAt 0)
      { counters := 1, controls := stops.length + starts.length, reads := k.grants 1 }
      (k.openCalls 0 [kind] 0 ++ (starts ++ ([.work work] ++
        (stops ++ (k.readoutAt kind 0 ++ closeCalls fds))))) := by
  intro fds starts stops
  refine (Counter.does_openHere kind).bind fun r hr => ?_
  obtain ⟨result, c⟩ := r
  obtain rfl : c = k.counterAt .caller kind 0 := hr
  have hfd : (k.counterAt .caller kind 0).binding.fd = k.fdAt 0 := k.fd_counterAt .caller kind 0
  have hrelease := (k.counterAt .caller kind 0).does_release (k := k)
    (u := { counters := 1, controls := stops.length + starts.length, reads := k.grants 1 })
  rw [hfd] at hrelease
  exact (does_warnRefused _ result).bind fun _ _ => (does_startCounter hfd).bind fun _ _ =>
    (Does.tell rfl).bind fun _ _ => (does_stopCounter hfd).bind fun _ _ =>
    (Counter.does_retrieve_counterAt rfl).bind fun _ hcount =>
    hrelease.bindPure fun _ _ => .pure hcount

end Trial

/-- What a start of a child that succeeds leaves of the kernel. -/
theorem Child.does_spawn_of_ok {program : String} {args : List String} {pid : Pid}
    (h : ((spawn program args).run k).value = .ok pid) :
    (spawn program args).run.Does k {} (· = .ok pid) { childAttrs := 1, children := 1 }
      (((spawn program args).run k).trace.filter Entry.isObserved) := by
  refine ⟨h, ?_, rfl⟩
  cases hargs : checkArguments (program :: args) with
  | error e =>
    have hrefused := (does_spawn_unchecked (k := k) (u := {}) hargs).value
    exact absurd (hrefused.symm.trans h) nofun
  | ok checked =>
    cases hattr : k.childAttrAt 0 with
    | failed e =>
      have hrefused := (does_spawn_unset (u := {}) hargs hattr).value
      exact absurd (hrefused.symm.trans h) nofun
    | done set =>
      cases hchild : k.childAt 0 with
      | failed e =>
        have hrefused := (does_spawn_refused (u := {}) hargs hattr hchild).value
        exact absurd (hrefused.symm.trans h) nofun
      | done pid => exact (does_spawn (u := {}) hargs hattr hchild).kernel

namespace Trial

variable {kind : Kind} {program : String} {args : List String} {pid : Pid} {u' : Spent}
  {es : List Entry}

/-- The lenient counting of a child goes on from the start of the child to the attachment of the
counter, and when the rest of it is over, the counter is given back. -/
theorem does_countProgram {P : Except Error UInt64 → Prop}
    (hspawn : ((Child.spawn program args).run k).value = .ok pid)
    (hrest : (countRest (k.counterAt (.process pid) kind 0) program pid).run.Does k
      { counters := 1, childAttrs := 1, children := 1 } P u' es) :
    (countProgram kind program args).run.Does k {} P u'
      (((Child.spawn program args).run k).trace.filter Entry.isObserved ++
        (k.openCalls pid [kind] 0 ++ (es ++ closeCalls (k.fdAt 0).toList))) := by
  refine (Child.does_spawn_of_ok hspawn).ok ((Counter.does_reopen kind pid).lift fun r hr => ?_)
  obtain ⟨result, c⟩ := r
  obtain rfl : c = k.counterAt (.process pid) kind 0 := hr
  have hrelease := (k.counterAt (.process pid) kind 0).does_release (k := k) (u := u')
  rw [k.fd_counterAt] at hrelease
  exact (does_warnRefused _ result).lift fun _ _ =>
    hrest.finally (hrelease.map (Q := fun _ => True) fun _ _ => trivial)

variable (kind program pid)

theorem does_countRest {status : WaitStatus} (h : k.waited 0 = .done status) :
    let fds := (k.fdAt 0).toList
    let starts := k.startCalls fds 0
    let stops := k.stopCalls fds starts.length
    ∃ u', (countRest (k.counterAt (.process pid) kind 0) program pid).run.Does k
      { counters := 1, childAttrs := 1, children := 1 } (· = .ok (k.countAt 0)) u'
      (starts ++ (k.waitCalls pid 0 ++ (stops ++ k.readoutAt kind 0))) := by
  intro fds starts stops
  have hfd : (k.counterAt (.process pid) kind 0).binding.fd = k.fdAt 0 := k.fd_counterAt _ kind 0
  exact ⟨_, (does_startCounter hfd).lift fun _ _ => (does_reap h).ok <|
    (does_stopCounter hfd).lift fun _ _ => (Counter.does_retrieve_counterAt rfl).map
    fun _ hcount => congrArg _ hcount⟩

/-- A child that cannot be waited for ends the counting. -/
theorem does_countRest_refused {e : Errno} (h : k.waited 0 = .failed e) :
    ∃ u', (countRest (k.counterAt (.process pid) kind 0) program pid).run.Does k
      { counters := 1, childAttrs := 1, children := 1 } (· = .error (.waiting pid (.os e))) u'
      (k.startCalls (k.fdAt 0).toList 0 ++ k.waitCalls pid 0) :=
  ⟨_, (does_startCounter (k.fd_counterAt _ kind 0)).lift fun _ _ => (does_reap_refused h).stop rfl⟩

variable {kind program pid}

theorem countOne_exact (kind : Kind) (work : Workload) (k : Kernel) :
    ((countOne kind work k).value, calls (countOne kind work k).trace) = k.counted kind work := by
  have hcourse := does_countOne (k := k) kind work
  have hvalue : (countOne kind work k).value = k.countAt 0 := hcourse.value
  have hrequest : k.openCalls 0 [kind] 0 =
    [.counter kind.attr 0 (-1) (-1) closeOnExec (k.openAt 0)] := rfl
  rw [hvalue, hcourse.calls_trace]
  simp only [calls_append, hrequest, (k.mute_startCalls _ _).calls_eq,
    (k.mute_stopCalls _ _).calls_eq, k.calls_readoutAt, (mute_closeCalls _).calls_eq]
  unfold Kernel.counted Kernel.countAt Kernel.resultAt Kernel.fdAt
  cases k.openAt 0 with
  | failed e => rfl
  | done fd => rfl

/-- The lenient counting runs its work once. -/
theorem workloads_countOne (kind : Kind) (work : Workload) (k : Kernel) :
    (countOne kind work k).trace.filterMap Entry.workload? = [work] := by
  have hcalls : calls (countOne kind work k).trace = (k.counted kind work).2 :=
    congrArg Prod.snd (countOne_exact kind work k)
  rw [← filterMap_workload_calls, hcalls]
  unfold Kernel.counted
  cases k.openAt 0 with
  | failed e => rfl
  | done fd =>
    unfold Kernel.startCalls
    cases k.controlAt 0 with
    | failed e => rfl
    | done reset => rfl

theorem countProgram_exact (hspawn : ((Child.spawn program args).run k).value = .ok pid) :
    let spawned := (Child.spawn program args).run k
    let run := (countProgram kind program args).run k
    run.value = (k.countedOn kind pid).1 ∧
      calls run.trace = calls spawned.trace ++ (k.countedOn kind pid).2 := by
  intro spawned run
  have hrequest : k.openCalls pid [kind] 0 =
    [.counter kind.attr pid (-1) (-1) closeOnExec (k.openAt 0)] := rfl
  cases hwaited : k.waited 0 with
  | failed e =>
    obtain ⟨u', hrest⟩ := does_countRest_refused kind program pid hwaited
    have hcourse := does_countProgram hspawn hrest
    have hvalue : run.value = .error (.waiting pid (.os e)) := hcourse.value
    rw [hvalue, hcourse.calls_trace]
    simp only [calls_append, List.append_assoc, calls_filter_isObserved, hrequest,
      (k.mute_startCalls _ _).calls_eq, (k.mute_waitCalls _ _).calls_eq,
      (mute_closeCalls _).calls_eq]
    unfold Kernel.countedOn Kernel.fdAt
    rw [hwaited]
    cases k.openAt 0 with
    | failed e => exact ⟨rfl, congrArg (calls _ ++ _ :: ·) (List.append_nil (k.waitCalls pid 0))⟩
    | done fd => exact ⟨rfl, rfl⟩
  | done status =>
    obtain ⟨u', hrest⟩ := does_countRest kind program pid hwaited
    have hcourse := does_countProgram hspawn hrest
    have hvalue : run.value = .ok (k.countAt 0) := hcourse.value
    rw [hvalue, hcourse.calls_trace]
    simp only [calls_append, List.append_assoc, calls_filter_isObserved, hrequest,
      (k.mute_startCalls _ _).calls_eq, (k.mute_waitCalls _ _).calls_eq,
      (k.mute_stopCalls _ _).calls_eq, k.calls_readoutAt, (mute_closeCalls _).calls_eq]
    unfold Kernel.countedOn Kernel.countAt Kernel.resultAt Kernel.fdAt
    rw [hwaited]
    cases k.openAt 0 with
    | failed e => exact ⟨rfl, congrArg (calls _ ++ _ :: ·) (List.append_nil (k.waitCalls pid 0))⟩
    | done fd => exact ⟨rfl, rfl⟩

/-- **One counter, strictly and leniently.** The lenient counting runs its work once and gives a
count whatever the kernel answers. Where the strict counting succeeds, the lenient one gives the
same count and is the same run. What is refused otherwise ends the strict counting, up to the
release of the counter: it runs no work after a start that failed and does not read after a stop
that failed. The lenient counting then gives zero without a call on a counter when there is none,
and else stops and reads the counter and gives what was read, or zero. The counting of a child fails
if the child cannot be started or waited for, and not otherwise: it gives zero without a call on a
counter when the counter was not attached, and else what was read from the counter that was attached
to the child, however the child ended. -/
theorem countOne_answers (kind : Kind) (work : Workload) (program : String) (args : List String)
    (k : Kernel) :
    let strict := (Counter.measureOnce kind work).run k
    let lenient := countOne kind work k
    let spawned := (Child.spawn program args).run k
    let child := (countProgram kind program args).run k
    lenient.trace.filterMap Entry.workload? = [work] ∧
    (∀ v, strict.value = .ok v → lenient = ⟨v, strict.kernel, strict.trace⟩) ∧
    (lenient.value, calls lenient.trace) = k.counted kind work ∧
    (strict.value, calls strict.trace) = k.measured kind work ∧
    match spawned.value with
    | .error e => child = ⟨.error e, spawned.kernel, spawned.trace⟩
    | .ok pid => child.value = (k.countedOn kind pid).1 ∧
      calls child.trace = calls spawned.trace ++ (k.countedOn kind pid).2 := by
  intro strict lenient spawned child
  refine ⟨workloads_countOne kind work k, fun v hv => ?_, countOne_exact kind work k,
    Counter.measureOnce_exact kind work k, ?_⟩
  · have hstrict : (Counter.measureOnce kind work).run k =
        ⟨.ok v, strict.kernel, strict.trace⟩ := by rw [← hv]
    exact countOne_of_measureOnce hstrict
  · cases hspawn : spawned.value with
    | error e =>
      have hspawned : (Child.spawn program args).run k =
          ⟨.error e, spawned.kernel, spawned.trace⟩ := by rw [← hspawn]
      exact Meter.run_stop hspawned
    | ok pid => exact countProgram_exact hspawn

/-- A kernel that grants everything, one that refuses to enable a counter, and one that refuses a
counter for a child, which then fails. -/
theorem countOne_answers_refusals :
    let k : Kernel := {
      script := { reads := [.full 42], waits := [.done ⟨256⟩] }
      descriptor := (· + 3)
      newPid := fun n => n + 100 }
    let halting := { k with script.controls := [.done (), .failed .notPermitted] }
    let refusing := { k with script.counters := [.failed .accessDenied] }
    let strict := (Counter.measureOnce .cycles .unnamed).run
    let child := (countProgram .cycles "true" []).run refusing
    strict k = ⟨.ok 42, (strict k).kernel, (strict k).trace⟩ ∧
      countOne .cycles .unnamed k = ⟨42, (strict k).kernel, (strict k).trace⟩ ∧
      (strict halting).value = .error (.controlling (.os .notPermitted)) ∧
      (countOne .cycles .unnamed halting).value = 42 ∧
      calls (countOne .cycles .unnamed halting).trace =
        [.counter Kind.cycles.attr 0 (-1) (-1) closeOnExec (.done 3),
          .control 3 .reset 0 (.done ()), .control 3 .enable 0 (.failed .notPermitted),
          .work .unnamed, .control 3 .disable 0 (.done ()), .read 3 8 (.full 42), .close 3] ∧
      child.value = .ok 0 ∧
      calls child.trace = [.childAttr (.done ()), .child "true" ["true"] (.done 100),
        .counter Kind.cycles.attr 100 (-1) (-1) closeOnExec (.failed .accessDenied),
        .wait 100 0 (.done ⟨256⟩)] := by
  intro k halting refusing strict child
  obtain ⟨-, hsame, -⟩ := countOne_answers .cycles .unnamed "true" [] k
  obtain ⟨-, -, hlenient, hstrict, -⟩ := countOne_answers .cycles .unnamed "true" [] halting
  obtain ⟨-, -, -, -, hvalue, hcalls⟩ := countOne_answers .cycles .unnamed "true" [] refusing
  exact ⟨rfl, hsame 42 rfl, congrArg Prod.fst hstrict, congrArg Prod.fst hlenient,
    congrArg Prod.snd hlenient, hvalue, hcalls⟩

end Trial

end TrialMeter
