import TrialMeter.Proofs.Kernel.Exact
import TrialMeter.Proofs.Record.Telling

/-!
# Two ways to open a battery

A battery inside the program is opened counter by counter, or as a closed group whose members are
opened in one pass. Both ways ask the kernel for the same counters in the same order and end with
the same counters, whichever of them are refused. What differs is the log: counters opened one by
one are complained about one by one, and a group complains once, about the first refusal, when all
its members have been asked for. From there on the two trials are the same computation on the same
kernel.

## Main definitions

* `Kernel.openings`: what opening some counters leaves, apart from complaints.
* `Kernel.openedEach`, `Kernel.openedTogether`: what the two ways leave.
* `Entry.isWarning`: the complaints.

## Main results

* `Trial.openEach_after`, `Group.openHere_after`: the exact runs of the two ways.
* `Trial.benchmarkBatch_agrees`: the trials agree up to these complaints.
-/

namespace TrialMeter

/-- The line in which a binding tells that it was granted a descriptor. -/
def Kind.openedLine (kind : Kind) (subject : Subject) (fd : Fd) : Log.Line :=
  ⟨.debug, .binding, "opened " ++ kind.text ++ " for " ++ subject.text ++ " as fd " ++ toString fd⟩

/-- The complaint of a trial that a step was refused. -/
def Trial.complaint (what : String) (e : Error) : Entry := .log ⟨.warn, .trial, what ++ e.message⟩

/-- A line at the level of warnings. -/
def Entry.isWarning : Entry → Bool
  | .log line => line.level = .warn
  | _ => false

/-- A trace without its warnings. -/
def unwarned (trace : List Entry) : List Entry := trace.filter fun e => !e.isWarning

namespace Kernel

variable (k : Kernel) (subject : Subject)

/-- Why the request for a counter that follows `i` others is refused, if it is. -/
def refusalAt (kind : Kind) (i : ℕ) : Option Error :=
  match k.openAt i with
  | .done _ => none
  | .failed errno => some (.opening kind.text subject (.os errno))

/-- What the request for a counter that follows `i` others leaves: the request, and after a grant
the line of the binding. -/
def openingAt (kind : Kind) (i : ℕ) : List Entry :=
  .counter kind.attr subject.pid (-1) (-1) closeOnExec (k.openAt i) ::
    ((k.fdAt i).map fun fd => .log (kind.openedLine subject fd)).toList

/-- The refusals of counters of some kinds, in order, the first one asked for after `i` others. -/
def refusals (kinds : List Kind) (i : ℕ) : List Error :=
  (kinds.zipIdx i).filterMap fun p => k.refusalAt subject p.1 p.2

/-- What asking for counters of some kinds leaves, apart from complaints. -/
def openings (kinds : List Kind) (i : ℕ) : List Entry :=
  (kinds.zipIdx i).flatMap fun p => k.openingAt subject p.1 p.2

/-- The complaint about a counter that is opened on its own, if it is refused. -/
def complaintAt (kind : Kind) (i : ℕ) : List Entry :=
  ((k.refusalAt .caller kind i).map (Trial.complaint (kind.text ++ " unavailable: "))).toList

/-- What is left when counters are opened one by one: each refusal is complained about at once. -/
def openedEach (kinds : List Kind) (i : ℕ) : List Entry :=
  (kinds.zipIdx i).flatMap fun p => k.openingAt .caller p.1 p.2 ++ k.complaintAt p.1 p.2

/-- What is left when the first counters asked for are those of a group: if any is refused, the
group complains at the end, with the number of counters that were granted, the number of its members
and the first refusal. -/
def openedTogether (kinds : List Kind) : List Entry :=
  k.openings .caller kinds 0 ++
    ((k.refusals .caller kinds 0).head?.map (Trial.complaint (toString (k.grants kinds.length) ++
      " of " ++ toString kinds.length ++ " counters opened: "))).toList

end Kernel

variable {k : Kernel} {u : Spent}

/-! ### Exact runs -/

theorem Trial.warnRefused_elim (what : String) (refusal : Option Error) (k : Kernel) :
    warnRefused what (refusal.elim (.ok ()) .error) k =
      ⟨(), k, (refusal.map (complaint what)).toList⟩ := by
  cases refusal with
  | none => rfl
  | some e => rfl

/-- A closed binding asks the kernel once. -/
theorem Binding.openFor_after (kind : Kind) (subject : Subject) :
    openFor { kind } subject (k.after u) =
      ⟨((k.openAt u.counters).result (.opening kind.text subject),
        (k.counterAt subject kind u.counters).binding),
      k.after { u with counters := u.counters + 1 }, k.openingAt subject kind u.counters⟩ := by
  have hask := Meter.openCounter_after k u kind.attr subject.pid
  unfold Kernel.counterAt Kernel.openingAt Kernel.fdAt
  generalize k.openAt u.counters = reply at hask
  cases reply with
  | done fd => exact Meter.run_bind hask rfl
  | failed errno => exact Meter.run_bind hask rfl

/-- A counter reports whether the request of its binding was refused. -/
theorem Counter.ofBinding_asked (k : Kernel) (subject : Subject) (kind : Kind) (i : ℕ) :
    ofBinding ((k.openAt i).result (.opening kind.text subject),
        (k.counterAt subject kind i).binding) =
      ((k.refusalAt subject kind i).elim (.ok ()) .error, k.counterAt subject kind i) := by
  unfold Kernel.refusalAt Kernel.counterAt Kernel.fdAt
  cases k.openAt i with
  | done fd => rfl
  | failed errno => rfl

/-- A closed counter asks the kernel once, and reports whether it was refused. -/
theorem Counter.openHere_after (kind : Kind) :
    (quiet kind).openHere (k.after u) =
      ⟨((k.refusalAt .caller kind u.counters).elim (.ok ()) .error,
        k.counterAt .caller kind u.counters),
      k.after { u with counters := u.counters + 1 }, k.openingAt .caller kind u.counters⟩ := by
  rw [openHere, ← ofBinding_asked]
  exact Meter.run_map (Binding.openFor_after kind .caller) ofBinding

/-- Counters that are opened one by one. -/
theorem Trial.openEach_after (kinds : List Kind) :
    openEach kinds (k.after u) = ⟨k.battery .caller kinds u.counters,
      k.after { u with counters := u.counters + kinds.length },
      k.openedEach kinds u.counters⟩ := by
  induction kinds generalizing u with
  | nil => rfl
  | cons kind kinds ih =>
    have htrace : k.openedEach (kind :: kinds) u.counters =
        k.openingAt .caller kind u.counters ++ (k.complaintAt kind u.counters ++
          k.openedEach kinds (u.counters + 1)) := List.append_assoc ..
    rw [add_length_cons, htrace]
    exact Meter.run_bind (Counter.openHere_after kind) <|
      Meter.run_bind (warnRefused_elim _ _ _) <| Meter.run_bindPure ih rfl

/-- Of a counter that was asked for and those after it, the first refusal is reported. -/
theorem Kernel.firstRefusal_refusals (k : Kernel) (subject : Subject) (kind : Kind)
    (kinds : List Kind) (i : ℕ) :
    Group.firstRefusal ((k.refusalAt subject kind i).elim (.ok ()) .error)
        ((k.refusals subject kinds (i + 1)).head?.elim (.ok ()) .error) =
      (k.refusals subject (kind :: kinds) i).head?.elim (.ok ()) .error := by
  rw [refusals, refusals, List.zipIdx_cons, List.filterMap_cons]
  cases k.refusalAt subject kind i with
  | none => rfl
  | some e => rfl

theorem Kernel.calls_openingAt (k : Kernel) (subject : Subject) (kind : Kind) (i : ℕ) :
    calls (k.openingAt subject kind i) = k.openCalls subject.pid [kind] i := by
  unfold openingAt
  cases k.fdAt i with
  | some fd => rfl
  | none => rfl

/-- Members of a group that are opened in one pass. -/
theorem Group.visit_openHere_after (kinds : List Kind) :
    visit Counter.openHere (kinds.map Counter.quiet) (k.after u) =
      ⟨((k.refusals .caller kinds u.counters).head?.elim (.ok ()) .error,
        k.battery .caller kinds u.counters),
      k.after { u with counters := u.counters + kinds.length },
      k.openings .caller kinds u.counters⟩ := by
  induction kinds generalizing u with
  | nil => rfl
  | cons kind kinds ih =>
    rw [add_length_cons, ← k.firstRefusal_refusals]
    exact Meter.run_bind (Counter.openHere_after kind) (Meter.run_bindPure ih rfl)

theorem Group.openHere_after (kinds : List Kind) :
    Group.openHere ⟨kinds.map Counter.quiet⟩ (k.after u) =
      ⟨((k.refusals .caller kinds u.counters).head?.elim (.ok ()) .error,
        ⟨k.battery .caller kinds u.counters⟩),
      k.after { u with counters := u.counters + kinds.length },
      k.openings .caller kinds u.counters⟩ :=
  Meter.run_bindPure (visit_openHere_after kinds) rfl

/-- The open members of a battery are counted by the grants. -/
theorem Group.opened_battery (subject : Subject) (kinds : List Kind) :
    (Group.mk (k.battery subject kinds 0)).opened = k.grants kinds.length := by
  rw [← k.length_descriptors, ← k.openFds_battery subject, openFds,
    List.length_filterMap_eq_countP, opened]
  refine List.countP_congr fun c _ => ?_
  simp [Member.isOpen, Counter.isOpen, Binding.isOpen, Binding.fd]

/-! ### Complaints -/

theorem unwarned_append (t₁ t₂ : List Entry) : unwarned (t₁ ++ t₂) = unwarned t₁ ++ unwarned t₂ :=
  List.filter_append t₁ t₂

/-- Warnings are no calls. -/
theorem calls_unwarned (trace : List Entry) : calls (unwarned trace) = calls trace := by
  rw [calls, unwarned, List.filter_filter]
  refine List.filter_congr fun e _ => ?_
  cases e with
  | log line => rfl
  | _ => rfl

theorem unwarned_complaint (what : String) (refusal : Option Error) :
    unwarned (refusal.map (Trial.complaint what)).toList = [] := by
  cases refusal with
  | none => rfl
  | some e => rfl

namespace Kernel

theorem unwarned_openings (subject : Subject) (kinds : List Kind) (i : ℕ) :
    unwarned (k.openings subject kinds i) = k.openings subject kinds i := by
  refine List.filter_eq_self.mpr fun e he => ?_
  obtain ⟨p, -, he⟩ := List.mem_flatMap.mp he
  rcases List.mem_cons.mp he with rfl | he
  · rfl
  · obtain ⟨fd, -, rfl⟩ := Option.map_eq_some_iff.mp (Option.mem_toList.mp he)
    rfl

/-- Counters that are opened one by one leave their openings and complaints. -/
theorem unwarned_openedEach (kinds : List Kind) (i : ℕ) :
    unwarned (k.openedEach kinds i) = k.openings .caller kinds i := by
  induction kinds generalizing i with
  | nil => rfl
  | cons kind kinds ih =>
    have hfirst : unwarned (k.openingAt .caller kind i) = k.openingAt .caller kind i := by
      have h := k.unwarned_openings .caller [kind] i
      rwa [openings, List.zipIdx_singleton, List.flatMap_singleton] at h
    calc unwarned (k.openedEach (kind :: kinds) i)
        = unwarned (k.openingAt .caller kind i ++ k.complaintAt kind i ++
            k.openedEach kinds (i + 1)) := rfl
      _ = k.openings .caller (kind :: kinds) i := by
          rw [unwarned_append, unwarned_append, hfirst, complaintAt, unwarned_complaint,
            List.append_nil, ih]
          rfl

/-- Counters that are opened as a group leave the same openings. -/
theorem unwarned_openedTogether (kinds : List Kind) :
    unwarned (k.openedTogether kinds) = k.openings .caller kinds 0 := by
  rw [openedTogether, unwarned_append, unwarned_openings, unwarned_complaint, List.append_nil]

end Kernel

namespace Trial

variable (s : Settings) (work : Workload)

/-- What both benchmarks do once their counters are open. -/
def overBattery (k : Kernel) (t : Timestamp) : Ran (Except Failure Record) :=
  let group : Group Counter := ⟨k.battery .caller Kind.standard 0⟩
  (Meter.finally (sample s { source := s.source, startTime := t } group work) group.release).run
    (k.after { clocks := 1, counters := 14 })

/-- The benchmark that opens its counters one by one. -/
theorem benchmark_run {t : Timestamp} (h : k.clockAt 0 = .done t) :
    (benchmark s work).run k = ⟨(overBattery s work k t).value, (overBattery s work k t).kernel,
      .clock s.source (.done t) :: (k.openedEach Kind.standard 0 ++
        (overBattery s work k t).trace)⟩ := by
  have hform : Group.ofCounters (k.battery .caller Kind.standard 0) =
      pure ⟨k.battery .caller Kind.standard 0⟩ :=
    Group.ofCounters_of_nodup (by rw [k.kinds_battery]; decide)
  refine Meter.run_ok (Meter.run_attempt (create_done s h)) ?_
  refine Meter.run_lift (Trial.openEach_after Kind.standard) ?_
  rw [hform, liftM_pure, pure_bind]
  rfl

/-- A group that forms a battery complains about its first refusal. -/
theorem warnPartial_battery (kinds : List Kind) (refusal : Option Error) (k' : Kernel) :
    warnPartial ⟨k.battery .caller kinds 0⟩ "opened" (refusal.elim (.ok ()) .error) k' =
      ⟨(), k', (refusal.map (complaint (toString (k.grants kinds.length) ++ " of " ++
        toString kinds.length ++ " counters opened: "))).toList⟩ := by
  have hsize : (Group.mk (k.battery .caller kinds 0)).size = kinds.length := by
    rw [Group.size, Kernel.battery, List.length_map, List.length_zipIdx]
  have hwhat (n size : String) : n ++ " of " ++ size ++ " counters " ++ "opened" ++ ": " =
      n ++ " of " ++ size ++ " counters opened: " := by
    simp only [String.append_assoc]
    rfl
  rw [warnPartial, Group.opened_battery, hsize, hwhat]
  exact warnRefused_elim _ refusal k'

/-- The benchmark that opens its counters as a group. -/
theorem benchmarkBatch_run {t : Timestamp} (h : k.clockAt 0 = .done t) :
    (benchmarkBatch s work).run k =
      ⟨(overBattery s work k t).value, (overBattery s work k t).kernel,
        .clock s.source (.done t) :: (k.openedTogether Kind.standard ++
          (overBattery s work k t).trace)⟩ := by
  have hquiet : Group.quiet Kind.standard = .ok ⟨Kind.standard.map Counter.quiet⟩ :=
    Group.quiet_of_nodup (by decide)
  rw [Kernel.openedTogether, List.append_assoc]
  unfold benchmarkBatch
  rw [hquiet, liftM_ok]
  refine Meter.run_ok (Meter.run_attempt (create_done s h)) ?_
  rw [pure_bind]
  refine Meter.run_lift (Group.openHere_after Kind.standard) ?_
  exact Meter.run_lift (warnPartial_battery Kind.standard _ _) rfl

/-- The second sample of the clock is the first thing that happens over an open battery. -/
theorem overBattery_trace (k : Kernel) (t : Timestamp) :
    ∃ rest, (overBattery s work k t).trace = .clock s.source (k.clockAt 1) :: rest := by
  let clock : IntervalClock := { source := s.source, startTime := t }
  let k' := k.after { clocks := 1, counters := 14 }
  let start := Attempt.insist clock.start
  have hstart : (start.run k').trace = [.clock s.source (k.clockAt 1)] :=
    congrArg Ran.trace clock.insist_start_after
  have hlift : (start.run k').trace <+: ((liftM start : Trial IntervalClock).run k').trace :=
    Meter.trace_prefix_bind start.run (fun r => pure (r.mapError Failure.error)) k'
  have hsample : ((liftM start : Trial IntervalClock).run k').trace <+:
      ((sample s clock ⟨k.battery .caller Kind.standard 0⟩ work).run k').trace :=
    Meter.trace_prefix_bind _ _ _
  have hfinally : ((sample s clock ⟨k.battery .caller Kind.standard 0⟩ work).run k').trace <+:
      (overBattery s work k t).trace :=
    Meter.trace_prefix_bind _ _ _
  rw [hstart] at hlift
  obtain ⟨rest, hrest⟩ := hlift.trans (hsample.trans hfinally)
  exact ⟨rest, hrest.symm⟩

/-- **Batch opening agrees with individual opening.** On the same kernel the two benchmarks give the
same outcome, leave the same kernel and make the same calls; without warnings their traces are the
same. What they log about refused counters stands between the first sample of the clock and the
second: one line right after each refused request, or one line after all requests, which tells how
many of the fourteen counters were opened and the first refusal. -/
theorem benchmarkBatch_agrees (k : Kernel) :
    let one := (benchmark s work).run k
    let batch := (benchmarkBatch s work).run k
    batch.value = one.value ∧ batch.kernel = one.kernel ∧ calls batch.trace = calls one.trace ∧
      unwarned batch.trace = unwarned one.trace ∧
      match k.clockAt 0 with
      | .failed e => one.trace = [.clock s.source (.failed e)] ∧ batch.trace = one.trace
      | .done t => ∃ rest,
        one.trace = .clock s.source (.done t) ::
          (k.openedEach Kind.standard 0 ++ .clock s.source (k.clockAt 1) :: rest) ∧
        batch.trace = .clock s.source (.done t) ::
          (k.openedTogether Kind.standard ++ .clock s.source (k.clockAt 1) :: rest) := by
  intro one batch
  cases h : k.clockAt 0 with
  | failed e =>
    have hone : one = ⟨.error (.error (.clock s.source (.os e))), k.after { clocks := 1 },
        [.clock s.source (.failed e)]⟩ :=
      Meter.run_stop (Meter.run_attempt (create_refused s h))
    have hbatch : batch = one := hone.symm ▸ Meter.run_stop (Meter.run_attempt (create_refused s h))
    rw [hbatch]
    exact ⟨rfl, rfl, rfl, rfl, congrArg Ran.trace hone, rfl⟩
  | done t =>
    have hone : one = _ := benchmark_run s work h
    have hbatch : batch = _ := benchmarkBatch_run s work h
    obtain ⟨rest, hrest⟩ := overBattery_trace s work k t
    have hunwarned : unwarned batch.trace = unwarned one.trace := by
      have hcons (e : Entry) (t₁ t₂ : List Entry) :
          unwarned (e :: (t₁ ++ t₂)) = unwarned [e] ++ (unwarned t₁ ++ unwarned t₂) := by
        rw [← unwarned_append, ← unwarned_append]
        rfl
      rw [hone, hbatch, hcons, hcons, k.unwarned_openedEach, k.unwarned_openedTogether]
    have hcalls : calls batch.trace = calls one.trace := by
      rw [← calls_unwarned, hunwarned, calls_unwarned]
    refine ⟨?_, ?_, hcalls, hunwarned, rest, ?_, ?_⟩
    · rw [hone, hbatch]
    · rw [hone, hbatch]
    · rw [hone, ← hrest]
    · rw [hbatch, ← hrest]

end Trial

end TrialMeter
