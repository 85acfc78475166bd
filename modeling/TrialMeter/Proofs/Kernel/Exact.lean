import TrialMeter.Proofs.Kernel.Course
import TrialMeter.Trial.Basic

/-!
# Exact runs

Where a course tells how a run goes up to its log, the equations of this file tell all of it: the
value, the kernel that is left, and every entry. The run of a sequence is put together from the runs
of its parts.

## Main results

* `Meter.run_bind`, `Meter.run_ok`, `Meter.run_stop`, `Meter.run_lift`: sequences.
* `Meter.run_ok_inv`, `Meter.run_finally_inv`: the parts of a sequence that succeeded.
* `Timestamp.now_after`, `Binding.control_after`: requests that may be refused.
* `Trial.create_refused`, `Trial.create_done`, `IntervalClock.start_after`,
  `IntervalClock.stop_after`: what a clock makes of its samples.
-/

namespace TrialMeter

namespace Meter

variable {α β ε : Type} {k k' k'' : Kernel} {es es' : List Entry} {m : Meter α} {a : α}

/-- The run of a sequence, from the runs of its parts. -/
theorem run_bind {f : α → Meter β} {b : β} (hm : m k = ⟨a, k', es⟩) (hf : f a k' = ⟨b, k'', es'⟩) :
    (m >>= f) k = ⟨b, k'', es ++ es'⟩ := by
  rw [bind_apply, hm, hf]

theorem run_bindPure {f : α → Meter β} {b : β} (hm : m k = ⟨a, k', es⟩) (hf : f a = pure b) :
    (m >>= f) k = ⟨b, k', es⟩ := by
  rw [run_bind hm (congrFun hf k'), List.append_nil]

theorem run_map (h : m k = ⟨a, k', es⟩) (f : α → β) : (f <$> m) k = ⟨f a, k', es⟩ := by
  rw [map_eq_pure_bind]
  exact run_bindPure h rfl

/-- What a sequence leaves begins with what its first part leaves. -/
theorem trace_prefix_bind (m : Meter α) (f : α → Meter β) (k : Kernel) :
    (m k).trace <+: ((m >>= f) k).trace :=
  List.prefix_append _ _

variable {x : ExceptT ε Meter α} {f : α → ExceptT ε Meter β} {r : Except ε β}

theorem run_ok (hx : x.run k = ⟨.ok a, k', es⟩) (hf : (f a).run k' = ⟨r, k'', es'⟩) :
    (x >>= f).run k = ⟨r, k'', es ++ es'⟩ := by
  rw [ExceptT.run_bind]
  exact run_bind hx hf

theorem run_stop {e : ε} (hx : x.run k = ⟨.error e, k', es⟩) :
    (x >>= f).run k = ⟨.error e, k', es⟩ := by
  rw [ExceptT.run_bind]
  exact run_bindPure hx rfl

/-- A sequence that succeeds does so part by part. -/
theorem run_ok_inv {b : β} (h : (x >>= f).run k = ⟨.ok b, k', es⟩) :
    ∃ a k₁ es₁ es₂, x.run k = ⟨.ok a, k₁, es₁⟩ ∧ (f a).run k₁ = ⟨.ok b, k', es₂⟩ ∧
      es = es₁ ++ es₂ := by
  rcases hx : x.run k with ⟨e | a, k₁, es₁⟩
  · rw [run_stop hx] at h
    exact absurd (congrArg Ran.value h) nofun
  · rcases hf : (f a).run k₁ with ⟨r, k₂, es₂⟩
    rw [run_ok hx hf] at h
    obtain ⟨rfl, rfl, rfl⟩ := Ran.mk.inj h
    exact ⟨a, k₁, es₁, es₂, rfl, hf, rfl⟩

/-- A computation that succeeds with its cleanup succeeds, and the cleanup comes after it. -/
theorem run_finally_inv {r : Except ε α} {cleanup : Meter Unit}
    (h : (Meter.finally x cleanup).run k = ⟨r, k', es⟩) :
    ∃ k₁ es₁ es₂, x.run k = ⟨r, k₁, es₁⟩ ∧ cleanup k₁ = ⟨(), k', es₂⟩ ∧ es = es₁ ++ es₂ := by
  rcases hx : x.run k with ⟨outcome, k₁, es₁⟩
  rcases hc : cleanup k₁ with ⟨done, k₂, es₂⟩
  have hrun : (Meter.finally x cleanup).run k = ⟨outcome, k₂, es₁ ++ es₂⟩ :=
    run_bind hx (run_bindPure hc rfl)
  rw [hrun] at h
  obtain ⟨rfl, rfl, rfl⟩ := Ran.mk.inj h
  exact ⟨k₁, es₁, es₂, rfl, hc, rfl⟩

theorem run_okPure {g : α → β} {r : Except ε α} (hx : x.run k = ⟨r, k', es⟩)
    (hf : ∀ a, f a = pure (g a)) : (x >>= f).run k = ⟨r.map g, k', es⟩ := by
  rw [ExceptT.run_bind]
  refine run_bindPure hx ?_
  cases r with
  | ok a => exact congrArg ExceptT.run (hf a)
  | error e => rfl

theorem run_lift (hm : m k = ⟨a, k', es⟩) (hf : (f a).run k' = ⟨r, k'', es'⟩) :
    (liftM m >>= f).run k = ⟨r, k'', es ++ es'⟩ :=
  (congrFun (ExceptT.run_bind_lift m f) k).trans (run_bind hm hf)

theorem run_lift_inv (h : (liftM m : ExceptT ε Meter α).run k = ⟨.ok a, k', es⟩) :
    m k = ⟨a, k', es⟩ := by
  rcases hm : m k with ⟨a₁, k₁, es₁⟩
  have hlift : (liftM m : ExceptT ε Meter α).run k = ⟨.ok a₁, k₁, es₁⟩ := run_map hm Except.ok
  rw [hlift] at h
  obtain ⟨hvalue, rfl, rfl⟩ := Ran.mk.inj h
  rw [Except.ok.inj hvalue]

theorem run_attempt {x : Attempt α} {r : Except Error α} (h : x.run k = ⟨r, k', es⟩) :
    (liftM x : Trial α).run k = ⟨r.mapError .error, k', es⟩ :=
  run_bindPure (f := fun r => pure (r.mapError Failure.error)) h rfl

theorem run_ofReply {request : Meter (Reply α)} {refusal : Cause → Error} {reply : Reply α}
    (h : request k = ⟨reply, k', es⟩) :
    (Attempt.ofReply request refusal).run k = ⟨reply.result refusal, k', es⟩ := by
  cases reply with
  | done result => exact run_bindPure h rfl
  | failed errno => exact run_bindPure h rfl

end Meter

variable {k : Kernel} {u : Spent}

/-- A sample of a source. -/
theorem Timestamp.now_after (source : Source) :
    (Timestamp.now source).run (k.after u) =
      ⟨(k.clockAt u.clocks).result (.clock source), k.after { u with clocks := u.clocks + 1 },
        [.clock source (k.clockAt u.clocks)]⟩ :=
  Meter.run_ofReply (Meter.readClock_after k u source)

namespace IntervalClock

theorem start_after (c : IntervalClock) :
    c.start (k.after u) =
      ⟨match k.clockAt u.clocks with
        | .done t => (.ok t, { c with startTime := t })
        | .failed e => (.error (.clock c.source (.os e)), c),
        k.after { u with clocks := u.clocks + 1 }, [.clock c.source (k.clockAt u.clocks)]⟩ := by
  have hnow := Timestamp.now_after (k := k) (u := u) c.source
  cases hreply : k.clockAt u.clocks with
  | done t => rw [hreply] at hnow; exact Meter.run_bindPure hnow rfl
  | failed e => rw [hreply] at hnow; exact Meter.run_bindPure hnow rfl

theorem stop_after (c : IntervalClock) :
    c.stop (k.after u) =
      ⟨match k.clockAt u.clocks with
        | .done t => (.ok t, { c with stopTime := t })
        | .failed e => (.error (.clock c.source (.os e)), c),
        k.after { u with clocks := u.clocks + 1 }, [.clock c.source (k.clockAt u.clocks)]⟩ := by
  have hnow := Timestamp.now_after (k := k) (u := u) c.source
  cases hreply : k.clockAt u.clocks with
  | done t => rw [hreply] at hnow; exact Meter.run_bindPure hnow rfl
  | failed e => rw [hreply] at hnow; exact Meter.run_bindPure hnow rfl

theorem insist_start_after (c : IntervalClock) :
    (Attempt.insist c.start).run (k.after u) =
      ⟨((k.clockAt u.clocks).result (.clock c.source)).map fun t => { c with startTime := t },
        k.after { u with clocks := u.clocks + 1 }, [.clock c.source (k.clockAt u.clocks)]⟩ := by
  rw [insist_start]
  exact Meter.run_okPure (Timestamp.now_after c.source) fun _ => rfl

theorem insist_stop_after (c : IntervalClock) :
    (Attempt.insist c.stop).run (k.after u) =
      ⟨((k.clockAt u.clocks).result (.clock c.source)).map fun t => { c with stopTime := t },
        k.after { u with clocks := u.clocks + 1 }, [.clock c.source (k.clockAt u.clocks)]⟩ := by
  rw [insist_stop]
  exact Meter.run_okPure (Timestamp.now_after c.source) fun _ => rfl

end IntervalClock

/-! ### The first sample of a trial -/

namespace Trial

variable (s : Settings)

theorem create_refused {e : Errno} (h : k.clockAt 0 = .failed e) :
    (IntervalClock.create s.source).run k =
      ⟨.error (.clock s.source (.os e)), k.after { clocks := 1 },
        [.clock s.source (.failed e)]⟩ := by
  have hnow := Timestamp.now_after (k := k) (u := {}) s.source
  rw [h] at hnow
  exact Meter.run_stop hnow

theorem create_done {t : Timestamp} (h : k.clockAt 0 = .done t) :
    (IntervalClock.create s.source).run k =
      ⟨.ok { source := s.source, startTime := t }, k.after { clocks := 1 },
        [.clock s.source (.done t)]⟩ := by
  have hnow := Timestamp.now_after (k := k) (u := {}) s.source
  rw [h] at hnow
  exact Meter.run_ok hnow rfl

end Trial

theorem Binding.control_after (fd : Fd) (request : Control) :
    (control fd request).run (k.after u) =
      ⟨(k.controlAt u.controls).result .controlling, k.after { u with controls := u.controls + 1 },
        [.control fd request 0 (k.controlAt u.controls)]⟩ :=
  Meter.run_ofReply (Meter.control_after k u fd request)

end TrialMeter
