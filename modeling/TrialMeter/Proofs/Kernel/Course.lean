import TrialMeter.Attempt
import TrialMeter.Proofs.Kernel.Waiting

/-!
# The course of a run

`m.Does k u P u' es` tells how a run of `m` goes when it starts at position `u` of the answers of
the kernel `k`: its value satisfies `P`, it stops at position `u'`, and it leaves the entries `es`.
Among the entries are all requests and units of work, and of the log the lines in which a counter
speaks; what the other parts of the program log about refused counters is left aside. The rules are
one for each way to put computations together, so the course of a trial is read along its text.

## Main definitions

* `Reply.result`: what an attempt makes of an answer.
* `Entry.isObserved`: the entries that a course tells.
* `Meter.Does`: the course of a run.

## Main results

* `Meter.Does.bind`, `Meter.Does.ok`, `Meter.Does.stop`, `Meter.Does.finally`: sequences.
* `Meter.does_wait`: waiting for a child is a row of interrupted waits and one that is not.
-/

namespace TrialMeter

/-- The result of a request, or the error that its failure stands for. -/
def Reply.result {α : Type} (refusal : Cause → Error) : Reply α → Except Error α
  | done a => .ok a
  | failed errno => .error (refusal (.os errno))

/-- An error comes of a failure, and carries its number. -/
theorem Reply.eq_failed_of_result {α : Type} {refusal : Cause → Error} {reply : Reply α} {e : Error}
    (h : reply.result refusal = .error e) :
    ∃ errno, reply = .failed errno ∧ e = refusal (.os errno) := by
  cases reply with
  | done a => simp [result] at h
  | failed errno => exact ⟨errno, rfl, (Except.error.inj h).symm⟩

/-- What a course tells: everything but the log, and of the log the lines of counters. -/
def Entry.isObserved : Entry → Bool
  | .log line => line.target = .counter
  | _ => true

/-- An attempt that is no more than a value is a trial that is no more than it. -/
theorem Trial.liftM_pure {α : Type} (a : α) : (liftM (pure a : Attempt α) : Trial α) = pure a :=
  rfl

theorem Attempt.mk_ok {α : Type} (a : α) :
    (ExceptT.mk (pure (.ok a)) : Attempt α) = pure a :=
  rfl

theorem Trial.liftM_ok {α : Type} (a : α) :
    (liftM (.ok a : Except Error α) : Trial α) = pure a :=
  rfl

namespace Meter

variable {α β ε : Type} {k : Kernel} {u u' u'' : Spent} {es es' : List Entry}

/-- From position `u` on, a run of `m` gives a value that satisfies `P`, stops at position `u'` and
leaves the observed entries `es`. -/
structure Does (m : Meter α) (k : Kernel) (u : Spent) (P : α → Prop) (u' : Spent)
    (es : List Entry) : Prop where
  value : P (m (k.after u)).value
  kernel : (m (k.after u)).kernel = k.after u'
  observed : (m (k.after u)).trace.filter Entry.isObserved = es

namespace Does

variable {m : Meter α} {P : α → Prop}

theorem mono {Q : α → Prop} (h : m.Does k u P u' es) (hPQ : ∀ a, P a → Q a) :
    m.Does k u Q u' es :=
  ⟨hPQ _ h.value, h.kernel, h.observed⟩

/-- The same course, told in other words. -/
theorem congr (h : m.Does k u P u' es) (hu : u' = u'') (hes : es = es') : m.Does k u P u'' es' :=
  hu ▸ hes ▸ h

theorem pure {a : α} (h : P a) : (Pure.pure a : Meter α).Does k u P u [] :=
  ⟨h, rfl, rfl⟩

theorem bind {f : α → Meter β} {Q : β → Prop} (hm : m.Does k u P u' es)
    (hf : ∀ a, P a → (f a).Does k u' Q u'' es') : (m >>= f).Does k u Q u'' (es ++ es') := by
  obtain ⟨hvalue, hkernel, hobserved⟩ := hf _ hm.value
  rw [← hm.kernel] at hvalue hkernel hobserved
  refine ⟨hvalue, hkernel, ?_⟩
  rw [bind_apply, List.filter_append, hm.observed, hobserved]

/-- Giving the value another form is no step of the course. -/
theorem map {f : α → β} {Q : β → Prop} (hm : m.Does k u P u' es) (hf : ∀ a, P a → Q (f a)) :
    (f <$> m).Does k u Q u' es := by
  rw [map_eq_pure_bind]
  exact (hm.bind fun a h => pure (hf a h)).congr rfl (List.append_nil es)

/-- A step that only forms a value is no step of the course. -/
theorem bindPure {f : α → Meter β} {Q : β → Prop} (hm : m.Does k u P u' es)
    (hf : ∀ a, P a → (f a).Does k u' Q u' []) : (m >>= f).Does k u Q u' es :=
  (hm.bind hf).congr rfl (List.append_nil es)

theorem tell {e : Entry} (he : e.isObserved) : (Meter.tell e).Does k u (fun _ => True) u [e] :=
  ⟨trivial, rfl, List.filter_cons_of_pos he⟩

/-- Parts of the program other than counters log unobserved. -/
theorem log {level : Log.Level} {target : Log.Target} {message : String}
    (h : target ≠ .counter) : (Meter.log level target message).Does k u (fun _ => True) u [] :=
  ⟨trivial, rfl, List.filter_cons_of_neg (by simpa [Entry.isObserved] using h)⟩

/-! ### Computations that may be refused -/

variable {x : ExceptT ε Meter α} {f : α → ExceptT ε Meter β} {Q : Except ε β → Prop}

theorem «return» {a : α} {P : Except ε α → Prop} (h : P (.ok a)) :
    (Pure.pure a : ExceptT ε Meter α).run.Does k u P u [] :=
  pure h

theorem ok {a : α} (hx : x.run.Does k u (· = .ok a) u' es)
    (hf : (f a).run.Does k u' Q u'' es') : (x >>= f).run.Does k u Q u'' (es ++ es') := by
  rw [ExceptT.run_bind]
  exact hx.bind fun _ h => h ▸ hf

/-- What comes after a value is no step of the course. -/
theorem okPure {a : α} (hx : x.run.Does k u (· = .ok a) u' es)
    (hf : (f a).run.Does k u' Q u'' []) : (x >>= f).run.Does k u Q u'' es :=
  (hx.ok hf).congr rfl (List.append_nil es)

theorem stop {e : ε} (hx : x.run.Does k u (· = .error e) u' es) (hQ : Q (.error e)) :
    (x >>= f).run.Does k u Q u' es := by
  rw [ExceptT.run_bind]
  exact hx.bindPure fun _ h => h ▸ pure hQ

theorem lift {P : α → Prop} (hm : m.Does k u P u' es)
    (hf : ∀ a, P a → (f a).run.Does k u' Q u'' es') :
    (liftM m >>= f).run.Does k u Q u'' (es ++ es') :=
  (ExceptT.run_bind_lift m f).symm ▸ hm.bind hf

/-- A line that no counter writes is no step of the course. -/
theorem liftLog {level : Log.Level} {target : Log.Target} {message : String}
    {f : Unit → ExceptT ε Meter β} (h : target ≠ .counter) (hf : (f ()).run.Does k u Q u' es) :
    (liftM (Meter.log level target message) >>= f).run.Does k u Q u' es :=
  (log h).lift fun _ _ => hf

theorem catchOk {a : α} {handler : ε → ExceptT ε Meter α} (hx : x.run.Does k u (· = .ok a) u' es) :
    (tryCatch x handler).run.Does k u (· = .ok a) u' es := by
  rw [ExceptT.run_tryCatch]
  refine hx.bindPure fun r hr => ?_
  subst hr
  exact pure rfl

theorem catchError {e : ε} {handler : ε → ExceptT ε Meter α} {P : Except ε α → Prop}
    (hx : x.run.Does k u (· = .error e) u' es) (hh : (handler e).run.Does k u' P u'' es') :
    (tryCatch x handler).run.Does k u P u'' (es ++ es') := by
  rw [ExceptT.run_tryCatch]
  refine hx.bind fun r hr => ?_
  subst hr
  exact hh

theorem «finally» {cleanup : Meter Unit} {P : Except ε α → Prop} {R : Unit → Prop}
    (hx : x.run.Does k u P u' es) (hc : cleanup.Does k u' R u'' es') :
    (Meter.finally x cleanup).run.Does k u P u'' (es ++ es') :=
  hx.bind fun _ h => hc.bindPure fun _ _ => pure h

/-- An attempt in a trial. -/
theorem attempt {x : Attempt α} {r : Except Error α} (hx : x.run.Does k u (· = r) u' es) :
    (liftM x : Trial α).run.Does k u (· = r.mapError .error) u' es :=
  hx.bindPure fun _ h => pure (congrArg _ h)

theorem ofReply {request : Meter (Reply α)} {refusal : Cause → Error} {reply : Reply α}
    (h : request.Does k u (· = reply) u' es) :
    (Attempt.ofReply request refusal).run.Does k u (· = reply.result refusal) u' es := by
  refine h.bindPure fun r hr => ?_
  subst hr
  cases r with
  | done result => exact pure rfl
  | failed errno => exact pure rfl

end Does

/-! ### Requests -/

/-- An exact run tells its course. -/
theorem does_of_run {m : Meter α} {v : α} (h : m (k.after u) = ⟨v, k.after u', es⟩)
    (hes : es.filter Entry.isObserved = es') : m.Does k u (· = v) u' es' := by
  refine ⟨by rw [h], by rw [h], ?_⟩
  rw [h]
  exact hes

theorem does_request {m : Meter α} {v : α} {e : Entry} (h : m (k.after u) = ⟨v, k.after u', [e]⟩)
    (he : e.isObserved) : m.Does k u (· = v) u' [e] :=
  does_of_run h (List.filter_cons_of_pos he)

theorem does_readClock (source : Source) :
    (readClock source).Does k u (· = k.clockAt u.clocks) { u with clocks := u.clocks + 1 }
      [.clock source (k.clockAt u.clocks)] :=
  does_request (readClock_after k u source) rfl

theorem does_openCounter (attr : Attr) (pid : Pid) :
    (openCounter attr pid).Does k u (· = k.openAt u.counters)
      { u with counters := u.counters + 1 }
      [.counter attr pid (-1) (-1) closeOnExec (k.openAt u.counters)] :=
  does_request (openCounter_after k u attr pid) rfl

theorem does_control (fd : Fd) (request : Control) :
    (control fd request).Does k u (· = k.controlAt u.controls)
      { u with controls := u.controls + 1 } [.control fd request 0 (k.controlAt u.controls)] :=
  does_request (control_after k u fd request) rfl

theorem does_readCounter (fd : Fd) :
    (readCounter fd).Does k u (· = k.readAt u.reads) { u with reads := u.reads + 1 }
      [.read fd 8 (k.readAt u.reads)] :=
  does_request (readCounter_after k u fd) rfl

theorem does_initChild :
    initChild.Does k u (· = k.childAttrAt u.childAttrs)
      { u with childAttrs := u.childAttrs + 1 } [.childAttr (k.childAttrAt u.childAttrs)] :=
  does_request (initChild_after k u) rfl

theorem does_startChild (path : String) (argv : List String) :
    (startChild path argv).Does k u (· = k.childAt u.children)
      { u with children := u.children + 1 } [.child path argv (k.childAt u.children)] :=
  does_request (startChild_after k u path argv) rfl

theorem does_wait (pid : Pid) :
    (wait pid).Does k u (· = k.waited u.waits)
      { u with waits := u.waits + (k.interruptions u.waits + 1) } (k.waitCalls pid u.waits) := by
  refine does_of_run (wait_after k u pid) (List.filter_eq_self.mpr fun e he => ?_)
  obtain ⟨reply, rfl⟩ := k.exists_eq_of_mem_waitCalls pid he
  rfl

end Meter

end TrialMeter
