import TrialMeter.Proofs.Trace.Footprint

/-!
# Audits of traces

An audit goes through a trace entry by entry, keeps a state, and may object to an entry. It turns an
invariant on traces into one on states: `Audit.Passes A s m post` says that, started in `s`, the
audit objects to no entry of any run of `m` and ends in a state that `post` relates to the value of
the run. The rules for sequences are those of a program logic, with the state of the audit in place
of the state of the program, and a footprint of entries that leave the state alone gives a rule for
everything that the audit does not look at.

## Main definitions

* `Audit`, `Audit.check`: an audit, and its way through a trace.
* `Audit.Passes`: what an audit says about a computation.
* `Audit.Preserves`: the audit passes and its state stays.

## Main results

* `Audit.Passes.bind`, `Audit.Passes.exceptBind`, `Audit.Passes.finally`: audits of sequences.
* `Audit.preserves_of_within`: a footprint that the audit does not look at.
-/

namespace TrialMeter

/-- A way to go through a trace entry by entry, which may object to an entry. -/
structure Audit (σ : Type) where
  step : σ → Entry → Option σ

namespace Audit

variable {σ α β ε : Type} (A : Audit σ)

/-- The state after a trace, unless the audit objects to an entry. -/
def check (s : σ) (trace : List Entry) : Option σ := trace.foldlM A.step s

@[simp] theorem check_nil (s : σ) : A.check s [] = some s := rfl

theorem check_cons (s : σ) (e : Entry) (trace : List Entry) :
    A.check s (e :: trace) = (A.step s e).bind (A.check · trace) := rfl

theorem check_singleton (s : σ) (e : Entry) : A.check s [e] = A.step s e := by
  rw [check_cons]
  exact Option.bind_fun_some _

theorem check_append (s : σ) (t₁ t₂ : List Entry) :
    A.check s (t₁ ++ t₂) = (A.check s t₁).bind (A.check · t₂) :=
  List.foldlM_append

/-- Started in `s`, the audit objects to no entry of a run of `m` and ends in a state that `post`
relates to the value of the run. -/
def Passes (s : σ) (m : Meter α) (post : α → σ → Prop) : Prop :=
  ∀ k, ∃ s', A.check s (m k).trace = some s' ∧ post (m k).value s'

/-- Started in `s`, the audit objects to no entry of a run of `m` and ends in `s`. -/
def Preserves (s : σ) (m : Meter α) : Prop :=
  A.Passes s m fun _ s' => s' = s

namespace Passes

variable {A} {s : σ} {m : Meter α} {mid : α → σ → Prop}

theorem mono {post : α → σ → Prop} (h : A.Passes s m mid) (hpost : ∀ a s', mid a s' → post a s') :
    A.Passes s m post := by
  intro k
  obtain ⟨s', hs', hmid⟩ := h k
  exact ⟨s', hs', hpost _ _ hmid⟩

theorem pure {a : α} {post : α → σ → Prop} (h : post a s) :
    A.Passes s (Pure.pure a : Meter α) post :=
  fun _ => ⟨s, rfl, h⟩

theorem bind {f : α → Meter β} {post : β → σ → Prop} (hm : A.Passes s m mid)
    (hf : ∀ a s', mid a s' → A.Passes s' (f a) post) : A.Passes s (m >>= f) post := by
  intro k
  obtain ⟨s', hs', hmid⟩ := hm k
  obtain ⟨s'', hs'', hpost⟩ := hf _ _ hmid (m k).kernel
  refine ⟨s'', ?_, hpost⟩
  rw [Meter.bind_apply, check_append, hs', Option.bind_some, hs'']

theorem map {f : α → β} {post : β → σ → Prop} (hm : A.Passes s m fun a => post (f a)) :
    A.Passes s (f <$> m) post := by
  rw [map_eq_pure_bind]
  exact hm.bind fun _ _ h => pure h

theorem tell {e : Entry} {s' : σ} {post : Unit → σ → Prop} (he : A.step s e = some s')
    (h : post () s') : A.Passes s (Meter.tell e) post := by
  refine fun _ => ⟨s', ?_, h⟩
  change A.check s [e] = some s'
  rw [check_cons, he]
  rfl

/-! ### Computations that may be refused -/

variable {x : ExceptT ε Meter α} {mid : Except ε α → σ → Prop}

theorem exceptBind {f : α → ExceptT ε Meter β} {post : Except ε β → σ → Prop}
    (hx : A.Passes s x.run mid) (hf : ∀ a s', mid (.ok a) s' → A.Passes s' (f a).run post)
    (he : ∀ e s', mid (.error e) s' → post (.error e) s') : A.Passes s (x >>= f).run post := by
  rw [ExceptT.run_bind]
  refine hx.bind fun r s' h => ?_
  cases r with
  | ok a => exact hf a s' h
  | error e => exact pure (he e s' h)

/-- A computation that cannot be refused, before an attempt. -/
theorem liftBind {mid : α → σ → Prop} {f : α → ExceptT ε Meter β} {post : Except ε β → σ → Prop}
    (hm : A.Passes s m mid) (hf : ∀ a s', mid a s' → A.Passes s' (f a).run post) :
    A.Passes s (liftM m >>= f).run post :=
  (ExceptT.run_bind_lift m f).symm ▸ hm.bind hf

/-- An attempt, before the rest of a trial. -/
theorem attemptBind {x : Attempt α} {mid : Except Error α → σ → Prop} {f : α → Trial β}
    {post : Except Failure β → σ → Prop} (hx : A.Passes s x.run mid)
    (hf : ∀ a s', mid (.ok a) s' → A.Passes s' (f a).run post)
    (he : ∀ e s', mid (.error e) s' → post (.error (.error e)) s') :
    A.Passes s (liftM x >>= f).run post := by
  have hlift : A.Passes s (liftM x : Trial α).run fun r s' =>
      match r with
      | .ok a => mid (.ok a) s'
      | .error e => post (.error e) s' := by
    refine hx.bind fun r s' h => pure ?_
    cases r with
    | ok a => exact h
    | error e => exact he e s' h
  exact hlift.exceptBind hf fun _ _ h => h

theorem tryCatch {handler : ε → ExceptT ε Meter α} {post : Except ε α → σ → Prop}
    (hx : A.Passes s x.run mid)
    (hok : ∀ a s', mid (.ok a) s' → post (.ok a) s')
    (hh : ∀ e s', mid (.error e) s' → A.Passes s' (handler e).run post) :
    A.Passes s (MonadExcept.tryCatch x handler).run post := by
  rw [ExceptT.run_tryCatch]
  refine hx.bind fun r s' h => ?_
  cases r with
  | ok a => exact pure (hok a s' h)
  | error e => exact hh e s' h

theorem «finally» {cleanup : Meter Unit} {post : Except ε α → σ → Prop}
    (hx : A.Passes s x.run mid)
    (hc : ∀ r s', mid r s' → A.Passes s' cleanup fun _ => post r) :
    A.Passes s (Meter.finally x cleanup).run post :=
  hx.bind fun r _ h => (hc r _ h).bind fun _ _ hpost => pure hpost

end Passes

variable {A} {s : σ}

/-- An audit keeps its state over entries that leave it alone. -/
theorem preserves_of_within {m : Meter α} (h : m.Within fun e => A.step s e = some s) :
    A.Preserves s m := by
  have hcheck : ∀ t : List Entry, (∀ e ∈ t, A.step s e = some s) → A.check s t = some s := by
    intro t ht
    induction t with
    | nil => rfl
    | cons e t ih =>
      rw [check_cons, ht e List.mem_cons_self, Option.bind_some]
      exact ih fun e' he' => ht e' (List.mem_cons_of_mem e he')
  exact fun k => ⟨s, hcheck _ (h k), rfl⟩

/-- An attempt that keeps the state of an audit, before the rest of a trial. -/
theorem Preserves.attemptBind {x : Attempt α} {f : α → Trial β} {post : Except Failure β → σ → Prop}
    (hx : A.Preserves s x.run) (hf : ∀ a, A.Passes s (f a).run post)
    (he : ∀ e, post (.error (.error e)) s) : A.Passes s (liftM x >>= f).run post :=
  Passes.attemptBind hx (fun a _ h => h ▸ hf a) fun e _ h => h ▸ he e

/-- An attempt that keeps the state of an audit, before another one. -/
theorem Preserves.exceptBind {x : ExceptT ε Meter α} {f : α → ExceptT ε Meter β}
    {post : Except ε β → σ → Prop} (hx : A.Preserves s x.run)
    (hf : ∀ a, A.Passes s (f a).run post) (he : ∀ e, post (.error e) s) :
    A.Passes s (x >>= f).run post :=
  Passes.exceptBind hx (fun a _ h => h ▸ hf a) fun e _ h => h ▸ he e

theorem Preserves.exceptMap {x : ExceptT ε Meter α} (hx : A.Preserves s x.run) (f : α → β) :
    A.Preserves s (f <$> x).run := by
  rw [map_eq_pure_bind]
  exact hx.exceptBind (fun _ => .pure rfl) fun _ => rfl

/-- A computation that keeps the state of an audit, before an attempt. -/
theorem Preserves.liftBind {m : Meter α} {f : α → ExceptT ε Meter β}
    {post : Except ε β → σ → Prop} (hm : A.Preserves s m)
    (hf : ∀ a, A.Passes s (f a).run post) : A.Passes s (liftM m >>= f).run post :=
  Passes.liftBind hm fun a _ h => h ▸ hf a

/-- A computation that keeps the state of an audit, before another one. -/
theorem Preserves.bind {m : Meter α} {f : α → Meter β} {post : β → σ → Prop}
    (hm : A.Preserves s m) (hf : ∀ a, A.Passes s (f a) post) : A.Passes s (m >>= f) post :=
  Passes.bind hm fun a _ h => h ▸ hf a

/-! ### Keeping the state of an audit -/

namespace Preserves

theorem pure (a : α) : A.Preserves s (Pure.pure a : Meter α) := Passes.pure rfl

theorem map {m : Meter α} (hm : A.Preserves s m) (f : α → β) : A.Preserves s (f <$> m) :=
  Passes.map hm

theorem lift {m : Meter α} (hm : A.Preserves s m) :
    A.Preserves s (liftM m : ExceptT ε Meter α).run :=
  hm.map _

theorem insist {m : Meter (Except Error α × β)} (hm : A.Preserves s m) :
    A.Preserves s (Attempt.insist m).run :=
  hm.bind fun _ => pure _

theorem exceptPure (a : α) : A.Preserves s (Pure.pure a : ExceptT ε Meter α).run := pure _

theorem ofExcept (r : Except Fault α) : A.Preserves s (liftM r : Trial α).run := pure _

theorem mapM {f : β → Meter α} (hf : ∀ b, A.Preserves s (f b)) (l : List β) :
    A.Preserves s (l.mapM f) := by
  induction l with
  | nil => exact pure []
  | cons b l ih =>
    rw [List.mapM_cons]
    exact (hf b).bind fun a => ih.bind fun as => pure (a :: as)

theorem «finally» {x : ExceptT ε Meter α} {cleanup : Meter Unit} (hx : A.Preserves s x.run)
    (hc : A.Preserves s cleanup) : A.Preserves s (Meter.finally x cleanup).run :=
  hx.bind fun _ => hc.bind fun _ => pure _

end Preserves

end Audit

end TrialMeter
