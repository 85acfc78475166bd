import TrialMeter.Proofs.Session.Conduct
import TrialMeter.Proofs.Trace.Calls

/-!
# Counting windows start from zero

A counting window is opened by the request that enables a counter, and counts from zero because the
request before it was a reset of the same counter that was done. No other request comes between the
two: not that of another member of a group, and not one of the orchestration around a trial. This
holds of every session, also of one that resets counters by hand. Where none is reset by hand, every
reset that is done is also followed by the enabling, so no start stops half way.

## Main definitions

* `EnabledAfterReset`, `EnabledOnceReset`: the two directions of the law.
* `Enables`: a trace in which some counter is enabled.

## Main results

* `windows_of_check`: an audit for both directions.
* `Session.enabled_after_reset`: sessions, and what a start, and everything else, does.
-/

namespace TrialMeter

/-- Every request that enables a counter comes right after a reset of it that was done. -/
def EnabledAfterReset (trace : List Entry) : Prop :=
  ∀ before fd argument reply after,
    calls trace = before ++ .control fd .enable argument reply :: after →
    ∃ earlier argument', before = earlier ++ [.control fd .reset argument' (.done ())]

/-- Right after a reset that was done, the same counter is enabled. -/
def EnabledOnceReset (trace : List Entry) : Prop :=
  ∀ before fd argument after,
    calls trace = before ++ .control fd .reset argument (.done ()) :: after →
    ∃ argument' reply later, after = .control fd .enable argument' reply :: later

/-- Some counter is enabled. -/
def Enables (trace : List Entry) : Prop :=
  ∃ fd argument reply, .control fd .enable argument reply ∈ trace

/-- Whatever the kernel answers, no run enables a counter. -/
def Meter.NeverEnables {α : Type} (m : Meter α) : Prop := ∀ k, ¬Enables (m k).trace

/-- Remembers the counter that was just reset, and objects to any call but its enabling. -/
def windowAudit : Audit (Option Fd) where
  step fresh
    | .log _ => some fresh
    | .control fd .enable _ _ => if fresh = some fd then some none else none
    | .control fd .reset _ (.done ()) => if fresh = none then some (some fd) else none
    | _ => if fresh = none then some none else none

/-! ### What the audit says -/

section Audit

variable {fresh fresh' : Option Fd} {fd : Fd} {argument : Nat} {e : Entry} {trace : List Entry}

theorem eq_some_of_step_enable {reply : Reply Unit}
    (h : windowAudit.step fresh (.control fd .enable argument reply) = some fresh') :
    fresh = some fd :=
  (Option.ite_none_right_eq_some.mp h).1

theorem eq_some_of_step_reset
    (h : windowAudit.step fresh (.control fd .reset argument (.done ())) = some fresh') :
    fresh' = some fd :=
  (Option.some.inj (Option.ite_none_right_eq_some.mp h).2).symm

/-- A counter is fresh after its reset only. -/
theorem eq_reset_of_step (he : e.isCall) (h : windowAudit.step fresh e = some (some fd)) :
    ∃ argument, e = .control fd .reset argument (.done ()) := by
  have hnone {c : Prop} [Decidable c] : (if c then some none else none) ≠ some (some fd) :=
    fun h => absurd (Option.ite_none_right_eq_some.mp h).2 nofun
  cases e with
  | log line => exact absurd he Bool.false_ne_true
  | control fd' request argument reply =>
    cases request with
    | reset =>
      cases reply with
      | done grant =>
        obtain rfl : fd = fd' := Option.some.inj (eq_some_of_step_reset h)
        exact ⟨argument, rfl⟩
      | failed errno => exact absurd h hnone
    | _ => exact absurd h hnone
  | _ => exact absurd h hnone

/-- A fresh counter can only be enabled. -/
theorem eq_enable_of_step (he : e.isCall) (h : windowAudit.step (some fd) e = some fresh') :
    ∃ argument reply, e = .control fd .enable argument reply := by
  cases e with
  | log line => exact absurd he Bool.false_ne_true
  | control fd' request argument reply =>
    cases request with
    | enable =>
      obtain rfl : fd = fd' := Option.some.inj (eq_some_of_step_enable h)
      exact ⟨argument, reply, rfl⟩
    | reset =>
      cases reply with
      | done grant => exact absurd h nofun
      | failed errno => exact absurd h nofun
    | disable => exact absurd h nofun
  | _ => exact absurd h nofun

/-- The log is of no interest to the audit. -/
theorem windowAudit_check_calls (fresh : Option Fd) (trace : List Entry) :
    windowAudit.check fresh (calls trace) = windowAudit.check fresh trace := by
  induction trace generalizing fresh with
  | nil => rfl
  | cons e trace ih =>
    rw [calls_cons, Audit.check_cons]
    split
    · rw [Audit.check_cons, funext ih]
    · rename_i he
      cases e with
      | log line => exact ih fresh
      | _ => exact absurd rfl he

/-- Where the audit ends with a fresh counter, the last call is its reset. -/
theorem eq_concat_reset {cs : List Entry} (hcs : ∀ e ∈ cs, e.isCall)
    (h : windowAudit.check none cs = some (some fd)) :
    ∃ earlier argument, cs = earlier ++ [.control fd .reset argument (.done ())] := by
  rcases List.eq_nil_or_concat' cs with rfl | ⟨earlier, e, rfl⟩
  · exact absurd h nofun
  · rw [Audit.check_append] at h
    obtain ⟨fresh, -, hlast⟩ := Option.bind_eq_some_iff.mp h
    rw [Audit.check_singleton] at hlast
    obtain ⟨argument, rfl⟩ := eq_reset_of_step (hcs e (by simp)) hlast
    exact ⟨earlier, argument, rfl⟩

/-- What the audit lets pass from no fresh counter to none obeys the law in both directions. -/
theorem windows_of_check (h : windowAudit.check none trace = some none) :
    EnabledAfterReset trace ∧ EnabledOnceReset trace := by
  rw [← windowAudit_check_calls] at h
  have hcall : ∀ e ∈ calls trace, e.isCall := fun e he => (List.mem_filter.mp he).2
  refine ⟨?_, ?_⟩
  · intro before fd argument reply after heq
    rw [heq, Audit.check_append] at h
    obtain ⟨fresh, hbefore, hafter⟩ := Option.bind_eq_some_iff.mp h
    obtain ⟨fresh', hstep, -⟩ := Option.bind_eq_some_iff.mp hafter
    rw [eq_some_of_step_enable hstep] at hbefore
    exact eq_concat_reset (fun e he => hcall e (heq ▸ List.mem_append_left _ he)) hbefore
  · intro before fd argument after heq
    rw [heq, Audit.check_append] at h
    obtain ⟨fresh, -, hafter⟩ := Option.bind_eq_some_iff.mp h
    obtain ⟨fresh', hstep, hrest⟩ := Option.bind_eq_some_iff.mp hafter
    rw [eq_some_of_step_reset hstep] at hrest
    cases after with
    | nil => exact absurd hrest nofun
    | cons e later =>
      obtain ⟨fresh'', hnext, -⟩ := Option.bind_eq_some_iff.mp hrest
      obtain ⟨argument', reply, rfl⟩ := eq_enable_of_step (hcall e (by simp [heq])) hnext
      exact ⟨argument', reply, later, rfl⟩

end Audit

/-! ### Traces that are put together -/

section Append

variable {t₁ t₂ : List Entry}

theorem EnabledAfterReset.append (h₁ : EnabledAfterReset t₁) (h₂ : EnabledAfterReset t₂) :
    EnabledAfterReset (t₁ ++ t₂) := by
  intro before fd argument reply after heq
  rw [calls_append] at heq
  rcases List.append_eq_append_iff.mp heq with
    ⟨middle, hbefore, hmiddle⟩ | ⟨middle, hfirst, hmiddle⟩
  · obtain ⟨earlier, argument', rfl⟩ := h₂ middle fd argument reply after hmiddle
    exact ⟨calls t₁ ++ earlier, argument', by rw [hbefore, List.append_assoc]⟩
  · cases middle with
    | nil =>
      -- The enabling is the first call of the second part, which no reset precedes.
      have hsecond : calls t₂ = [] ++ .control fd .enable argument reply :: after := hmiddle.symm
      obtain ⟨earlier, argument', hnil⟩ := h₂ [] fd argument reply after hsecond
      exact absurd hnil.symm (by simp)
    | cons e middle =>
      obtain ⟨rfl, -⟩ := List.cons.inj hmiddle
      exact h₁ before fd argument reply middle hfirst

/-- A trace without an enabling obeys the law. -/
theorem enabledAfterReset_of_not_enables {trace : List Entry} (h : ¬Enables trace) :
    EnabledAfterReset trace := by
  intro before fd argument reply after heq
  have hmem : .control fd .enable argument reply ∈ calls trace := by simp [heq]
  exact absurd ⟨fd, argument, reply, (List.mem_filter.mp hmem).1⟩ h

end Append

/-! ### Computations -/

theorem windowAudit_atRest : windowAudit.AtRest none where
  clock _ _ := rfl
  counter _ _ _ := rfl
  disable _ _ := rfl
  refused _ _ := rfl
  window fd reply := by
    have hreset : windowAudit.step none (.control fd .reset 0 (.done ())) = some (some fd) := rfl
    have henable : windowAudit.step (some fd) (.control fd .enable 0 reply) = some none :=
      if_pos rfl
    rw [Audit.check_cons, hreset, Option.bind_some, Audit.check_singleton, henable]
  read _ _ := rfl
  close _ := rfl
  work _ := rfl
  log _ := rfl

theorem windowAudit_tends : windowAudit.Tends none fun _ => none where
  rest := windowAudit_atRest
  rest_busy _ := windowAudit_atRest
  childAttr _ := rfl
  refused _ _ _ := rfl
  started _ _ _ := rfl
  interrupted _ := rfl
  reaped _ _ _ := rfl

/-- Every operation but a bare reset passes the audit. -/
theorem Operation.windowAudit_perform {operation : Operation} (h : operation.isReset = false)
    (store : Store) : windowAudit.Preserves none (operation.perform store) := by
  cases hchild : operation.sharesChild with
  | false => exact windowAudit_tends.operation h hchild store
  | true =>
    cases operation with
    | spawn program args =>
      have hspawn : windowAudit.Preserves none (Child.spawn program args).run :=
        Audit.preserves_of_within (Child.within_spawn (fun _ => rfl) (fun _ => rfl) fun _ => rfl)
      exact (hspawn.answer _).apart store
    | wait pid =>
      have hwait : windowAudit.Preserves none (Child.wait pid).run :=
        Audit.preserves_of_within (Child.within_wait (fun _ => rfl) fun _ => rfl)
      exact (hwait.answer _).apart store
    | _ => exact absurd hchild Bool.false_ne_true

/-- Objects to every enabling. -/
def enableAudit : Audit Unit where
  step _
    | .control _ .enable _ _ => none
    | _ => some ()

theorem enableAudit_idle : enableAudit.Idle () where
  clock _ _ := rfl
  counter _ _ _ := rfl
  disable _ _ := rfl
  read _ _ := rfl
  close _ := rfl
  work _ := rfl
  log _ := rfl

theorem enableAudit_reset (b : Binding) : enableAudit.Preserves () b.reset.run :=
  Audit.preserves_of_within (Binding.within_requireFd_bind fun _ _ =>
    Binding.within_control fun _ => rfl)

theorem Audit.Preserves.neverEnables {α : Type} {m : Meter α} (h : enableAudit.Preserves () m) :
    m.NeverEnables := by
  rintro k ⟨fd, argument, reply, hmem⟩
  obtain ⟨before, after, heq⟩ := List.append_of_mem hmem
  obtain ⟨u, hcheck, -⟩ := h k
  rw [heq, Audit.check_append] at hcheck
  obtain ⟨u', -, hafter⟩ := Option.bind_eq_some_iff.mp hcheck
  exact absurd hafter nofun

/-- Every operation, a bare reset included, enables a counter after a reset only. -/
theorem Operation.enabledAfterReset_perform (operation : Operation) (store : Store) (k : Kernel) :
    EnabledAfterReset (operation.perform store k).trace := by
  cases hreset : operation.isReset with
  | false =>
    obtain ⟨fresh, hcheck, rfl⟩ := operation.windowAudit_perform hreset store k
    exact (windows_of_check hcheck).1
  | true =>
    obtain ⟨slot, rfl⟩ := operation.eq_of_isReset hreset
    have hperform : enableAudit.Preserves () ((Operation.binding slot .reset).perform store) :=
      Audit.Preserves.act (fun b => ((enableAudit_reset b).answer _).keeping b) store slot
    exact enabledAfterReset_of_not_enables (hperform.neverEnables k)

/-- **Every counting window starts from zero.** Whatever the kernel answers, every enabling in a
session comes right after a reset of the same counter that was done, and where no counter is reset
by hand, every reset that was done is followed by the enabling. A start asks for nothing without a
descriptor; ends with an error, and without an enabling, where the reset is refused; and goes on to
the enabling where the reset is done. Opening, moving, resetting, stopping, reading and giving back
enable no counter, neither on a binding nor on a counter or a group. -/
theorem Session.enabled_after_reset (operations : List Operation) (store : Store) (k : Kernel) :
    EnabledAfterReset (Session.run store operations k).trace ∧
    ((∀ operation ∈ operations, operation.isReset = false) →
      EnabledOnceReset (Session.run store operations k).trace) ∧
    (∀ (b : Binding) (k : Kernel),
      match b.held, k.controlAt 0 with
      | none, _ => b.start.run k = ⟨.error .notOpen, k, []⟩
      | some d, .failed errno => b.start.run k = ⟨.error (.controlling (.os errno)),
          k.after { controls := 1 }, [.control d.fd .reset 0 (.failed errno)]⟩
      | some d, .done () => b.start.run k = ⟨(k.controlAt 1).result .controlling,
          k.after { controls := 2 },
          [.control d.fd .reset 0 (.done ()), .control d.fd .enable 0 (k.controlAt 1)]⟩) ∧
    (∀ (b : Binding) (subject : Subject), (b.openFor subject).NeverEnables ∧
      (b.reopenFor subject).NeverEnables ∧ b.reset.run.NeverEnables ∧ b.stop.run.NeverEnables ∧
      b.read.run.NeverEnables ∧ b.release.NeverEnables) ∧
    (∀ (c : Counter) (pid : Pid), c.openHere.NeverEnables ∧ (c.reopen pid).NeverEnables ∧
      c.reopenHere.NeverEnables ∧ c.stop.run.NeverEnables ∧ c.read.run.NeverEnables ∧
      c.retrieve.NeverEnables ∧ c.release.NeverEnables) ∧
    ∀ (g : Group Counter) (pid : Pid) (kind : Kind), g.openHere.NeverEnables ∧
      (g.reopen pid).NeverEnables ∧ g.stop.NeverEnables ∧ (g.retrieve kind).NeverEnables ∧
      g.release.NeverEnables := by
  have hidle := enableAudit_idle
  refine ⟨?_, ?_, ?_, ?_, ?_, ?_⟩
  · refine Session.trace_induction (enabledAfterReset_of_not_enables ?_)
      (fun _ _ => EnabledAfterReset.append) (fun operation _ => operation.enabledAfterReset_perform)
      store k
    rintro ⟨fd, argument, reply, hmem⟩
    exact absurd hmem List.not_mem_nil
  · intro hreset
    have hperform : ∀ operation ∈ operations, ∀ store,
        windowAudit.Preserves none (operation.perform store) :=
      fun operation hmem => operation.windowAudit_perform (hreset operation hmem)
    obtain ⟨fresh, hcheck, rfl⟩ := Audit.Preserves.session hperform store k
    exact (windows_of_check hcheck).2
  · intro b k
    cases hheld : b.held with
    | none => exact Binding.start_of_none hheld
    | some d =>
      cases hcontrol : k.controlAt 0 with
      | failed errno => exact Binding.start_of_refused (u := {}) hheld hcontrol
      | done grant => exact Binding.start_of_done (u := {}) hheld hcontrol
  · exact fun b subject => ⟨(hidle.openFor b subject).neverEnables,
      (hidle.reopenFor b subject).neverEnables, (enableAudit_reset b).neverEnables,
      (hidle.stop b).neverEnables, (hidle.readCount b).neverEnables, (hidle.release b).neverEnables⟩
  · exact fun c pid => ⟨(hidle.openHere c).neverEnables, (hidle.reopen c pid).neverEnables,
      (hidle.reopenHere c).neverEnables, (hidle.stop c.binding).neverEnables,
      (hidle.readCount c.binding).neverEnables, (hidle.retrieve c).neverEnables,
      (hidle.giveBack c).neverEnables⟩
  · exact fun g pid kind => ⟨(hidle.openGroup g).neverEnables,
      (hidle.reopenGroup g pid).neverEnables, (hidle.stopGroup g).neverEnables,
      (hidle.retrieveKind g kind).neverEnables, (hidle.releaseAll g.members).neverEnables⟩

/-- A group in which the first reset and the only enabling are refused, a counter that measures, and
a trial: seventeen resets, of which sixteen are done and followed by an enabling. -/
theorem Session.enabled_after_reset_of_refusals :
    let k : Kernel := {
      script := { controls := [.failed ⟨5⟩, .done (), .failed ⟨5⟩] }
      descriptor := (· + 3)
      newPid := fun n => n }
    let operations : List Operation := [
      .make "g" (.group [.cycles, .bpu]), .group "g" (.drive .start), .make "c" (.counter .bpu),
      .counter "c" (.measure .unnamed), .trial {} (.benchmark .unnamed)]
    let trace := (Session.run {} operations k).trace
    EnabledAfterReset trace ∧ EnabledOnceReset trace ∧
      trace.countP (fun | .control _ .reset _ _ => true | _ => false) = 17 ∧
      trace.countP (fun | .control _ .enable _ _ => true | _ => false) = 16 := by
  intro k operations trace
  obtain ⟨hafter, honce, -⟩ := Session.enabled_after_reset operations {} k
  exact ⟨hafter, honce (by decide), by decide +kernel, by decide +kernel⟩

end TrialMeter
