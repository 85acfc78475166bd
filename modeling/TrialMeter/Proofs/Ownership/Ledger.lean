import Mathlib.Data.Finset.Basic
import Mathlib.Data.List.Induction
import TrialMeter.Proofs.Trace.Audit

/-!
# The ledger of descriptors

A descriptor is open from the entry that grants it to the entry that gives it back. The ledger is
the audit that keeps the granted descriptors as a multiset: a grant adds its descriptor, a
descriptor that is given back is taken out, and an entry that works on a descriptor that the ledger
does not hold is objected to. The kernel may grant the number of an open descriptor as far as the
ledger is concerned, so nothing has to be known of the kernel while a computation is audited. When
every grant is of a descriptor that is not open, the ledger of a trace holds each open descriptor
once and nothing else.

## Main definitions

* `openDescriptors`: the descriptors that are open after a trace.
* `GrantsFresh`: the kernel grants only descriptors that are not open.
* `UsesOpen`: only open descriptors are controlled, read and given back.
* `ledger`: the audit of descriptors.

## Main results

* `ledger_step_cases`: what one entry does to the ledger.
* `ledger_sound`: what the ledger of a trace says about the open descriptors.
* `count_close_add_count`: each grant is given back once or still held.
-/

namespace TrialMeter

namespace Entry

/-- The descriptor that an entry grants. -/
def granted? : Entry → Option Fd
  | counter _ _ _ _ _ (.done fd) => some fd
  | _ => none

/-- The descriptor that an entry works on: it is controlled, read or given back. -/
def used? : Entry → Option Fd
  | control fd _ _ _ | read fd _ _ | close fd => some fd
  | _ => none

/-- The descriptors that are open after an entry, from those that are open before it. -/
def openAfter (before : Finset Fd) : Entry → Finset Fd
  | counter _ _ _ _ _ (.done fd) => insert fd before
  | close fd => before.erase fd
  | _ => before

end Entry

/-- The descriptors that are open after a trace: granted, and not given back since. -/
def openDescriptors (trace : List Entry) : Finset Fd := trace.foldl Entry.openAfter ∅

/-- Every descriptor that is granted in a trace is not open when it is granted. -/
def GrantsFresh (trace : List Entry) : Prop :=
  ∀ before e after, trace = before ++ e :: after →
    ∀ fd ∈ e.granted?, fd ∉ openDescriptors before

/-- Every descriptor that is controlled, read or given back in a trace is open at that moment. -/
def UsesOpen (trace : List Entry) : Prop :=
  ∀ before e after, trace = before ++ e :: after →
    ∀ fd ∈ e.used?, fd ∈ openDescriptors before

theorem openDescriptors_concat (trace : List Entry) (e : Entry) :
    openDescriptors (trace ++ [e]) = e.openAfter (openDescriptors trace) := by
  simp only [openDescriptors, List.foldl_append, List.foldl_cons, List.foldl_nil]

theorem GrantsFresh.of_append {t₁ t₂ : List Entry} (h : GrantsFresh (t₁ ++ t₂)) :
    GrantsFresh t₁ := by
  intro before e after ht
  exact h before e (after ++ t₂) (by rw [ht, List.append_assoc, List.cons_append])

theorem GrantsFresh.last {trace : List Entry} {e : Entry} (h : GrantsFresh (trace ++ [e])) :
    ∀ fd ∈ e.granted?, fd ∉ openDescriptors trace :=
  h trace e [] rfl

theorem UsesOpen.concat {trace : List Entry} {e : Entry} (h : UsesOpen trace)
    (he : ∀ fd ∈ e.used?, fd ∈ openDescriptors trace) : UsesOpen (trace ++ [e]) := by
  intro before e' after ht
  rcases List.eq_nil_or_concat after with rfl | ⟨after, last, rfl⟩
  · obtain ⟨rfl, rfl⟩ := List.append_singleton_inj.mp ht
    exact he
  · rw [List.concat_eq_append, ← List.cons_append, ← List.append_assoc] at ht
    exact h before e' after (List.append_singleton_inj.mp ht).1

theorem mem_granted_of_mem_open {trace : List Entry} {fd : Fd} (h : fd ∈ openDescriptors trace) :
    fd ∈ trace.filterMap Entry.granted? := by
  induction trace using List.reverseRecOn with
  | nil => exact absurd h (Finset.notMem_empty fd)
  | append_singleton trace e ih =>
    rw [openDescriptors_concat] at h
    rw [List.filterMap_append, List.mem_append]
    cases e with
    | counter attr pid cpu group flags reply =>
      cases reply with
      | done fd' =>
        rcases Finset.mem_insert.mp h with rfl | h
        · exact .inr (by simp [Entry.granted?])
        · exact .inl (ih h)
      | failed errno => exact .inl (ih h)
    | close fd' => exact .inl (ih (Finset.mem_of_mem_erase h))
    | _ => exact .inl (ih h)

/-- A kernel that never grants a number twice grants fresh descriptors only. -/
theorem grantsFresh_of_nodup {trace : List Entry} (h : (trace.filterMap Entry.granted?).Nodup) :
    GrantsFresh trace := by
  rintro before e after rfl fd hfd hopen
  have hbefore := mem_granted_of_mem_open hopen
  have he : fd ∈ (e :: after).filterMap Entry.granted? :=
    List.mem_filterMap.mpr ⟨e, List.mem_cons_self, hfd⟩
  rw [List.filterMap_append] at h
  exact List.disjoint_of_nodup_append h hbefore he

/-- The audit of descriptors. Its state is what was granted and has not been given back. -/
def ledger : Audit (Multiset Fd) where
  step held
    | .counter _ _ _ _ _ (.done fd) => some (fd ::ₘ held)
    | .control fd _ _ _ | .read fd _ _ => if fd ∈ held then some held else none
    | .close fd => if fd ∈ held then some (held.erase fd) else none
    | _ => some held

/-- What one entry does to the ledger: a grant, a return, or nothing. -/
theorem ledger_step_cases {held held' : Multiset Fd} {e : Entry}
    (h : ledger.step held e = some held') :
    (∃ attr pid cpu group flags fd, e = .counter attr pid cpu group flags (.done fd) ∧
      held' = fd ::ₘ held) ∨
    (∃ fd ∈ held, e = .close fd ∧ held' = held.erase fd) ∨
    ((∀ fd ∈ e.used?, fd ∈ held) ∧ e.granted? = none ∧ (∀ fd, e ≠ .close fd) ∧
      (∀ before, e.openAfter before = before) ∧ held' = held) := by
  cases e with
  | counter attr pid cpu group flags reply =>
    cases reply with
    | done fd => exact .inl ⟨_, _, _, _, _, fd, rfl, (Option.some.inj h).symm⟩
    | failed errno =>
      exact .inr (.inr ⟨by simp [Entry.used?], rfl, by simp, fun _ => rfl,
        (Option.some.inj h).symm⟩)
  | close fd =>
    obtain ⟨hmem, rfl⟩ : fd ∈ held ∧ held.erase fd = held' := by simpa [ledger] using h
    exact .inr (.inl ⟨fd, hmem, rfl, rfl⟩)
  | control fd request argument reply =>
    obtain ⟨hmem, rfl⟩ : fd ∈ held ∧ held = held' := by simpa [ledger] using h
    exact .inr (.inr ⟨by simpa [Entry.used?] using hmem, rfl, by simp, fun _ => rfl, rfl⟩)
  | read fd bytes delivery =>
    obtain ⟨hmem, rfl⟩ : fd ∈ held ∧ held = held' := by simpa [ledger] using h
    exact .inr (.inr ⟨by simpa [Entry.used?] using hmem, rfl, by simp, fun _ => rfl, rfl⟩)
  | _ =>
    exact .inr (.inr ⟨by simp [Entry.used?], rfl, by simp, fun _ => rfl, (Option.some.inj h).symm⟩)

/-- What the ledger lets pass, it lets pass because a descriptor that is used is held. -/
theorem mem_of_ledger_step {held held' : Multiset Fd} {e : Entry}
    (h : ledger.step held e = some held') : ∀ fd ∈ e.used?, fd ∈ held := by
  intro fd hfd
  rcases ledger_step_cases h with ⟨_, _, _, _, _, fd', rfl, -⟩ | ⟨fd', hmem, rfl, -⟩ | ⟨hused, -⟩
  · exact absurd hfd (Option.not_mem_none fd)
  · obtain rfl : fd' = fd := Option.some.inj hfd
    exact hmem
  · exact hused fd hfd

/-- One entry moves the ledger and the open descriptors alike. -/
theorem ledger_step_nodup {held held' : Multiset Fd} {e : Entry} (hn : held.Nodup)
    (h : ledger.step held e = some held') (he : ∀ fd ∈ e.granted?, fd ∉ held) :
    held'.Nodup ∧ held'.toFinset = e.openAfter held.toFinset := by
  rcases ledger_step_cases h with ⟨_, _, _, _, _, fd, rfl, rfl⟩ | ⟨fd, -, rfl, rfl⟩ |
    ⟨-, -, -, hopen, rfl⟩
  · exact ⟨Multiset.nodup_cons.mpr ⟨he fd rfl, hn⟩, Multiset.toFinset_cons fd held⟩
  · refine ⟨hn.erase fd, ?_⟩
    ext x
    simp only [Entry.openAfter, Multiset.mem_toFinset, Finset.mem_erase, hn.mem_erase_iff]
  · exact ⟨hn, (hopen _).symm⟩

theorem ledger_check_concat {held' : Multiset Fd} {trace : List Entry} {e : Entry}
    (h : ledger.check 0 (trace ++ [e]) = some held') :
    ∃ held, ledger.check 0 trace = some held ∧ ledger.step held e = some held' := by
  rw [Audit.check_append, Option.bind_eq_some_iff] at h
  obtain ⟨held, hheld, hstep⟩ := h
  refine ⟨held, hheld, ?_⟩
  rwa [Audit.check_cons, funext (Audit.check_nil ledger), Option.bind_fun_some] at hstep

/-- **The ledger knows the open descriptors.** When every grant is fresh, a trace that the ledger
lets pass uses open descriptors only, and the ledger ends with every open descriptor once. -/
theorem ledger_sound {trace : List Entry} {held : Multiset Fd}
    (h : ledger.check 0 trace = some held) (hf : GrantsFresh trace) :
    held.Nodup ∧ held.toFinset = openDescriptors trace ∧ UsesOpen trace := by
  induction trace using List.reverseRecOn generalizing held with
  | nil =>
    obtain rfl : 0 = held := by simpa using h
    exact ⟨Multiset.nodup_zero, rfl, by simp [UsesOpen]⟩
  | append_singleton trace e ih =>
    obtain ⟨before, hbefore, hstep⟩ := ledger_check_concat h
    obtain ⟨hn, hopen, huses⟩ := ih hbefore hf.of_append
    have hfresh : ∀ fd ∈ e.granted?, fd ∉ before := by
      simpa only [← hopen, Multiset.mem_toFinset] using hf.last
    obtain ⟨hn', hopen'⟩ := ledger_step_nodup hn hstep hfresh
    refine ⟨hn', by rw [hopen', openDescriptors_concat, hopen], huses.concat ?_⟩
    simpa only [← hopen, Multiset.mem_toFinset] using mem_of_ledger_step hstep

private theorem ledger_step_count {held held' : Multiset Fd} {e : Entry}
    (h : ledger.step held e = some held') (fd : Fd) :
    [e].count (.close fd) + held'.count fd =
      held.count fd + [e].countP (·.granted? = some fd) := by
  rcases ledger_step_cases h with ⟨_, _, _, _, _, fd', rfl, rfl⟩ | ⟨fd', hmem, rfl, rfl⟩ |
    ⟨-, hgranted, hclose, -, rfl⟩
  · by_cases heq : fd' = fd
    · simp [Entry.granted?, heq]
    · simp [Entry.granted?, heq, Multiset.count_cons_of_ne (Ne.symm heq)]
  · by_cases heq : fd' = fd
    · obtain rfl := heq
      have hpos : 0 < held.count fd' := Multiset.count_pos.mpr hmem
      have hcount : (held.erase fd').count fd' = held.count fd' - 1 :=
        Multiset.count_erase_self fd' held
      have hgranted : [Entry.close fd'].countP (·.granted? = some fd') = 0 := by
        simp [Entry.granted?]
      rw [hcount, hgranted, List.count_singleton_self]
      omega
    · simp [Entry.granted?, heq, Multiset.count_erase_of_ne (Ne.symm heq)]
  · simp [hgranted, hclose fd]

/-- Each grant of a descriptor is given back once or still held. -/
theorem count_close_add_count {trace : List Entry} {held : Multiset Fd}
    (h : ledger.check 0 trace = some held) (fd : Fd) :
    trace.count (.close fd) + held.count fd = trace.countP (·.granted? = some fd) := by
  induction trace using List.reverseRecOn generalizing held with
  | nil =>
    obtain rfl : 0 = held := by simpa using h
    rfl
  | append_singleton trace e ih =>
    obtain ⟨before, hbefore, hstep⟩ := ledger_check_concat h
    have hcount := ih hbefore
    have hlast := ledger_step_count hstep fd
    rw [List.count_append, List.countP_append]
    omega

end TrialMeter
