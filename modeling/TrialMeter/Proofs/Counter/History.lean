import Mathlib.Data.List.Induction
import TrialMeter.Proofs.Ownership.Ledger
import TrialMeter.Proofs.Trial.Opening

/-!
# The history of a binding

A binding is used by many hands: it is opened, moved to other subjects, started, stopped and read,
directly or through the counter that has it, and any of this may be refused. What it is after all
that can be read off its past. Its configuration is the one it was made with, and every request for
a counter named that configuration and the subject that was asked for. While it has a descriptor,
that is the last one it was granted, together with the subject for which it was granted.

## Main definitions

* `Handling`, `Handling.perform`: the uses of a binding, direct or through its counter.
* `Usage`, `Usage.reached`: a binding, the kernel and the past, after any uses.
* `Usage.lastGrant?`: the last descriptor that was granted, with its subject.
* `Usage.Sound`: what holds of a binding and its past.

## Main results

* `Handling.perform_asking`, `Handling.perform_open`, `Handling.keeps_binding`: what a use can do.
* `Usage.sound_step`, `Usage.sound_reached`: one use, and any number of them.
* `Usage.binding_follows_history`: a binding and its past.
-/

namespace TrialMeter

open Meter (Within)

/-- A use of a binding, directly or through the counter that has it. -/
inductive Handling where
  | direct (operation : BindingOperation)
  | through (operation : CounterOperation)

namespace Handling

/-- The subject for which a use asks for a descriptor. -/
def subject? : Handling → Option Subject
  | direct (.openFor subject) | direct (.reopenFor subject) => some subject
  | through .openHere | through .reopenHere => some .caller
  | through (.reopen pid) => some (.process pid)
  | _ => none

/-- Whether a use gives the held descriptor back before it asks for one. -/
def reopens : Handling → Bool
  | direct (.reopenFor _) | through (.reopen _) | through .reopenHere => true
  | _ => false

/-- What a use that asks for a descriptor answers when the binding has one in the end. -/
def answer (fd : Fd) : Handling → Value
  | direct _ => .fd fd
  | through _ => .nothing

/-- A use of a binding. -/
def perform (b : Binding) : Handling → Meter (Acted Binding)
  | direct operation => operation.perform b
  | through operation => do
    let (result, c) ← operation.perform ⟨b⟩
    return (result, c.binding)

end Handling

/-- A use that is past, and what it left. -/
structure Episode where
  handling : Handling
  trace : List Entry

/-- The descriptor that was granted last in an episode, with the subject that was asked for. -/
def Episode.grant? (e : Episode) : Option Descriptor := do
  return ⟨← (e.trace.filterMap Entry.granted?).getLast?, ← e.handling.subject?⟩

/-- Whatever is asked for in an episode is a counter of the kind for the subject of the use. -/
def Episode.AsksFor (kind : Kind) (e : Episode) : Prop :=
  ∀ attr pid cpu group flags reply, .counter attr pid cpu group flags reply ∈ e.trace →
    ∃ subject, e.handling.subject? = some subject ∧ attr = kind.attr ∧ pid = subject.pid ∧
      cpu = -1 ∧ group = -1 ∧ flags = closeOnExec

/-- A binding in use. -/
structure Usage where
  binding : Binding
  kernel : Kernel
  past : List Episode := []

namespace Usage

/-- The run of one more use. -/
def run (s : Usage) (h : Handling) : Ran (Acted Binding) := (h.perform s.binding).run s.kernel

/-- One more use, as it will be remembered. -/
def episode (s : Usage) (h : Handling) : Episode := ⟨h, (s.run h).trace⟩

/-- What one more use leaves. -/
def step (s : Usage) (h : Handling) : Usage :=
  ⟨(s.run h).value.2, (s.run h).kernel, s.past ++ [s.episode h]⟩

/-- A binding of a kind after some uses, from the time when it was made. -/
def reached (kind : Kind) (k : Kernel) (handlings : List Handling) : Usage :=
  handlings.foldl step { binding := { kind }, kernel := k }

/-- The last descriptor that the binding was granted, with its subject. -/
def lastGrant? (s : Usage) : Option Descriptor := (s.past.filterMap Episode.grant?).getLast?

/-- What holds of a binding of a kind and its past. -/
structure Sound (kind : Kind) (s : Usage) : Prop where
  kind_eq : s.binding.kind = kind
  held_eq : ∀ d, s.binding.held = some d → s.lastGrant? = some d
  asked : ∀ e ∈ s.past, e.AsksFor kind

end Usage

/-! ### One use -/

theorem telling_granted : Telling Entry.granted? := by
  intro e he
  cases e with
  | counter attr pid cpu group flags reply => exact he.elim nofun nofun
  | _ => rfl

section

variable {k : Kernel} {b : Binding} {d : Descriptor} (subject : Subject)

theorem Binding.openFor_of_held (h : b.held = some d) :
    b.openFor subject k = ⟨(.ok d.fd, b), k, []⟩ := by
  rw [openFor, h]
  rfl

theorem Binding.openFor_of_closed (h : b.held = none) :
    b.openFor subject k =
      ⟨((k.openAt 0).result (.opening b.kind.text subject), (k.counterAt subject b.kind 0).binding),
        k.after { counters := 1 }, k.openingAt subject b.kind 0⟩ := by
  obtain ⟨kind, held⟩ := b
  obtain rfl : held = none := h
  exact openFor_after (k := k) (u := {}) kind subject

theorem Binding.release_run (b : Binding) (k : Kernel) :
    b.release k = ⟨{ b with held := none }, k, closeCalls b.fd.toList⟩ := by
  obtain ⟨kind, held⟩ := b
  cases held with
  | none => rfl
  | some d => rfl

theorem Binding.reopenFor_run (b : Binding) (k : Kernel) :
    b.reopenFor subject k =
      ⟨((k.openAt 0).result (.opening b.kind.text subject), (k.counterAt subject b.kind 0).binding),
        k.after { counters := 1 }, closeCalls b.fd.toList ++ k.openingAt subject b.kind 0⟩ :=
  Meter.run_bind (b.release_run k) (openFor_of_closed subject rfl)

/-- Neither way to a descriptor changes the kind. -/
theorem Binding.kind_openFor (b : Binding) (k : Kernel) :
    (b.openFor subject k).value.2.kind = b.kind := by
  cases hheld : b.held with
  | some d => rw [b.openFor_of_held subject hheld]
  | none => rw [b.openFor_of_closed subject hheld]; rfl

theorem Binding.kind_reopenFor (b : Binding) (k : Kernel) :
    (b.reopenFor subject k).value.2.kind = b.kind := by
  rw [b.reopenFor_run subject k]
  rfl

end

namespace Handling

variable {h : Handling} {subject : Subject} {k : Kernel} {b : Binding} {d : Descriptor}

theorem answering_eq {α β : Type} (answer : α → Value) :
    answering answer =
      fun r : Except Error α × β => ((r.1.map answer).mapError Failure.error, r.2) := by
  funext ⟨result, object⟩
  cases result with
  | ok a => rfl
  | error e => rfl

/-- What a counter makes of an operation of its binding. -/
theorem perform_through {operation : CounterOperation} {m : Meter (Except Error Fd × Binding)}
    (hop : operation.perform ⟨b⟩ = answering (fun _ => .nothing) <$> Counter.ofBinding <$> m) :
    perform b (through operation) =
      (fun r => ((r.1.map fun _ => Value.nothing).mapError Failure.error, r.2)) <$> m := by
  rw [perform, hop, answering_eq]
  simp only [map_eq_pure_bind, bind_assoc, pure_bind]
  congr 1
  funext ⟨result, binding⟩
  cases result with
  | ok fd => rfl
  | error e => rfl

/-- All uses that ask for a descriptor are one of two operations of the binding. -/
theorem perform_asking (hs : h.subject? = some subject) :
    h.perform b = (fun r => ((r.1.map h.answer).mapError Failure.error, r.2)) <$>
      if h.reopens then b.reopenFor subject else b.openFor subject := by
  cases h with
  | direct operation =>
    cases operation with
    | openFor asked =>
      obtain rfl : asked = subject := Option.some.inj hs
      exact congrArg (· <$> b.openFor asked) (answering_eq .fd)
    | reopenFor asked =>
      obtain rfl : asked = subject := Option.some.inj hs
      exact congrArg (· <$> b.reopenFor asked) (answering_eq .fd)
    | _ => exact absurd hs nofun
  | through operation =>
    cases operation with
    | openHere =>
      obtain rfl : Subject.caller = subject := Option.some.inj hs
      exact perform_through rfl
    | reopen pid =>
      obtain rfl : Subject.process pid = subject := Option.some.inj hs
      exact perform_through rfl
    | reopenHere =>
      obtain rfl : Subject.caller = subject := Option.some.inj hs
      exact perform_through rfl
    | _ => exact absurd hs nofun

/-- A use that would open an open binding finds the descriptor that is held. -/
theorem perform_held (hs : h.subject? = some subject) (hopens : h.reopens = false)
    (hd : b.held = some d) : h.perform b k = ⟨(.ok (h.answer d.fd), b), k, []⟩ := by
  rw [perform_asking hs, hopens]
  exact Meter.run_map (b.openFor_of_held subject hd) _

/-- Any other use that asks for a descriptor gives back the one that is held and asks once. -/
theorem perform_request (hs : h.subject? = some subject)
    (hasks : h.reopens = true ∨ b.held = none) :
    h.perform b k = ⟨((((k.openAt 0).result (.opening b.kind.text subject)).map h.answer).mapError
        .error, (k.counterAt subject b.kind 0).binding),
      k.after { counters := 1 }, closeCalls b.fd.toList ++ k.openingAt subject b.kind 0⟩ := by
  rw [perform_asking hs]
  cases hre : h.reopens with
  | true => exact Meter.run_map (b.reopenFor_run subject k) _
  | false =>
    have hclosed : b.held = none := hasks.resolve_left (by rw [hre]; exact Bool.false_ne_true)
    have hfd : b.fd = none := by rw [Binding.fd, hclosed]; rfl
    rw [hfd]
    exact Meter.run_map (b.openFor_of_closed subject hclosed) _

/-- A use that asks for no descriptor leaves the binding as it is. -/
theorem keeps_binding (hs : h.subject? = none) : (h.perform b k).value.2 = b := by
  cases h with
  | direct operation =>
    cases operation with
    | openFor asked => exact absurd hs nofun
    | reopenFor asked => exact absurd hs nofun
    | _ => rfl
  | through operation =>
    cases operation with
    | openHere => exact absurd hs nofun
    | reopen pid => exact absurd hs nofun
    | reopenHere => exact absurd hs nofun
    | _ => rfl

/-- A use that asks for no descriptor works on the one that is held. -/
theorem within_perform {p : Entry → Prop} (hb : b.Serves p) (hl : ∀ line, p (.log line))
    (hw : ∀ work, p (.work work)) (hs : h.subject? = none) : (h.perform b).Within p := by
  cases h with
  | direct operation =>
    cases operation with
    | openFor asked => exact absurd hs nofun
    | reopenFor asked => exact absurd hs nofun
    | reset => exact .keeping (.answer (Binding.within_reset hb))
    | start => exact .keeping (.answer (Binding.within_start hb))
    | stop => exact .keeping (.answer (Binding.within_stop hb))
    | read => exact .keeping (.answer (Binding.within_read hb))
    | config => exact .keeping (.exceptPure _)
  | through operation =>
    refine Within.bind ?_ fun _ => .pure _
    cases operation with
    | openHere => exact absurd hs nofun
    | reopen pid => exact absurd hs nofun
    | reopenHere => exact absurd hs nofun
    | start => exact .keeping (.answer (Binding.within_start hb))
    | stop => exact .keeping (.answer (Binding.within_stop hb))
    | read => exact .keeping (.answer (Binding.within_read hb))
    | retrieve =>
      exact .keeping ((Within.lift (Counter.within_retrieve hb hl)).exceptBind fun _ =>
        .exceptPure _)
    | measure work => exact .keeping (.answer (Counter.within_measure hb (hw work)))
    | kind => exact .keeping (.exceptPure _)

/-- A use that asks for no descriptor makes no request for a counter. -/
theorem attr_eq_none_of_mem (hs : h.subject? = none) {e : Entry} (he : e ∈ (h.perform b k).trace) :
    e.attr? = none := by
  have hserves : b.Serves fun e => e.attr? = none := fun _ _ => ⟨fun _ _ => rfl, fun _ => rfl⟩
  exact within_perform hserves (fun _ => rfl) (fun _ => rfl) hs k e he

end Handling

/-! ### Any number of uses -/

namespace Usage

variable {kind : Kind} {s : Usage} {h : Handling} {subject : Subject} {k : Kernel}

/-- The last grant is that of the last use, if it was granted a descriptor. -/
theorem lastGrant?_step (s : Usage) (h : Handling) :
    (s.step h).lastGrant? = (s.episode h).grant?.or s.lastGrant? := by
  rw [lastGrant?, step, List.filterMap_append, List.getLast?_append]
  cases hgrant : (s.episode h).grant? with
  | none => rw [List.filterMap_cons_none hgrant]; rfl
  | some d => rw [List.filterMap_cons_some hgrant]; rfl

theorem grant?_of_none {trace : List Entry} (hs : h.subject? = none) :
    Episode.grant? ⟨h, trace⟩ = none := by
  rw [Episode.grant?, hs]
  cases (trace.filterMap Entry.granted?).getLast? with
  | none => rfl
  | some fd => rfl

/-- A use that asks once is granted what the binding holds then. -/
theorem grant?_request (hs : h.subject? = some subject) (fds : List Fd) (k : Kernel) :
    Episode.grant? ⟨h, closeCalls fds ++ k.openingAt subject kind 0⟩ =
      (k.counterAt subject kind 0).binding.held := by
  have hgranted : (closeCalls fds ++ k.openingAt subject kind 0).filterMap Entry.granted? =
      (k.fdAt 0).toList := by
    rw [List.filterMap_append, telling_granted.filterMap_mute (mute_closeCalls fds)]
    unfold Kernel.openingAt Kernel.fdAt
    cases k.openAt 0 with
    | done fd => rfl
    | failed errno => rfl
  rw [Episode.grant?, hgranted, hs]
  unfold Kernel.counterAt
  cases k.fdAt 0 with
  | some fd => rfl
  | none => rfl

theorem asksFor_request (hs : h.subject? = some subject) (fds : List Fd) (k : Kernel) :
    Episode.AsksFor kind ⟨h, closeCalls fds ++ k.openingAt subject kind 0⟩ := by
  intro attr pid cpu group flags reply hmem
  rcases List.mem_append.mp hmem with hclose | hopening
  · exact absurd (mute_closeCalls fds _ hclose) Bool.false_ne_true
  rcases List.mem_cons.mp hopening with hrequest | hline
  · injection hrequest with hattr hpid hcpu hgroup hflags
    exact ⟨subject, hs, hattr, hpid, hcpu, hgroup, hflags⟩
  -- Only a line of the log can follow the request.
  · cases hfd : k.fdAt 0 with
    | none => simp [hfd] at hline
    | some fd => simp [hfd] at hline

/-- What one use can do: it leaves the binding as it is and is granted nothing, or what it is
granted is what the binding holds then. -/
theorem step_cases (s : Usage) (h : Handling) :
    (s.episode h).AsksFor s.binding.kind ∧
      (((s.step h).binding = s.binding ∧ (s.episode h).grant? = none) ∨
        ((s.step h).binding.kind = s.binding.kind ∧
          (s.step h).binding.held = (s.episode h).grant?)) := by
  cases hsubject : h.subject? with
  | none =>
    refine ⟨fun attr pid cpu group flags reply hmem => ?_,
      .inl ⟨h.keeps_binding hsubject, grant?_of_none hsubject⟩⟩
    exact absurd (h.attr_eq_none_of_mem hsubject hmem) nofun
  | some subject =>
    by_cases hasks : h.reopens = true ∨ s.binding.held = none
    · have hrun : s.run h = _ := h.perform_request hsubject hasks
      rw [episode, step, hrun]
      exact ⟨asksFor_request hsubject _ _, .inr ⟨rfl, (grant?_request hsubject _ _).symm⟩⟩
    · obtain ⟨hopens, hheld⟩ := not_or.mp hasks
      obtain ⟨d, hd⟩ := Option.ne_none_iff_exists'.mp hheld
      have hrun : s.run h = _ := h.perform_held hsubject (Bool.eq_false_iff.mpr hopens) hd
      rw [episode, step, hrun]
      exact ⟨fun _ _ _ _ _ _ hmem => absurd hmem List.not_mem_nil, .inl ⟨rfl, rfl⟩⟩

/-- One use keeps what holds of a binding and its past. -/
theorem sound_step (hs : s.Sound kind) (h : Handling) : (s.step h).Sound kind := by
  obtain ⟨hkind, hheld, hasked⟩ := hs
  obtain ⟨hasks, hbinding⟩ := s.step_cases h
  rw [hkind] at hasks hbinding
  refine ⟨?_, fun d hd => ?_, fun e he => ?_⟩
  · obtain ⟨hkeeps, -⟩ | ⟨hkind', -⟩ := hbinding
    · rw [hkeeps, hkind]
    · exact hkind'
  · rw [lastGrant?_step]
    obtain ⟨hkeeps, hgrant⟩ | ⟨-, hgrant⟩ := hbinding
    · rw [hgrant]
      exact hheld d (hkeeps ▸ hd)
    · rw [← hgrant, hd]
      rfl
  · rcases List.mem_append.mp he with he | he
    · exact hasked e he
    · obtain rfl := List.mem_singleton.mp he
      exact hasks

/-- What holds of a binding and its past, after any uses. -/
theorem sound_reached (kind : Kind) (k : Kernel) (handlings : List Handling) :
    (reached kind k handlings).Sound kind := by
  induction handlings using List.reverseRecOn with
  | nil => exact ⟨rfl, fun d hd => absurd hd nofun, fun e he => absurd he List.not_mem_nil⟩
  | append_singleton handlings h ih =>
    rw [reached, List.foldl_concat]
    exact sound_step ih h

theorem calls_request (fds : List Fd) (k : Kernel) :
    calls (closeCalls fds ++ k.openingAt subject kind 0) =
      closeCalls fds ++ [.counter kind.attr subject.pid (-1) (-1) closeOnExec (k.openAt 0)] := by
  rw [calls_append, (mute_closeCalls fds).calls_eq, k.calls_openingAt]
  rfl

/-- **A binding and its past.** After any uses of a binding, whatever the kernel has answered, the
binding has the configuration it was made with, and every request for a counter was made with that
configuration for the subject that was asked for. It has a descriptor if and only if it has a
subject, and then they are those of the last grant. From there on, a use that asks for no descriptor
leaves it as it is, whether it fails or not; opening an open binding gives the descriptor that is
held and does nothing else; and opening a closed one, or opening it anew, gives back the descriptor
that is held, if any, and asks once, after which the binding has what it was granted or nothing. -/
theorem binding_follows_history (event : Event) (domain : Domain) (k : Kernel)
    (handlings : List Handling) :
    let s := reached ⟨event, domain⟩ k handlings
    let b := s.binding
    b.kind = ⟨event, domain⟩ ∧ b.attr = .ofEvent event domain ∧
    (∀ e ∈ s.past, ∀ attr pid cpu group flags reply,
      .counter attr pid cpu group flags reply ∈ e.trace →
        ∃ subject, e.handling.subject? = some subject ∧ attr = .ofEvent event domain ∧
          pid = subject.pid ∧ cpu = -1 ∧ group = -1 ∧ flags = closeOnExec) ∧
    (b.fd.isSome ↔ b.subject.isSome) ∧
    (∀ fd, b.fd = some fd →
      ∃ subject, b.subject = some subject ∧ s.lastGrant? = some ⟨fd, subject⟩) ∧
    (∀ h, h.subject? = none → (s.run h).value.2 = b) ∧
    (∀ h subject fd, h.subject? = some subject → h.reopens = false → b.fd = some fd →
      s.run h = ⟨(.ok (h.answer fd), b), s.kernel, []⟩) ∧
    ∀ h subject, h.subject? = some subject → h.reopens = true ∨ b.fd = none →
      calls (s.run h).trace = closeCalls b.fd.toList ++
        [.counter (.ofEvent event domain) subject.pid (-1) (-1) closeOnExec (s.kernel.openAt 0)] ∧
      match s.kernel.openAt 0 with
      | .done fd => (s.run h).value.1 = .ok (h.answer fd) ∧
        (s.run h).value.2.fd = some fd ∧ (s.run h).value.2.subject = some subject
      | .failed e =>
        (s.run h).value.1 = .error (.error (.opening b.kind.text subject (.os e))) ∧
        (s.run h).value.2.fd = none ∧ (s.run h).value.2.subject = none := by
  intro s b
  obtain ⟨hkind, hheld, hasked⟩ := sound_reached ⟨event, domain⟩ k handlings
  have hclosed : b.fd = none ↔ b.held = none := Option.map_eq_none_iff
  refine ⟨hkind, congrArg Kind.attr hkind, hasked, ?_, fun fd hfd => ?_,
    fun h hs => h.keeps_binding hs, fun h subject fd hs hopens hfd => ?_,
    fun h subject hs hasks => ?_⟩
  · rw [Binding.fd, Binding.subject, Option.isSome_map, Option.isSome_map]
  · obtain ⟨d, hd, rfl⟩ := Option.map_eq_some_iff.mp hfd
    exact ⟨d.subject, by rw [Binding.subject, hd]; rfl, hheld d hd⟩
  · obtain ⟨d, hd, rfl⟩ := Option.map_eq_some_iff.mp hfd
    exact h.perform_held hs hopens hd
  · rw [hclosed] at hasks
    have hrun : s.run h = _ := h.perform_request hs hasks
    rw [hrun, calls_request, Kernel.counterAt, Kernel.fdAt]
    refine ⟨by rw [hkind]; rfl, ?_⟩
    cases s.kernel.openAt 0 with
    | done fd => exact ⟨rfl, rfl, rfl⟩
    | failed e => exact ⟨rfl, rfl, rfl⟩

/-- A binding that is opened for the caller and moved to a process. It cannot be moved to another
process, and can then be opened for the caller again. -/
theorem binding_follows_history_over_refusal :
    let k : Kernel := {
      script := { counters := [.done (), .done (), .failed ⟨3⟩] }
      descriptor := (· + 3)
      newPid := fun n => n }
    let handlings : List Handling := [.direct (.openFor .caller), .through (.reopen 7)]
    let moving : Handling := .direct (.reopenFor (.process 8))
    let attr : Attr := .ofEvent (.hardware .cpuCycles) .user
    let s := reached .cycles k handlings
    let closed := reached .cycles k (handlings ++ [moving])
    s.binding.fd = some 4 ∧ s.lastGrant? = some ⟨4, .process 7⟩ ∧
      (s.run (.through .start)).value.2 = s.binding ∧
      s.run (.direct (.openFor .caller)) = ⟨(.ok (.fd 4), s.binding), s.kernel, []⟩ ∧
      calls (s.run moving).trace = [.close 4, .counter attr 8 (-1) (-1) closeOnExec (.failed ⟨3⟩)] ∧
      closed.binding.fd = none ∧ closed.binding.subject = none ∧
      calls (closed.run (.through .openHere)).trace =
        [.counter attr 0 (-1) (-1) closeOnExec (.done 5)] ∧
      (closed.run (.through .openHere)).value.2.subject = some .caller := by
  intro k handlings moving attr s closed
  obtain ⟨-, -, -, -, hgrant, hkeeps, hopen, hrequest⟩ :=
    binding_follows_history (.hardware .cpuCycles) .user k handlings
  obtain ⟨-, -, -, -, -, -, -, hrequest'⟩ :=
    binding_follows_history (.hardware .cpuCycles) .user k (handlings ++ [moving])
  have hfd : s.binding.fd = some 4 := by decide
  have hclosed : closed.binding.fd = none := by decide
  have hlost : closed.binding.subject = none := by decide
  have hrefused : s.kernel.openAt 0 = .failed ⟨3⟩ := by decide
  have hgranted : closed.kernel.openAt 0 = .done 5 := by decide
  obtain ⟨subject, hsubject, hlast⟩ := hgrant 4 hfd
  obtain rfl : subject = .process 7 := Option.some.inj (hsubject.symm.trans (by decide))
  have hmoving : calls (s.run moving).trace = closeCalls s.binding.fd.toList ++
      [.counter attr 8 (-1) (-1) closeOnExec (s.kernel.openAt 0)] :=
    (hrequest moving (.process 8) rfl (.inl rfl)).1
  obtain ⟨hasked, -, -, hcaller⟩ := hrequest' (.through .openHere) .caller rfl (.inr hclosed)
  have hopening : calls (closed.run (.through .openHere)).trace =
      closeCalls closed.binding.fd.toList ++
        [.counter attr 0 (-1) (-1) closeOnExec (closed.kernel.openAt 0)] := hasked
  rw [hfd, hrefused] at hmoving
  rw [hclosed, hgranted] at hopening
  exact ⟨hfd, hlast, hkeeps _ rfl, hopen _ .caller 4 rfl rfl hfd, hmoving, hclosed, hlost, hopening,
    hcaller⟩

end Usage

end TrialMeter
