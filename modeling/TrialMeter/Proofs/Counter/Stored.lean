import TrialMeter.Counter.Stored
import TrialMeter.Proofs.Counter.History

/-!
# The fields of a binding

Nothing in the type of a stored binding ties its descriptor to its subject, or its attributes to its
event. The operations do: a new binding is consistent, and every use of a consistent one leaves it
consistent, though its fields are updated one at a time. A consistent binding is the same thing as a
`Binding`, and the operations on the fields are the operations on the `Binding`, request by request.
So what is said of a binding and its past holds of the fields.

## Main definitions

* `StoredBinding.Consistent`: a descriptor comes with a subject, and the attributes are those of the
  event and the domain.
* `Binding.stored`, `Counter.stored`: the fields in which a binding and a counter are stored.
* `StoredUsage`, `StoredUsage.reached`: a stored binding, the kernel and the past, after any uses.

## Main results

* `StoredBinding.consistent_iff`: the consistent bindings are those that store a `Binding`.
* `Binding.openFor_stored`, `Binding.release_stored`, `Binding.reopenFor_stored`, …: one operation.
* `Handling.perform_stored`: one use.
* `StoredUsage.reached_eq`, `StoredUsage.fields_follow_history`: any number of them.
-/

namespace TrialMeter

/-! ### Fields -/

/-- The fields in which a binding is stored. -/
def Binding.stored (b : Binding) : StoredBinding where
  event := b.kind.event
  domain := b.kind.domain
  attr := b.attr
  fd := b.fd
  subject := b.subject

namespace StoredBinding

/-- What ties the fields of a binding together. -/
structure Consistent (s : StoredBinding) : Prop where
  attr_eq : s.attr = .ofEvent s.event s.domain
  paired : s.fd.isSome ↔ s.subject.isSome

theorem consistent_stored (b : Binding) : b.stored.Consistent where
  attr_eq := rfl
  paired := by
    rw [Binding.stored, Binding.fd, Binding.subject, Option.isSome_map, Option.isSome_map]

/-- The fields of a binding show that binding. -/
theorem shown_stored (b : Binding) : b.stored.shown = b := by
  obtain ⟨kind, held⟩ := b
  cases held with
  | none => rfl
  | some d => rfl

theorem stored_shown {s : StoredBinding} (h : s.Consistent) : s.shown.stored = s := by
  obtain ⟨event, domain, attr, fd, subject⟩ := s
  obtain ⟨hattr, hpaired⟩ := h
  obtain rfl : attr = .ofEvent event domain := hattr
  cases fd with
  | none =>
    cases subject with
    | none => rfl
    | some subject => exact absurd (hpaired.mpr rfl) Bool.false_ne_true
  | some fd =>
    cases subject with
    | none => exact absurd (hpaired.mp rfl) Bool.false_ne_true
    | some subject => rfl

/-- The consistent bindings are those that store a `Binding`. -/
theorem consistent_iff {s : StoredBinding} : s.Consistent ↔ ∃ b : Binding, b.stored = s := by
  constructor
  · intro h
    exact ⟨s.shown, stored_shown h⟩
  · rintro ⟨b, rfl⟩
    exact consistent_stored b

end StoredBinding

/-! ### Operations -/

namespace Binding

variable (b : Binding) (subject : Subject)

theorem openFor_stored :
    b.stored.openFor subject = Prod.map id stored <$> b.openFor subject := by
  obtain ⟨kind, held⟩ := b
  cases held with
  | some d => rfl
  | none =>
    show (Meter.openCounter kind.attr subject.pid >>= _) =
      Prod.map id stored <$> (Meter.openCounter kind.attr subject.pid >>= _)
    rw [map_bind]
    refine bind_congr fun reply => ?_
    cases reply with
    | done fd => rfl
    | failed errno => rfl

/-- To close the fields is to give the held descriptor back. -/
theorem release_stored : b.stored.close = stored <$> b.release := by
  obtain ⟨kind, held⟩ := b
  cases held with
  | none => rfl
  | some d => rfl

theorem reopenFor_stored :
    b.stored.reopenFor subject = Prod.map id stored <$> b.reopenFor subject := by
  rw [StoredBinding.reopenFor, release_stored, reopenFor, map_bind, bind_map_left]
  exact bind_congr fun b => b.openFor_stored subject

theorem isOpen_stored : b.stored.isOpen = b.isOpen := Option.isSome_map

theorem requireFd_stored : b.stored.requireFd = b.requireFd := by
  obtain ⟨kind, held⟩ := b
  cases held with
  | none => rfl
  | some d => rfl

theorem reset_stored : b.stored.reset = b.reset := by
  rw [StoredBinding.reset, requireFd_stored, reset]

theorem start_stored : b.stored.start = b.start := by
  rw [StoredBinding.start, requireFd_stored, start]

theorem stop_stored : b.stored.stop = b.stop := by
  rw [StoredBinding.stop, requireFd_stored, stop]

theorem read_stored : b.stored.read = b.read := by
  rw [StoredBinding.read, requireFd_stored, read]

end Binding

namespace Counter

variable (c : Counter)

/-- The fields in which a counter is stored. -/
def stored (c : Counter) : StoredCounter where
  kind := c.kind
  inner := c.binding.stored

theorem quiet_stored (kind : Kind) : (quiet kind).stored = .quiet kind := rfl

/-- An operation on the binding of a counter is one on the counter, if it keeps the kind. -/
theorem withInner_stored {m : Meter (Except Error Fd × Binding)}
    (h : ∀ k, (m k).value.2.kind = c.kind) :
    c.stored.withInner <$> Prod.map id Binding.stored <$> m =
      Prod.map id stored <$> ofBinding <$> m := by
  funext k
  have hkind := h k
  rcases hm : m k with ⟨⟨result, b⟩, k', es⟩
  rw [hm] at hkind
  have hvalue : c.stored.withInner (Prod.map id Binding.stored (result, b)) =
      Prod.map id stored (ofBinding (result, b)) :=
    Prod.ext rfl (congrArg (StoredCounter.mk · b.stored) hkind.symm)
  rw [Meter.run_map (Meter.run_map hm _) _, Meter.run_map (Meter.run_map hm _) _, hvalue]

theorem openHere_stored : c.stored.openHere = Prod.map id stored <$> c.openHere := by
  rw [StoredCounter.openHere, openHere, ← c.withInner_stored (c.binding.kind_openFor .caller),
    ← c.binding.openFor_stored]
  rfl

theorem reopen_stored (pid : Pid) : c.stored.reopen pid = Prod.map id stored <$> c.reopen pid := by
  rw [StoredCounter.reopen, reopen, ← c.withInner_stored (c.binding.kind_reopenFor (.process pid)),
    ← c.binding.reopenFor_stored]
  rfl

theorem reopenHere_stored : c.stored.reopenHere = Prod.map id stored <$> c.reopenHere := by
  rw [StoredCounter.reopenHere, reopenHere, ← c.withInner_stored (c.binding.kind_reopenFor .caller),
    ← c.binding.reopenFor_stored]
  rfl

theorem start_stored : c.stored.start = c.start := c.binding.start_stored

theorem stop_stored : c.stored.stop = c.stop := c.binding.stop_stored

theorem read_stored : c.stored.read = c.read := c.binding.read_stored

theorem retrieve_stored : c.stored.retrieve = c.retrieve := by
  rw [StoredCounter.retrieve, retrieve, ← read_stored]
  rfl

theorem measure_stored (work : Workload) : c.stored.measure work = c.measure work := by
  rw [StoredCounter.measure, measure, start_stored, stop_stored, read_stored]

end Counter

/-! ### Uses -/

section

variable {α β : Type} (f : α → β)

theorem keeping_map (x : α) (action : Trial Value) :
    keeping (f x) action = Prod.map id f <$> keeping x action := by
  rw [keeping, keeping, map_bind]
  rfl

theorem answering_map {γ : Type} (answer : γ → Value) (m : Meter (Except Error γ × α)) :
    answering answer <$> Prod.map id f <$> m = Prod.map id f <$> answering answer <$> m := by
  rw [Functor.map_map, Functor.map_map]
  congr 1
  funext ⟨result, x⟩
  cases result with
  | ok a => rfl
  | error e => rfl

end

/-- An operation of a stored binding. -/
def BindingOperation.performStored (b : StoredBinding) :
    BindingOperation → Meter (Acted StoredBinding)
  | openFor subject => answering .fd <$> b.openFor subject
  | reopenFor subject => answering .fd <$> b.reopenFor subject
  | reset => keeping b do
    b.reset
    return .nothing
  | start => keeping b do
    b.start
    return .nothing
  | stop => keeping b do
    b.stop
    return .nothing
  | read => keeping b do return .count (← b.read)
  | config => keeping b do return .binding b.shown

/-- An operation of a stored counter. -/
def CounterOperation.performStored (c : StoredCounter) :
    CounterOperation → Meter (Acted StoredCounter)
  | openHere => answering (fun _ => .nothing) <$> c.openHere
  | reopen pid => answering (fun _ => .nothing) <$> c.reopen pid
  | reopenHere => answering (fun _ => .nothing) <$> c.reopenHere
  | start => keeping c do
    c.start
    return .nothing
  | stop => keeping c do
    c.stop
    return .nothing
  | read => keeping c do return .count (← c.read)
  | retrieve => keeping c do return .count (← c.retrieve)
  | measure work => keeping c do return .count (← c.measure work)
  | kind => keeping c do return .kind c.kind

theorem BindingOperation.perform_stored (b : Binding) (operation : BindingOperation) :
    operation.performStored b.stored = Prod.map id Binding.stored <$> operation.perform b := by
  cases operation with
  | openFor subject => rw [performStored, b.openFor_stored, answering_map]; rfl
  | reopenFor subject => rw [performStored, b.reopenFor_stored, answering_map]; rfl
  | reset => rw [performStored, b.reset_stored, keeping_map]; rfl
  | start => rw [performStored, b.start_stored, keeping_map]; rfl
  | stop => rw [performStored, b.stop_stored, keeping_map]; rfl
  | read => rw [performStored, b.read_stored, keeping_map]; rfl
  | config => rw [performStored, StoredBinding.shown_stored, keeping_map]; rfl

theorem CounterOperation.perform_stored (c : Counter) (operation : CounterOperation) :
    operation.performStored c.stored = Prod.map id Counter.stored <$> operation.perform c := by
  cases operation with
  | openHere => rw [performStored, c.openHere_stored, answering_map]; rfl
  | reopen pid => rw [performStored, c.reopen_stored, answering_map]; rfl
  | reopenHere => rw [performStored, c.reopenHere_stored, answering_map]; rfl
  | start => rw [performStored, c.start_stored, keeping_map]; rfl
  | stop => rw [performStored, c.stop_stored, keeping_map]; rfl
  | read => rw [performStored, c.read_stored, keeping_map]; rfl
  | retrieve => rw [performStored, c.retrieve_stored, keeping_map]; rfl
  | measure work => rw [performStored, c.measure_stored, keeping_map]; rfl
  | kind => rw [performStored, keeping_map]; rfl

namespace Handling

/-- A use of a stored binding. -/
def performStored (b : StoredBinding) : Handling → Meter (Acted StoredBinding)
  | direct operation => operation.performStored b
  | through operation => do
    let (result, c) ← operation.performStored ⟨b.kind, b⟩
    return (result, c.inner)

/-- A use of the fields of a binding is a use of the binding. -/
theorem perform_stored (b : Binding) (h : Handling) :
    h.performStored b.stored = Prod.map id Binding.stored <$> h.perform b := by
  cases h with
  | direct operation => exact operation.perform_stored b
  | through operation =>
    have hcounter := operation.perform_stored ⟨b⟩
    rw [perform, map_bind]
    refine (congrArg (· >>= _) hcounter).trans ?_
    rw [bind_map_left]
    rfl

/-- A use of a consistent binding leaves a consistent one. -/
theorem consistent_performStored {s : StoredBinding} (hs : s.Consistent) (h : Handling)
    (k : Kernel) : ((h.performStored s) k).value.2.Consistent := by
  obtain ⟨b, rfl⟩ := StoredBinding.consistent_iff.mp hs
  rw [perform_stored]
  exact StoredBinding.consistent_stored _

end Handling

/-- A stored binding in use. -/
structure StoredUsage where
  binding : StoredBinding
  kernel : Kernel
  past : List Episode := []

namespace StoredUsage

/-- What one more use leaves. -/
def step (s : StoredUsage) (h : Handling) : StoredUsage :=
  let ran := (h.performStored s.binding).run s.kernel
  ⟨ran.value.2, ran.kernel, s.past ++ [⟨h, ran.trace⟩]⟩

/-- A stored binding after some uses, from the time when it was made. -/
def reached (event : Event) (domain : Domain) (k : Kernel) (handlings : List Handling) :
    StoredUsage :=
  handlings.foldl step { binding := .create event domain, kernel := k }

/-- A binding in use, field by field. -/
def ofUsage (s : Usage) : StoredUsage := ⟨s.binding.stored, s.kernel, s.past⟩

theorem step_ofUsage (s : Usage) (h : Handling) : (ofUsage s).step h = ofUsage (s.step h) := by
  have hrun : (h.performStored s.binding.stored).run s.kernel =
      ⟨Prod.map id Binding.stored (s.run h).value, (s.run h).kernel, (s.run h).trace⟩ := by
    rw [Handling.perform_stored]
    exact Meter.run_map rfl _
  rw [step, ofUsage, hrun]
  rfl

/-- The fields of a binding after any uses are those of the `Binding` after the same uses. -/
theorem reached_eq (event : Event) (domain : Domain) (k : Kernel) (handlings : List Handling) :
    reached event domain k handlings = ofUsage (Usage.reached ⟨event, domain⟩ k handlings) := by
  rw [Usage.reached, ← List.foldl_hom ofUsage step_ofUsage]
  rfl

/-- After any uses, the fields of a binding are consistent and still of the event and the domain it
was made with, and a descriptor in them is the last that was granted, with the subject for which it
was granted. -/
theorem fields_follow_history (event : Event) (domain : Domain) (k : Kernel)
    (handlings : List Handling) :
    let s := reached event domain k handlings
    s.binding.Consistent ∧ s.binding.event = event ∧ s.binding.domain = domain ∧
      ∀ fd, s.binding.fd = some fd → ∃ subject, s.binding.subject = some subject ∧
        (s.past.filterMap Episode.grant?).getLast? = some ⟨fd, subject⟩ := by
  intro s
  have hs : s = ofUsage (Usage.reached ⟨event, domain⟩ k handlings) :=
    reached_eq event domain k handlings
  obtain ⟨hkind, hheld, -⟩ := Usage.sound_reached ⟨event, domain⟩ k handlings
  rw [hs]
  refine ⟨StoredBinding.consistent_stored _, congrArg Kind.event hkind, congrArg Kind.domain hkind,
    fun fd hfd => ?_⟩
  obtain ⟨d, hd, rfl⟩ := Option.map_eq_some_iff.mp hfd
  exact ⟨d.subject, congrArg (Option.map Descriptor.subject) hd, hheld d hd⟩

end StoredUsage

end TrialMeter
