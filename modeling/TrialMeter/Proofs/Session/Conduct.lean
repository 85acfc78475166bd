import TrialMeter.Command.Compare.Work
import TrialMeter.Command.TimeOne.Work
import TrialMeter.Proofs.Trace.Conduct

/-!
# The conduct of sessions and commands

An audit that tends children goes along with every operation of a session that brings its own
children home, and so with a whole session of them and with both commands. Three operations are left
to the single audit: a bare reset, which opens a counting window that nothing fills, and a bare
start of a child and a bare wait, which hand a child over to their caller and take one back.

## Main definitions

* `Operation.isReset`, `Operation.sharesChild`: the operations that are left out.

## Main results

* `Audit.Tends.operation`: one operation.
* `Audit.Preserves.session`: a session of operations that keep the state of an audit.
* `Audit.Tends.compare`, `Audit.Tends.timeOne`: whole runs of the two commands.
-/

namespace TrialMeter

/-- Sets the count of a binding to zero, and does not start it. -/
def Operation.isReset : Operation → Bool
  | binding _ .reset => true
  | _ => false

/-- Starts a child that its caller has to wait for, or waits for such a child. -/
def Operation.sharesChild : Operation → Bool
  | spawn .. | wait _ => true
  | _ => false

theorem Operation.eq_of_isReset {operation : Operation} (h : operation.isReset = true) :
    ∃ slot, operation = .binding slot .reset := by
  unfold isReset at h
  split at h
  · exact ⟨_, rfl⟩
  · exact absurd h nofun

/-- What holds of the traces of all operations, and passes to traces that are joined, holds of the
trace of a session. -/
theorem Session.trace_induction {motive : List Entry → Prop} (nil : motive [])
    (append : ∀ t₁ t₂, motive t₁ → motive t₂ → motive (t₁ ++ t₂)) {operations : List Operation}
    (h : ∀ operation ∈ operations, ∀ store k, motive (operation.perform store k).trace)
    (store : Store) (k : Kernel) : motive (Session.run store operations k).trace := by
  induction operations generalizing store k with
  | nil => exact nil
  | cons operation operations ih =>
    have hrest := ih fun o ho => h o (List.mem_cons_of_mem operation ho)
    exact append _ _ (h operation List.mem_cons_self store k) (append _ _ (hrest _ _) nil)

namespace Audit

variable {σ α β : Type} {A : Audit σ} {s : σ}

/-! ### Parts of operations -/

namespace Preserves

theorem keeping {action : Trial Value} (h : A.Preserves s action.run) (x : α) :
    A.Preserves s (keeping x action) :=
  h.bind fun _ => pure _

/-- An attempt, followed by an answer. -/
theorem answer {attempt : Attempt α} (h : A.Preserves s attempt.run) (answer : α → Value) :
    A.Preserves s (do return answer (← attempt) : Trial Value).run :=
  h.attemptBind (fun _ => exceptPure _) fun _ => rfl

/-- What cannot be refused, followed by an answer. -/
theorem answerLift {m : Meter α} (h : A.Preserves s m) (answer : α → Value) :
    A.Preserves s (do return answer (← m) : Trial Value).run :=
  h.liftBind fun _ => exceptPure _

/-- Arithmetic, followed by an answer. -/
theorem answerExcept (r : Except Fault α) (answer : α → Value) :
    A.Preserves s (do return answer (← r) : Trial Value).run :=
  (ofExcept r).exceptBind (fun _ => exceptPure _) fun _ => rfl

theorem apart {action : Trial Value} (h : A.Preserves s action.run) (store : Store) :
    A.Preserves s (apart store action) :=
  h.bind fun _ => pure _

theorem act {select : Object → Option α} {wrap : α → Object} {action : α → Meter (Acted α)}
    (h : ∀ x, A.Preserves s (action x)) (store : Store) (slot : Slot) :
    A.Preserves s (store.act slot select wrap action) := by
  unfold Store.act
  split
  · rename_i x _
    exact (h x).bind fun _ => pure _
  · exact pure _

/-- A session of operations that keep the state of an audit keeps it. -/
theorem session {operations : List Operation}
    (h : ∀ operation ∈ operations, ∀ store, A.Preserves s (operation.perform store))
    (store : Store) : A.Preserves s (Session.run store operations) := by
  induction operations generalizing store with
  | nil => exact pure _
  | cons operation operations ih =>
    have hrest := ih fun o ho => h o (List.mem_cons_of_mem operation ho)
    exact (h operation List.mem_cons_self store).bind fun r => (hrest r.2).bind fun _ => pure _

end Preserves

/-! ### Operations on objects -/

namespace AtRest

variable (h : A.AtRest s)

include h

theorem clockOperation (c : IntervalClock) (operation : ClockOperation) :
    A.Preserves s (operation.perform c) := by
  cases operation with
  | start => exact (h.startClock c).map _
  | stop => exact (h.stopClock c).map _
  | now => exact ((h.now c.source).answer _).keeping c
  | source => exact (Preserves.exceptPure _).keeping c
  | elapsed r => exact (Preserves.answerExcept _ _).keeping c
  | elapsedTo t r => exact (Preserves.answerExcept _ _).keeping c

theorem stopwatchOperation (w : Stopwatch) (operation : StopwatchOperation) :
    A.Preserves s (operation.perform w) := by
  cases operation with
  | start => exact (preserves_of_within (Stopwatch.within_start (h.clock _))).map _
  | lap => exact (preserves_of_within (Stopwatch.within_lap (h.clock _))).map _
  | elapsed =>
    refine Preserves.keeping ((Preserves.ofExcept _).exceptBind (fun t => ?_) fun _ => rfl) w
    cases t with
    | some t => exact Preserves.exceptPure _
    | none => exact Preserves.exceptPure _
  | measure work =>
    have hmeasure : A.Preserves s (w.measure work) :=
      preserves_of_within (Stopwatch.within_measure (h.clock _) (h.work work))
    exact hmeasure.bind fun _ => Preserves.pure _

theorem bindingOperation (b : Binding) {operation : BindingOperation} (hne : operation ≠ .reset) :
    A.Preserves s (operation.perform b) := by
  cases operation with
  | openFor subject => exact (h.openFor b subject).map _
  | reopenFor subject => exact (h.reopenFor b subject).map _
  | reset => exact absurd rfl hne
  | start => exact ((h.start b).answer _).keeping b
  | stop => exact ((h.stop b).answer _).keeping b
  | read => exact ((h.readCount b).answer _).keeping b
  | config => exact (Preserves.exceptPure _).keeping b

theorem counterOperation (c : Counter) (operation : CounterOperation) :
    A.Preserves s (operation.perform c) := by
  cases operation with
  | openHere => exact (h.openHere c).map _
  | reopen pid => exact (h.reopen c pid).map _
  | reopenHere => exact (h.reopenHere c).map _
  | start => exact ((h.start c.binding).answer _).keeping c
  | stop => exact ((h.stop c.binding).answer _).keeping c
  | read => exact ((h.readCount c.binding).answer _).keeping c
  | retrieve => exact ((h.retrieve c).answerLift _).keeping c
  | measure work => exact ((h.measure c work).answer _).keeping c
  | kind => exact (Preserves.exceptPure _).keeping c

theorem groupOperation (g : Group Counter) (operation : GroupOperation) :
    A.Preserves s (operation.perform g) := by
  cases operation with
  | drive d => exact (h.drive g d).map _
  | retrieve kind => exact ((h.retrieveKind g kind).answerLift _).keeping g
  | get kind =>
    refine Preserves.keeping ?_ g
    cases g.get kind with
    | some c => exact Preserves.exceptPure _
    | none => exact Preserves.exceptPure _
  | kinds => exact (Preserves.exceptPure _).keeping g
  | record name time => exact ((h.record g name time).answerLift _).keeping g

/-! ### Stores -/

theorem releaseObject (o : Object) : A.Preserves s o.release := by
  cases o with
  | binding b => exact (h.release b).map _
  | counter c => exact (h.giveBack c).map _
  | group g => exact h.releaseAll g.members
  | _ => exact Preserves.pure _

theorem releaseSlot (store : Store) (slot : Slot) : A.Preserves s (store.release slot) := by
  unfold Store.release
  cases store.get slot with
  | some o => exact h.releaseObject o
  | none => exact Preserves.pure _

theorem make (b : Blueprint) : A.Preserves s b.make.run := by
  cases b with
  | systemClock source => exact (h.createClock source).exceptMap _
  | wallClock source => exact (h.createClock source).exceptMap _
  | stopwatch source =>
    exact (preserves_of_within (Stopwatch.within_create (h.clock source))).exceptMap _
  | binding kind => exact Preserves.exceptPure _
  | built builder => exact Preserves.exceptPure _
  | finished builder => exact (h.finish builder).exceptMap _
  | counter kind => exact (h.create kind).exceptMap _
  | quietCounter kind => exact Preserves.exceptPure _
  | group kinds => exact (h.createGroup kinds).exceptMap _
  | quietGroup kinds => exact Preserves.exceptMap (Preserves.pure _) _

theorem placing {attempt : Attempt Object} (hattempt : A.Preserves s attempt.run) (store : Store)
    (slot : Slot) : A.Preserves s (placing store slot attempt) := by
  refine hattempt.bind fun r => ?_
  cases r with
  | ok o => exact (h.releaseSlot store slot).bind fun _ => Preserves.pure _
  | error e => exact Preserves.pure _

end AtRest

/-! ### Sessions and commands -/

namespace Tends

variable {free : σ} {busy : Pid → σ} (h : A.Tends free busy)

include h

theorem operation {operation : Operation} (hreset : operation.isReset = false)
    (hchild : operation.sharesChild = false) (store : Store) :
    A.Preserves free (operation.perform store) := by
  cases operation with
  | now source => exact ((h.rest.now source).answer _).apart store
  | spawn program args => exact absurd hchild nofun
  | spawnAndWait program args => exact ((h.spawnAndWait program args).answer _).apart store
  | wait pid => exact absurd hchild nofun
  | make slot blueprint => exact h.rest.placing (h.rest.make blueprint) store slot
  | gather slot members =>
    rw [Operation.perform]
    cases store.takeCounters members with
    | ok taken => exact h.rest.placing ((h.rest.ofCounters taken.1).exceptMap _) taken.2 slot
    | error slot => exact Preserves.pure _
  | drop slot => exact (h.rest.releaseSlot store slot).bind fun _ => Preserves.pure _
  | systemClock slot operation =>
    exact Preserves.act (fun c => h.rest.clockOperation c operation) store slot
  | wallClock slot operation =>
    exact Preserves.act (fun c => h.rest.clockOperation c operation) store slot
  | stopwatch slot operation =>
    exact Preserves.act (fun w => h.rest.stopwatchOperation w operation) store slot
  | binding slot operation =>
    have hne : operation ≠ .reset := by
      rintro rfl
      exact absurd hreset nofun
    exact Preserves.act (fun b => h.rest.bindingOperation b hne) store slot
  | counter slot operation =>
    exact Preserves.act (fun c => h.rest.counterOperation c operation) store slot
  | group slot operation =>
    exact Preserves.act (fun g => h.rest.groupOperation g operation) store slot
  | trial settings experiment => exact (h.perform settings experiment).apart store

/-! #### Commands -/

section Compare

open Command.Compare

theorem trials (set : Settings) (program : String) (args : List String) (n : ℕ) :
    A.Preserves free (trials set program args n).run := by
  induction n with
  | zero => exact Preserves.exceptPure _
  | succ n ih =>
    exact h.benchmarkProgram.exceptBind
      (fun _ => ih.exceptBind (fun _ => Preserves.exceptPure _) fun _ => rfl) fun _ => rfl

theorem assess (o : Options) (operand : String) : A.Preserves free (assess o operand).run := by
  unfold Command.Compare.assess
  cases Text.words operand with
  | nil => exact Preserves.exceptPure _
  | cons program args =>
    dsimp only
    split
    · exact Preserves.pure _
    · refine (h.trials _ program args o.runs).bind fun r => ?_
      cases r with
      | ok records => exact Preserves.pure _
      | error f =>
        cases f with
        | error e => exact (h.rest.tellLog _ _ _).bind fun _ => Preserves.pure _
        | fault f => exact Preserves.pure _

theorem assessAll (o : Options) (operands : List String) :
    A.Preserves free (assessAll o operands).run := by
  induction operands with
  | nil => exact Preserves.exceptPure _
  | cons operand operands ih =>
    exact (h.assess o operand).exceptBind
      (fun _ => ih.exceptBind (fun _ => Preserves.exceptPure _) fun _ => rfl) fun _ => rfl

theorem compare (o : Options) (operands : List String) :
    A.Preserves free (Command.Compare.work o operands) := by
  refine (h.assessAll o operands).bind fun r => ?_
  cases r with
  | ok records => exact Preserves.pure _
  | error f => exact Preserves.pure _

end Compare

theorem timeOne (r : Resolution) (program : String) (args : List String) :
    A.Preserves free (Command.TimeOne.work r program args) :=
  h.timeProgram.bind fun _ => Preserves.pure _

end Tends

/-- A whole run of a command leaves what its work leaves. -/
theorem check_command {work : α → Meter Verdict} (h : ∀ asked, A.Preserves s (work asked))
    (read : List String → Command.Request α) (gateOf : String → Log.Gate)
    (filterText : Option String) (args : List String) (k : Kernel) :
    A.check s (Command.run work read gateOf filterText args k).trace = some s := by
  unfold Command.run
  cases read args with
  | help text => rfl
  | refused message => rfl
  | run asked =>
    obtain ⟨s', hcheck, rfl⟩ := h asked k
    exact hcheck

end Audit

end TrialMeter
