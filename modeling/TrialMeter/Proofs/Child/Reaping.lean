import TrialMeter.Proofs.Session.Conduct

/-!
# Children are brought home

A child that was started has to be waited for by whoever started it, once, and nobody may wait for
another one. In a trace this is a law of accounts: at any point the children that were started are
those that were reaped, in the same order, and at most one more, which is the only one that can be
waited for. An audit that remembers the child that is left goes through every computation that
brings its own children home, and at the end of each none is left: neither after a clock that fails
behind the start, nor after counters that are refused, a wait that fails, or a fault of the
arithmetic.

## Main definitions

* `started`, `reaped`: the children of a trace that were started and reaped.
* `Attended`: a trace that brings its children home.

## Main results

* `started_eq_of_check`: the account of an audited trace.
* `Session.children_attended`: sessions and commands.
-/

namespace TrialMeter

/-- The child that an entry starts. -/
def Entry.started? : Entry → Option Pid
  | .child _ _ (.done pid) => some pid
  | _ => none

/-- The child that an entry reaps. A wait is over when it is answered by anything but an
interruption. -/
def Entry.reaped? : Entry → Option Pid
  | .wait pid _ reply => if reply = .failed .interrupted then none else some pid
  | _ => none

/-- The children that a trace starts, in order. -/
def started (trace : List Entry) : List Pid := trace.filterMap Entry.started?

/-- The children that a trace reaps, in order. -/
def reaped (trace : List Entry) : List Pid := trace.filterMap Entry.reaped?

/-- A trace that brings its children home. -/
structure Attended (trace : List Entry) : Prop where
  /-- The children that are reaped are those that are started, in the same order. -/
  reaped_eq : reaped trace = started trace
  /-- A child is started when all those before it are reaped. -/
  none_left : ∀ before path argv pid after,
    trace = before ++ .child path argv (.done pid) :: after → reaped before = started before
  /-- A wait, interrupted or not, is for the child that was started last and is not yet reaped; all
  those before it are. -/
  own : ∀ before pid options reply after,
    trace = before ++ .wait pid options reply :: after → started before = reaped before ++ [pid]

/-- Remembers the child that is left, and objects to a second one and to waits for any other. -/
def childAudit : Audit (Option Pid) where
  step left
    | .child _ _ (.done pid) => if left = none then some (some pid) else none
    | .wait pid _ reply =>
      if left = some pid then some (if reply = .failed .interrupted then left else none) else none
    | _ => some left

section Audit

variable {left left' : Option Pid} {trace : List Entry}

/-- An entry that passes starts a child where none is left, reaps the one that is left, or does
neither. -/
theorem childAudit_step_cases {e : Entry} (h : childAudit.step left e = some left') :
    (∃ pid, e.started? = some pid ∧ e.reaped? = none ∧ left = none ∧ left' = some pid) ∨
    (∃ pid, e.started? = none ∧ e.reaped? = some pid ∧ left = some pid ∧ left' = none) ∨
    (e.started? = none ∧ e.reaped? = none ∧ left' = left) := by
  cases e with
  | child path argv reply =>
    cases reply with
    | done pid =>
      obtain ⟨hleft, hstep⟩ := Option.ite_none_right_eq_some.mp h
      exact .inl ⟨pid, rfl, rfl, hleft, (Option.some.inj hstep).symm⟩
    | failed errno => exact .inr (.inr ⟨rfl, rfl, (Option.some.inj h).symm⟩)
  | wait pid options reply =>
    obtain ⟨hleft, hstep⟩ := Option.ite_none_right_eq_some.mp h
    rw [Option.some.injEq] at hstep
    by_cases hreply : reply = .failed .interrupted
    · rw [if_pos hreply] at hstep
      exact .inr (.inr ⟨rfl, if_pos hreply, hstep.symm⟩)
    · rw [if_neg hreply] at hstep
      exact .inr (.inl ⟨pid, rfl, if_neg hreply, hleft, hstep.symm⟩)
  | _ => exact .inr (.inr ⟨rfl, rfl, (Option.some.inj h).symm⟩)

/-- The account of a trace: the child that was left and those that are started are those that are
reaped and the one that is left. -/
theorem started_eq_of_check (h : childAudit.check left trace = some left') :
    left.toList ++ started trace = reaped trace ++ left'.toList := by
  induction trace generalizing left with
  | nil =>
    obtain rfl : left = left' := Option.some.inj h
    exact List.append_nil _
  | cons e trace ih =>
    obtain ⟨mid, hstep, hrest⟩ := Option.bind_eq_some_iff.mp h
    have hacc := ih hrest
    rcases childAudit_step_cases hstep with
      ⟨pid, hs, hr, rfl, rfl⟩ | ⟨pid, hs, hr, rfl, rfl⟩ | ⟨hs, hr, rfl⟩
    · rw [started, List.filterMap_cons_some hs, reaped, List.filterMap_cons_none hr]
      exact hacc
    · rw [started, List.filterMap_cons_none hs, reaped, List.filterMap_cons_some hr]
      exact congrArg (pid :: ·) hacc
    · rw [started, List.filterMap_cons_none hs, reaped, List.filterMap_cons_none hr]
      exact hacc

/-- A trace that begins and ends with no child left brings its children home. -/
theorem attended_of_check (h : childAudit.check none trace = some none) : Attended trace := by
  -- Where an entry passes, the account of the entries before it says what is left.
  have hsplit : ∀ before e after, trace = before ++ e :: after →
      ∃ left left', started before = reaped before ++ left.toList ∧
        childAudit.step left e = some left' := by
    rintro before e after rfl
    rw [Audit.check_append] at h
    obtain ⟨left, hbefore, hafter⟩ := Option.bind_eq_some_iff.mp h
    obtain ⟨left', hstep, -⟩ := Option.bind_eq_some_iff.mp hafter
    exact ⟨left, left', started_eq_of_check hbefore, hstep⟩
  refine ⟨?_, ?_, ?_⟩
  · have hacc := started_eq_of_check h
    simpa using hacc.symm
  · intro before path argv pid after heq
    obtain ⟨left, left', hacc, hstep⟩ := hsplit before _ after heq
    have hleft : left = none := (Option.ite_none_right_eq_some.mp hstep).1
    simpa [hleft] using hacc.symm
  · intro before pid options reply after heq
    obtain ⟨left, left', hacc, hstep⟩ := hsplit before _ after heq
    have hleft : left = some pid := (Option.ite_none_right_eq_some.mp hstep).1
    simpa [hleft] using hacc

end Audit

/-- Whether or not a child is left, the audit of children keeps its state over counters. -/
theorem childAudit_atRest (left : Option Pid) : childAudit.AtRest left where
  clock _ _ := rfl
  counter _ _ _ := rfl
  disable _ _ := rfl
  refused _ _ := rfl
  window _ _ := rfl
  read _ _ := rfl
  close _ := rfl
  work _ := rfl
  log _ := rfl

theorem childAudit_tends : childAudit.Tends none some where
  rest := childAudit_atRest none
  rest_busy pid := childAudit_atRest (some pid)
  childAttr _ := rfl
  refused _ _ _ := rfl
  started _ _ _ := rfl
  interrupted _ := (if_pos rfl).trans (congrArg some (if_pos rfl))
  reaped _ _ hreply := (if_pos rfl).trans (congrArg some (if_neg hreply))

/-- A single reset has nothing to do with children. -/
theorem childAudit_reset (b : Binding) : childAudit.Preserves none b.reset.run :=
  Audit.preserves_of_within (Binding.within_reset fun _ _ => ⟨fun _ _ => rfl, fun _ => rfl⟩)

/-- Every operation that shares no child leaves none. -/
theorem Operation.childAudit_perform {operation : Operation} (h : operation.sharesChild = false)
    (store : Store) : childAudit.Preserves none (operation.perform store) := by
  cases hreset : operation.isReset with
  | false => exact childAudit_tends.operation hreset h store
  | true =>
    obtain ⟨slot, rfl⟩ := operation.eq_of_isReset hreset
    exact Audit.Preserves.act (fun b => ((childAudit_reset b).answer _).keeping b) store slot

/-- What leaves no child leaves a trace that brings its children home. -/
theorem attended_of_preserves {α : Type} {m : Meter α} (h : childAudit.Preserves none m)
    (k : Kernel) : Attended (m k).trace := by
  obtain ⟨left, hcheck, rfl⟩ := h k
  exact attended_of_check hcheck

/-- **No child is left, and none is waited for twice.** Whatever the kernel answers, and however
the operations end, a session of operations that share no child with their caller brings its
children home: the children that are reaped are those that are started, in the same order; each is
reaped before the next one is started, and nobody else is waited for. So does each of these
operations by itself, which are all trials, with or without a child, and everything that is done to
counters; and so does each run of a command, whatever the command line and however it is read. -/
theorem Session.children_attended (operations : List Operation)
    (h : ∀ operation ∈ operations, operation.sharesChild = false) (store : Store) (k : Kernel) :
    Attended (Session.run store operations k).trace ∧
    (∀ operation ∈ operations, ∀ store k, Attended (operation.perform store k).trace) ∧
    (∀ read gateOf filterText args,
      Attended (Command.Compare.run read gateOf filterText args k).trace) ∧
    ∀ read gateOf filterText args,
      Attended (Command.TimeOne.run read gateOf filterText args k).trace := by
  have hperform : ∀ operation ∈ operations, ∀ store,
      childAudit.Preserves none (operation.perform store) :=
    fun operation hmem => operation.childAudit_perform (h operation hmem)
  refine ⟨?_, ?_, ?_, ?_⟩
  · exact attended_of_preserves (Audit.Preserves.session hperform store) k
  · exact fun operation hmem store => attended_of_preserves (hperform operation hmem store)
  · exact fun read gateOf filterText args => attended_of_check <|
      Audit.check_command (fun (o, operands) => childAudit_tends.compare o operands)
        read gateOf filterText args k
  · exact fun read gateOf filterText args => attended_of_check <|
      Audit.check_command (fun (r, program, args) => childAudit_tends.timeOne r program args)
        read gateOf filterText args k

/-- Interrupted waits, a wait that fails, a clock that fails behind the start of a child, a child
that is refused and a battery that is refused: the three children that were started are reaped. -/
theorem Session.children_attended_after_failures :
    let k : Kernel := {
      script := {
        children := [.done 7, .done 8, .failed ⟨2⟩, .done 7]
        waits := [.failed .interrupted, .failed .interrupted, .done {}, .failed ⟨10⟩]
        clocks := [.done {}, .done {}, .done {}, .done {}, .failed ⟨22⟩]
        counters := [.failed .accessDenied, .done (), .failed .accessDenied] }
      descriptor := (· + 3)
      newPid := fun n => n }
    let operations : List Operation := [
      .trial {} (.benchmarkProgram "/a" []), .trial {} (.benchmarkProgram "/b" []),
      .spawnAndWait "/c" [], .trial {} (.countProgram .cycles "/d" [])]
    let trace := (Session.run {} operations k).trace
    Attended trace ∧ reaped trace = [7, 8, 7] := by
  intro k operations trace
  obtain ⟨hattended, -⟩ := Session.children_attended operations (by decide) {} k
  refine ⟨hattended, ?_⟩
  rw [hattended.reaped_eq]
  decide +kernel

end TrialMeter
