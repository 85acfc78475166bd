import TrialMeter.Child.Basic
import TrialMeter.Proofs.Kernel.Exact
import TrialMeter.Proofs.Trace.Calls

/-!
# The end of a child

A child is waited for until the kernel answers with anything but an interruption. Which answer that
is can be told beforehand: it stands behind the interruptions in front of the answers that are left,
and it is a success when there are no more of these. The wait makes one request for each answer up
to this one and leaves all the others where they are; the answer is its result, be it the status of
the child or a failure.

## Main definitions

* `Child.farewell`: what the log says about the end of a child.
* `Child.AnsweredBehind`: a wait that is interrupted a number of times.

## Main results

* `Child.wait_after`: a wait in the middle of a run.
* `Child.wait_answeredBehind`: every wait.
-/

namespace TrialMeter.Child

/-- The line that a wait for `pid` logs at its end. A failure is left to whoever waits. -/
def farewell (pid : Pid) : Reply WaitStatus → List Entry
  | .done status =>
    [.log ⟨.debug, .child, "pid " ++ toString pid ++ " exited with " ++ status.text⟩]
  | .failed _ => []

theorem calls_farewell (pid : Pid) (reply : Reply WaitStatus) :
    calls (farewell pid reply) = [] := by
  cases reply with
  | done status => rfl
  | failed errno => rfl

/-- A wait for `pid` on the kernel `k` that is answered behind `n` interruptions. -/
structure AnsweredBehind (n : ℕ) (pid : Pid) (k : Kernel) (run : Ran (Except Error WaitStatus)) :
    Prop where
  /-- The first `n` answers are interruptions. -/
  interrupted : ∀ i < n, k.waitAt i = .failed .interrupted
  /-- The answer behind them is none. -/
  answered : k.waitAt n ≠ .failed .interrupted
  /-- There is one request for each of these answers, for `pid` and with no options, and there are
  no other entries but the farewell. -/
  trace_eq : run.trace = List.replicate n (.wait pid 0 (.failed .interrupted)) ++
    .wait pid 0 (k.waitAt n) :: farewell pid (k.waitAt n)
  /-- The last of the answers is the result, as a status or as the number of a failure. -/
  value_eq : run.value = (k.waitAt n).result (.waiting pid)
  /-- No answer behind the last one is used up, and nothing else of the kernel. -/
  kernel_eq : run.kernel = { k with script.waits := k.script.waits.drop (n + 1) }
  /-- What is followed by another call is an interrupted one. -/
  retried : ∀ before e e' after, calls run.trace = before ++ e :: e' :: after →
    e = .wait pid 0 (.failed .interrupted)
  /-- No interruption is reported. -/
  unreported : ∀ other, run.value ≠ .error (.waiting other (.os .interrupted))

/-- A wait in the middle of a run. -/
theorem wait_after (k : Kernel) (u : Spent) (pid : Pid) :
    (wait pid).run (k.after u) = ⟨(k.waited u.waits).result (.waiting pid),
      k.after { u with waits := u.waits + (k.interruptions u.waits + 1) },
      k.waitCalls pid u.waits ++ farewell pid (k.waited u.waits)⟩ := by
  have hreply : (Attempt.ofReply (Meter.wait pid) (.waiting pid)).run (k.after u) = _ :=
    Meter.run_ofReply (Meter.wait_after k u pid)
  cases h : k.waited u.waits with
  | done status =>
    rw [h] at hreply
    exact Meter.run_ok hreply rfl
  | failed e =>
    rw [h] at hreply
    rw [farewell, List.append_nil]
    exact Meter.run_stop hreply

/-- The whole wait. -/
theorem wait_run (pid : Pid) (k : Kernel) :
    (wait pid).run k = ⟨(k.waited 0).result (.waiting pid),
      { k with script.waits := k.script.waits.drop (k.interruptions 0 + 1) },
      k.waitCalls pid 0 ++ farewell pid (k.waited 0)⟩ := by
  have hrun := wait_after k {} pid
  rw [Nat.zero_add] at hrun
  exact hrun

/-- **A wait ends with the first answer that is no interruption.** Whatever a computation does
that asks the kernel once and starts over after an interruption, it is `Meter.wait`; and on every
kernel a wait for `pid` makes one request more than there are interruptions in front of its answers,
all of them for `pid` and with no options. The answer behind these interruptions is the result: the
status as it is, or a failure with `pid` and the number that the kernel gave. So nothing but an
interruption is asked again, no interruption is reported, and no answer behind is used up. -/
theorem wait_answeredBehind (pid : Pid) (k : Kernel) :
    (∀ m, Meter.WaitsInLoop pid m ↔ m = Meter.wait pid) ∧
      AnsweredBehind (k.interruptions 0) pid k ((wait pid).run k) := by
  refine ⟨fun m => Meter.WaitsInLoop.iff_eq_wait, ?_⟩
  have hanswer : k.waited 0 = k.waitAt (k.interruptions 0) := congrArg k.waitAt (Nat.zero_add _)
  have hanswered := k.waited_ne_interrupted 0
  rw [wait_run]
  refine ⟨fun i hi => ?_, hanswer ▸ hanswered, ?_, ?_, rfl, ?_, ?_⟩
  · rw [← Nat.zero_add i]
    exact k.waitAt_of_lt_interruptions hi
  · rw [Kernel.waitCalls, hanswer, List.append_assoc]
    rfl
  · rw [hanswer]
  · intro before e e' after h
    rw [calls_append, calls_farewell, List.append_nil, (k.mute_waitCalls pid 0).calls_eq] at h
    exact k.eq_interrupted_of_waitCalls pid h
  · intro other h
    obtain ⟨errno, hreply, he⟩ := Reply.eq_failed_of_result h
    obtain ⟨-, hcause⟩ := Error.waiting.inj he
    rw [hreply, ← Cause.os.inj hcause] at hanswered
    exact hanswered rfl

/-- Two interruptions are asked again and a failure behind them is not: the status behind it is left
for the next wait. -/
theorem wait_answeredBehind_two :
    let k : Kernel := {
      script := { waits := [.failed .interrupted, .failed .interrupted, .failed ⟨10⟩, .done ⟨256⟩] }
      descriptor := (· + 3)
      newPid := fun n => n }
    let first := (wait 7).run k
    let second := (wait 7).run first.kernel
    first.value = .error (.waiting 7 (.os ⟨10⟩)) ∧
      first.trace = [.wait 7 0 (.failed .interrupted), .wait 7 0 (.failed .interrupted),
        .wait 7 0 (.failed ⟨10⟩)] ∧
      first.kernel.script.waits = [.done ⟨256⟩] ∧
      second.value = .ok ⟨256⟩ ∧ second.kernel.script.waits = [] := by
  intro k first second
  obtain ⟨-, hfirst⟩ := wait_answeredBehind 7 k
  obtain ⟨-, hsecond⟩ := wait_answeredBehind 7 first.kernel
  have hleft : first.kernel.script.waits = [.done ⟨256⟩] :=
    congrArg (fun k => k.script.waits) hfirst.kernel_eq
  refine ⟨hfirst.value_eq, hfirst.trace_eq, hleft, hsecond.value_eq, ?_⟩
  exact congrArg (fun k => k.script.waits) hsecond.kernel_eq

end TrialMeter.Child
