import TrialMeter.Proofs.Kernel.Answers

/-!
# Waiting in a loop

Whoever waits for a child asks the kernel for it, and asks again when the request was interrupted.
This is a loop without a bound of its own: it goes on for as long as the answers are interruptions.
The kernel is left with an answer less by each round, and the answer that follows its script is
none, so a bound that is read off the script is never met. The loop is therefore told by the
equation that it satisfies, and there is only one computation that does; it consumes the
interruptions in front and the answer behind them, and nothing else.

## Main definitions

* `Kernel.waitCalls`: the requests of a wait.
* `Meter.WaitsInLoop`: the equation of the loop.

## Main results

* `Meter.WaitsInLoop.run_interrupted`, `Meter.WaitsInLoop.run_answered`: one round of the loop.
* `Meter.WaitsInLoop.run_after`: the whole loop.
* `Meter.WaitsInLoop.iff_eq_wait`: the loop is `Meter.wait`.
-/

namespace TrialMeter

namespace Kernel

variable (k : Kernel) (pid : Pid)

/-- The waits for a child, from the one on that follows `i` others: those that are interrupted, and
the one that is answered. -/
def waitCalls (i : ℕ) : List Entry :=
  List.replicate (k.interruptions i) (.wait pid 0 (.failed .interrupted)) ++
    [.wait pid 0 (k.waited i)]

theorem waitCalls_of_interrupted {i : ℕ} (h : k.waitAt i = .failed .interrupted) :
    k.waitCalls pid i = .wait pid 0 (.failed .interrupted) :: k.waitCalls pid (i + 1) := by
  rw [waitCalls, k.interruptions_of_interrupted h, k.waited_of_interrupted h]
  rfl

theorem waitCalls_of_answered {i : ℕ} (h : k.waitAt i ≠ .failed .interrupted) :
    k.waitCalls pid i = [.wait pid 0 (k.waitAt i)] := by
  rw [waitCalls, k.interruptions_of_answered h, k.waited_of_answered h]
  rfl

/-- A wait asks for nothing but its child, and with no options. -/
theorem exists_eq_of_mem_waitCalls {e : Entry} {i : ℕ} (he : e ∈ k.waitCalls pid i) :
    ∃ reply, e = .wait pid 0 reply := by
  rcases List.mem_append.mp he with he | he
  · exact ⟨_, List.eq_of_mem_replicate he⟩
  · exact ⟨_, List.mem_singleton.mp he⟩

/-- A request that is followed by another one was interrupted. -/
theorem eq_interrupted_of_waitCalls {e e' : Entry} {before after : List Entry} {i : ℕ}
    (h : k.waitCalls pid i = before ++ e :: e' :: after) :
    e = .wait pid 0 (.failed .interrupted) := by
  have hinit := congrArg List.dropLast h
  rw [waitCalls, List.dropLast_concat,
    List.dropLast_append_of_ne_nil (List.cons_ne_nil _ _)] at hinit
  have hmem : e ∈ List.replicate (k.interruptions i) (.wait pid 0 (.failed .interrupted)) := by
    rw [hinit]
    exact List.mem_append_right _ List.mem_cons_self
  exact List.eq_of_mem_replicate hmem

end Kernel

namespace Meter

variable {k : Kernel} {u : Spent} {pid : Pid} {m : Meter (Reply WaitStatus)}

/-- A computation that waits for the process `pid` in a loop without a bound: it asks once, and an
interruption makes it start over. -/
def WaitsInLoop (pid : Pid) (m : Meter (Reply WaitStatus)) : Prop :=
  m = do
    let reply ← waitOnce pid
    if reply = .failed .interrupted then m else pure reply

theorem waitAtMost_succ (n : ℕ) (pid : Pid) :
    waitAtMost (n + 1) pid = (do
      let reply ← waitOnce pid
      if reply = .failed .interrupted then waitAtMost n pid else pure reply) := by
  rw [waitAtMost]
  congr
  funext reply
  cases reply with
  | done status => rfl
  | failed errno => simp only [Reply.failed.injEq]

/-- Sequences do alike where what follows their first part does. -/
theorem bind_apply_congr {α β : Type} {x : Meter α} {f g : α → Meter β}
    (h : f (x k).value (x k).kernel = g (x k).value (x k).kernel) : (x >>= f) k = (x >>= g) k := by
  rw [bind_apply, bind_apply, h]

/-- The answers that are left are bound enough for the loop: each round uses one up, and the answer
after the script ends it. -/
theorem waitsInLoop_wait (pid : Pid) : WaitsInLoop pid (wait pid) := by
  funext k
  have hwait : wait pid k = waitAtMost k.script.waits.length pid k := rfl
  cases hwaits : k.script.waits with
  | nil =>
    have hended : (waitOnce pid k).value ≠ .failed .interrupted := by simp [waitOnce, hwaits]
    calc wait pid k = waitOnce pid k := by rw [hwait, hwaits]; rfl
      _ = (waitOnce pid >>= pure) k := by rw [bind_pure]
      _ = _ := bind_apply_congr (by rw [if_neg hended])
  | cons reply rest =>
    have hleft : (waitOnce pid k).kernel.script.waits = rest := by simp [waitOnce, hwaits]
    rw [hwait, hwaits, List.length_cons, waitAtMost_succ]
    refine bind_apply_congr ?_
    by_cases h : (waitOnce pid k).value = .failed .interrupted
    · rw [if_pos h, if_pos h, wait, hleft]
    · rw [if_neg h, if_neg h]

namespace WaitsInLoop

/-- One round of the loop that is not the last. -/
theorem run_interrupted (hm : WaitsInLoop pid m) (h : k.waitAt u.waits = .failed .interrupted)
    {r : Reply WaitStatus} {k' : Kernel} {es : List Entry}
    (hrest : m (k.after { u with waits := u.waits + 1 }) = ⟨r, k', es⟩) :
    m (k.after u) = ⟨r, k', .wait pid 0 (.failed .interrupted) :: es⟩ := by
  rw [hm, bind_apply, waitOnce_after, h, if_pos rfl, hrest]
  rfl

/-- The last round of the loop. -/
theorem run_answered (hm : WaitsInLoop pid m) (h : k.waitAt u.waits ≠ .failed .interrupted) :
    m (k.after u) = ⟨k.waitAt u.waits, k.after { u with waits := u.waits + 1 },
      [.wait pid 0 (k.waitAt u.waits)]⟩ := by
  rw [hm, bind_apply, waitOnce_after, if_neg h]
  rfl

/-- The loop ends with the first answer that is no interruption, whatever was asked before. -/
theorem run_after (hm : WaitsInLoop pid m) (u : Spent) :
    m (k.after u) = ⟨k.waited u.waits,
      k.after { u with waits := u.waits + (k.interruptions u.waits + 1) },
      k.waitCalls pid u.waits⟩ := by
  generalize hi : u.waits = i
  induction i using k.waits_induction generalizing u with
  | interrupted i h ih =>
    subst hi
    rw [hm.run_interrupted h (ih { u with waits := u.waits + 1 } rfl), k.waited_of_interrupted h,
      k.interruptions_of_interrupted h, k.waitCalls_of_interrupted pid h]
    simp only [Nat.add_assoc, Nat.add_comm 1]
  | answered i h =>
    subst hi
    rw [hm.run_answered h, k.waited_of_answered h, k.interruptions_of_answered h,
      k.waitCalls_of_answered pid h]

/-- There is one loop: what asks once and starts over after an interruption is `wait`. -/
theorem iff_eq_wait : WaitsInLoop pid m ↔ m = wait pid := by
  refine ⟨fun hm => funext fun k => ?_, fun h => h ▸ waitsInLoop_wait pid⟩
  have hloop := hm.run_after (k := k) {}
  exact hloop.trans ((waitsInLoop_wait pid).run_after {}).symm

end WaitsInLoop

/-- A wait in the middle of a run. -/
theorem wait_after (k : Kernel) (u : Spent) (pid : Pid) :
    wait pid (k.after u) = ⟨k.waited u.waits,
      k.after { u with waits := u.waits + (k.interruptions u.waits + 1) },
      k.waitCalls pid u.waits⟩ :=
  (waitsInLoop_wait pid).run_after u

/-- All that waiting for a child leaves is the waits. -/
theorem trace_wait (pid : Pid) (k : Kernel) : (wait pid k).trace = k.waitCalls pid 0 :=
  congrArg Ran.trace (wait_after k {} pid)

end Meter

end TrialMeter
