import Mathlib.Data.List.GetD
import Mathlib.Tactic.ByContra
import TrialMeter.Kernel.Meter

/-!
# The answers of a kernel

A kernel answers the requests of one kind in a fixed sequence, and requests of different kinds do
not disturb each other. So a kernel is seven sequences of answers, and where a run stands in them is
told by the number of requests of each kind that it has made. Everything that a run is given can
then be said about the kernel that it starts with: the third sample of the clock, the descriptor
that the fifth counter was granted, the answer to the wait that was not interrupted.

## Main definitions

* `Kernel.clockAt`, `Kernel.openAt`, `Kernel.controlAt`, `Kernel.readAt`, `Kernel.childAttrAt`,
  `Kernel.childAt`, `Kernel.waitAt`: the answer to a request, by the number of those before it.
* `Kernel.waited`: the first answer to a wait that is not an interruption.
* `Spent`, `Kernel.after`: a position, and the kernel that is left there.

## Main results

* `Meter.readClock_after`, `Meter.openCounter_after` and so on: each request is answered from its
  own sequence.
-/

namespace TrialMeter

namespace Kernel

variable (k : Kernel)

/-- The answer to the request for the time that follows `i` others. -/
def clockAt (i : ℕ) : Reply Timestamp := k.script.clocks.getD i (.done {})

/-- Whether the request for a counter that follows `i` others is granted. -/
def grantAt (i : ℕ) : Reply Unit := k.script.counters.getD i (.done ())

/-- The number of grants among the first `n` requests for counters. -/
def grants (n : ℕ) : ℕ := (List.range n).countP fun i => k.grantAt i = .done ()

/-- The answer to the request for a counter that follows `i` others. -/
def openAt (i : ℕ) : Reply Fd :=
  match k.grantAt i with
  | .done () => .done (k.descriptor (k.granted + k.grants i))
  | .failed e => .failed e

/-- The descriptor that answers the request for a counter that follows `i` others, if it is granted.
-/
def fdAt (i : ℕ) : Option Fd :=
  match k.openAt i with
  | .done fd => some fd
  | .failed _ => none

/-- The answer to the control request that follows `i` others. -/
def controlAt (i : ℕ) : Reply Unit := k.script.controls.getD i (.done ())

/-- What the read that follows `i` others delivers. -/
def readAt (i : ℕ) : Delivery := k.script.reads.getD i (.full 0)

/-- The answer to the request for the attributes of a child that follows `i` others. -/
def childAttrAt (i : ℕ) : Reply Unit := k.script.childAttrs.getD i (.done ())

/-- The answer to the request for a child that follows `i` others. -/
def childAt (i : ℕ) : Reply Pid := k.script.children.getD i (.done (k.newPid (k.asked + i)))

/-- The answer to the wait that follows `i` others. -/
def waitAt (i : ℕ) : Reply WaitStatus := k.script.waits.getD i (.done {})

/-- The number of interruptions, from the wait on that follows `i` others. -/
def interruptions (i : ℕ) : ℕ :=
  ((k.script.waits.drop i).takeWhile (· = .failed .interrupted)).length

/-- The first answer but an interruption, from the wait on that follows `i` others. -/
def waited (i : ℕ) : Reply WaitStatus := k.waitAt (i + k.interruptions i)

end Kernel

/-- After `n` requests and one for each element of a list, the first of these has been made. -/
theorem add_length_cons {α : Type} (n : ℕ) (x : α) (l : List α) :
    n + (x :: l).length = n + 1 + l.length := by
  rw [List.length_cons, Nat.add_comm l.length, Nat.add_assoc]

/-- The number of requests of each kind. -/
structure Spent where
  clocks : ℕ := 0
  counters : ℕ := 0
  controls : ℕ := 0
  reads : ℕ := 0
  childAttrs : ℕ := 0
  children : ℕ := 0
  waits : ℕ := 0

namespace Kernel

variable (k : Kernel) (u : Spent)

/-- What is left of a kernel after some requests. -/
def after : Kernel where
  script := {
    clocks := k.script.clocks.drop u.clocks
    counters := k.script.counters.drop u.counters
    controls := k.script.controls.drop u.controls
    reads := k.script.reads.drop u.reads
    childAttrs := k.script.childAttrs.drop u.childAttrs
    children := k.script.children.drop u.children
    waits := k.script.waits.drop u.waits }
  granted := k.granted + k.grants u.counters
  asked := k.asked + u.children
  descriptor := k.descriptor
  newPid := k.newPid

theorem grants_succ (i : ℕ) :
    k.grants (i + 1) = k.grants i + if k.grantAt i = .done () then 1 else 0 := by
  simp [grants, List.range_succ]

/-- A request for a counter is granted when a descriptor answers it. -/
theorem isSome_fdAt (i : ℕ) : (k.fdAt i).isSome ↔ k.grantAt i = .done () := by
  unfold fdAt openAt
  cases k.grantAt i with
  | done grant => exact iff_of_true rfl rfl
  | failed errno => exact iff_of_false nofun nofun

theorem grants_succ_of_some {i : ℕ} {fd : Fd} (h : k.fdAt i = some fd) :
    k.grants (i + 1) = k.grants i + 1 := by
  have hgrant : k.grantAt i = .done () := (k.isSome_fdAt i).mp (by rw [h]; rfl)
  rw [grants_succ, if_pos hgrant]

theorem grants_succ_of_none {i : ℕ} (h : k.fdAt i = none) : k.grants (i + 1) = k.grants i := by
  have hrefused : k.grantAt i ≠ .done () := fun hgrant => by
    simpa [h] using (k.isSome_fdAt i).mpr hgrant
  rw [grants_succ, if_neg hrefused, Nat.add_zero]

/-! ### Waits -/

theorem interruptions_of_interrupted {i : ℕ} (h : k.waitAt i = .failed .interrupted) :
    k.interruptions i = k.interruptions (i + 1) + 1 := by
  rcases Nat.lt_or_ge i k.script.waits.length with hi | hi
  · rw [waitAt, List.getD_eq_getElem _ _ hi] at h
    rw [interruptions, List.drop_eq_getElem_cons hi, h]
    rfl
  · rw [waitAt, List.getD_eq_default _ _ hi] at h
    exact absurd h nofun

theorem interruptions_of_answered {i : ℕ} (h : k.waitAt i ≠ .failed .interrupted) :
    k.interruptions i = 0 := by
  rcases Nat.lt_or_ge i k.script.waits.length with hi | hi
  · rw [waitAt, List.getD_eq_getElem _ _ hi] at h
    rw [interruptions, List.drop_eq_getElem_cons hi,
      List.takeWhile_cons_of_neg (by simpa using h), List.length_nil]
  · rw [interruptions, List.drop_of_length_le hi]
    rfl

theorem waited_of_interrupted {i : ℕ} (h : k.waitAt i = .failed .interrupted) :
    k.waited i = k.waited (i + 1) := by
  rw [waited, waited, k.interruptions_of_interrupted h, Nat.add_right_comm, Nat.add_assoc i]

theorem waited_of_answered {i : ℕ} (h : k.waitAt i ≠ .failed .interrupted) :
    k.waited i = k.waitAt i := by
  rw [waited, k.interruptions_of_answered h, Nat.add_zero]

/-- Waits are told one after another, from an interruption to the wait after it. -/
theorem waits_induction {motive : ℕ → Prop}
    (interrupted : ∀ i, k.waitAt i = .failed .interrupted → motive (i + 1) → motive i)
    (answered : ∀ i, k.waitAt i ≠ .failed .interrupted → motive i) (i : ℕ) : motive i := by
  generalize hn : k.interruptions i = n
  induction n generalizing i with
  | zero =>
    refine answered i fun h => ?_
    rw [k.interruptions_of_interrupted h] at hn
    omega
  | succ n ih =>
    by_cases h : k.waitAt i = .failed .interrupted
    · rw [k.interruptions_of_interrupted h] at hn
      exact interrupted i h (ih (i + 1) (by omega))
    · exact answered i h

/-- The answers in front of the last one are interruptions. -/
theorem waitAt_of_lt_interruptions {i j : ℕ} (hj : j < k.interruptions i) :
    k.waitAt (i + j) = .failed .interrupted := by
  induction i using k.waits_induction generalizing j with
  | interrupted i h ih =>
    cases j with
    | zero => exact h
    | succ j =>
      rw [k.interruptions_of_interrupted h] at hj
      rw [← ih (Nat.lt_of_succ_lt_succ hj), Nat.add_right_comm, Nat.add_assoc]
  | answered i h =>
    rw [k.interruptions_of_answered h] at hj
    exact absurd hj (Nat.not_lt_zero j)

theorem waited_ne_interrupted (i : ℕ) : k.waited i ≠ .failed .interrupted := by
  induction i using k.waits_induction with
  | interrupted i h ih => rwa [k.waited_of_interrupted h]
  | answered i h => rwa [k.waited_of_answered h]

/-- Kernels that answer each wait alike answer alike in the end. -/
theorem waited_congr {k k' : Kernel} (h : ∀ i, k.waitAt i = k'.waitAt i) (i : ℕ) :
    k.waited i = k'.waited i := by
  induction i using k.waits_induction with
  | interrupted i hi ih => rw [k.waited_of_interrupted hi, k'.waited_of_interrupted (h i ▸ hi), ih]
  | answered i hi => rw [k.waited_of_answered hi, k'.waited_of_answered (h i ▸ hi), h i]

end Kernel

/-! ### Requests -/

namespace Meter

variable (k : Kernel) (u : Spent)

private theorem headD_drop {α : Type} (l : List α) (n : ℕ) (d : α) :
    (l.drop n).headD d = l.getD n d := by
  rw [List.headD_eq_head?_getD, List.head?_drop, List.getD_eq_getElem?_getD]

theorem readClock_after (source : Source) :
    readClock source (k.after u) = ⟨k.clockAt u.clocks,
      k.after { u with clocks := u.clocks + 1 }, [.clock source (k.clockAt u.clocks)]⟩ := by
  simp only [readClock, Kernel.after, Kernel.clockAt, headD_drop, List.tail_drop]

theorem openCounter_after (attr : Attr) (pid : Pid) :
    openCounter attr pid (k.after u) = ⟨k.openAt u.counters,
      k.after { u with counters := u.counters + 1 },
      [.counter attr pid (-1) (-1) closeOnExec (k.openAt u.counters)]⟩ := by
  have hhead : (k.after u).script.counters.headD (.done ()) = k.grantAt u.counters :=
    headD_drop _ _ _
  have hgrants := k.grants_succ u.counters
  unfold openCounter
  rw [hhead, Kernel.openAt]
  cases h : k.grantAt u.counters with
  | done grant =>
    rw [h, if_pos rfl] at hgrants
    simp only [Kernel.after, List.tail_drop, hgrants, Nat.add_assoc]
  | failed errno =>
    simp only [h, reduceCtorEq, ↓reduceIte, Nat.add_zero] at hgrants
    simp only [Kernel.after, List.tail_drop, hgrants]

theorem control_after (fd : Fd) (request : Control) :
    control fd request (k.after u) = ⟨k.controlAt u.controls,
      k.after { u with controls := u.controls + 1 },
      [.control fd request 0 (k.controlAt u.controls)]⟩ := by
  simp only [control, Kernel.after, Kernel.controlAt, headD_drop, List.tail_drop]

theorem readCounter_after (fd : Fd) :
    readCounter fd (k.after u) = ⟨k.readAt u.reads,
      k.after { u with reads := u.reads + 1 }, [.read fd 8 (k.readAt u.reads)]⟩ := by
  simp only [readCounter, Kernel.after, Kernel.readAt, headD_drop, List.tail_drop]

theorem initChild_after :
    initChild (k.after u) = ⟨k.childAttrAt u.childAttrs,
      k.after { u with childAttrs := u.childAttrs + 1 },
      [.childAttr (k.childAttrAt u.childAttrs)]⟩ := by
  simp only [initChild, Kernel.after, Kernel.childAttrAt, headD_drop, List.tail_drop]

theorem startChild_after (path : String) (argv : List String) :
    startChild path argv (k.after u) = ⟨k.childAt u.children,
      k.after { u with children := u.children + 1 },
      [.child path argv (k.childAt u.children)]⟩ := by
  simp only [startChild, Kernel.after, Kernel.childAt, headD_drop, List.tail_drop, Nat.add_assoc]

theorem waitOnce_after (pid : Pid) :
    waitOnce pid (k.after u) = ⟨k.waitAt u.waits,
      k.after { u with waits := u.waits + 1 }, [.wait pid 0 (k.waitAt u.waits)]⟩ := by
  simp only [waitOnce, Kernel.after, Kernel.waitAt, headD_drop, List.tail_drop]

end Meter

end TrialMeter
