import Mathlib.Data.List.Basic
import TrialMeter.Proofs.Kernel.Course

/-!
# What a trace holds

Two views of a trace leave something out. Its calls are everything but the log. What it tells of the
time and of the counts is read off with a function that gives nothing for most entries: calls that
are mute, as they neither sample the clock nor ask for a counter nor read one, and the lines of the
log that no counter writes. So a course, which has only the observed entries, tells what its trace
tells.

## Main definitions

* `calls`: a trace without its log.
* `Mute`: a trace that tells nothing of the time and of the counts.
* `Entry.clockReply?`, `Entry.attr?`, `Entry.openReply?`, `Entry.delivery?`, `Entry.counterLine?`:
  what an entry tells.

## Main results

* `Meter.Does.calls_trace`: the calls of a run are those of its course.
* `Telling.filterMap_filter`, `Telling.filterMap_mute`: what a trace tells is told by its observed
  entries, and mute ones tell nothing.
-/

namespace TrialMeter

variable {k : Kernel}

/-! ### Calls -/

/-- Everything but the log is a call. -/
def Entry.isCall : Entry → Bool
  | .log _ => false
  | _ => true

/-- The calls of a trace, in order: its requests and units of work. -/
def calls (trace : List Entry) : List Entry := trace.filter Entry.isCall

@[simp] theorem calls_nil : calls [] = [] := rfl

theorem calls_append (t₁ t₂ : List Entry) : calls (t₁ ++ t₂) = calls t₁ ++ calls t₂ :=
  List.filter_append t₁ t₂

theorem calls_cons (e : Entry) (t : List Entry) :
    calls (e :: t) = if e.isCall then e :: calls t else calls t :=
  List.filter_cons

/-- All calls are observed. -/
theorem calls_filter_isObserved (trace : List Entry) :
    calls (trace.filter Entry.isObserved) = calls trace := by
  rw [calls, calls, List.filter_filter]
  refine List.filter_congr fun e _ => ?_
  cases e with
  | log line => rfl
  | _ => rfl

/-- The calls of a run are those of its course. -/
theorem Meter.Does.calls_trace {α : Type} {m : Meter α} {P : α → Prop} {u' : Spent}
    {es : List Entry} (h : m.Does k {} P u' es) : calls (m k).trace = calls es := by
  rw [← calls_filter_isObserved]
  exact congrArg calls h.observed

/-- A call that neither samples the clock nor asks for a counter nor reads one. -/
def Entry.isMute : Entry → Bool
  | .clock .. | .counter .. | .read .. | .log _ => false
  | _ => true

/-- Every entry of a trace is mute. -/
def Mute (trace : List Entry) : Prop := ∀ e ∈ trace, e.isMute

theorem Mute.nil : Mute [] := List.forall_mem_nil _

theorem Mute.cons {e : Entry} {t : List Entry} (he : e.isMute) (h : Mute t) : Mute (e :: t) :=
  List.forall_mem_cons.mpr ⟨he, h⟩

theorem Mute.append {t₁ t₂ : List Entry} (h₁ : Mute t₁) (h₂ : Mute t₂) : Mute (t₁ ++ t₂) :=
  fun e he => (List.mem_append.mp he).elim (h₁ e) (h₂ e)

theorem Mute.calls_eq {trace : List Entry} (h : Mute trace) : calls trace = trace := by
  refine List.filter_eq_self.mpr fun e he => ?_
  have hmute := h e he
  cases e with
  | log line => exact absurd hmute Bool.false_ne_true
  | _ => rfl

theorem Kernel.mute_waitCalls (k : Kernel) (pid : Pid) (i : ℕ) : Mute (k.waitCalls pid i) := by
  intro e he
  obtain ⟨reply, rfl⟩ := k.exists_eq_of_mem_waitCalls pid he
  rfl

/-! ### What entries tell -/

namespace Entry

/-- The answer to a request for the time. -/
def clockReply? : Entry → Option (Reply Timestamp)
  | .clock _ reply => some reply
  | _ => none

/-- The attributes of a request for a counter. -/
def attr? : Entry → Option Attr
  | .counter attr .. => some attr
  | _ => none

/-- The answer to a request for a counter. -/
def openReply? : Entry → Option (Reply Fd)
  | .counter _ _ _ _ _ reply => some reply
  | _ => none

/-- What a read delivers. -/
def delivery? : Entry → Option Delivery
  | .read _ _ delivery => some delivery
  | _ => none

/-- A line in which a counter speaks. -/
def counterLine? : Entry → Option Log.Line
  | .log line => if line.target = .counter then some line else none
  | _ => none

end Entry

/-- What looks at the clock, the requests for counters, the reads and the lines of counters only. -/
def Telling {α : Type} (f : Entry → Option α) : Prop :=
  ∀ e : Entry, e.isMute = true ∨ e.isObserved = false → f e = none

namespace Telling

variable {α : Type} {f : Entry → Option α} {trace : List Entry}

theorem filterMap_filter (hf : Telling f) (trace : List Entry) :
    (trace.filter Entry.isObserved).filterMap f = trace.filterMap f := by
  rw [List.filterMap_filter]
  refine List.filterMap_congr fun e _ => ?_
  cases h : e.isObserved with
  | true => rfl
  | false => exact (hf e (.inr h)).symm

theorem filterMap_mute (hf : Telling f) (h : Mute trace) : trace.filterMap f = [] :=
  List.filterMap_eq_nil_iff.mpr fun e he => hf e (.inl (h e he))

end Telling

theorem telling_clockReply : Telling Entry.clockReply? := by
  intro e he
  cases e with
  | clock source reply => exact he.elim nofun nofun
  | _ => rfl

theorem telling_attr : Telling Entry.attr? := by
  intro e he
  cases e with
  | counter attr pid cpu group flags reply => exact he.elim nofun nofun
  | _ => rfl

theorem telling_openReply : Telling Entry.openReply? := by
  intro e he
  cases e with
  | counter attr pid cpu group flags reply => exact he.elim nofun nofun
  | _ => rfl

theorem telling_delivery : Telling Entry.delivery? := by
  intro e he
  cases e with
  | read fd bytes delivery => exact he.elim nofun nofun
  | _ => rfl

theorem telling_counterLine : Telling Entry.counterLine? := by
  intro e he
  cases e with
  | log line => exact if_neg (he.elim nofun of_decide_eq_false)
  | _ => rfl

end TrialMeter
