import TrialMeter.Group.Basic

/-!
# Rehearsed members

A rehearsed member stands in for a counter where there is no kernel: what it answers is written down
beforehand, and every call on it is noted. It serves to watch how a group treats its members.

## Main definitions

* `Understudy`: a rehearsed member; `Part`: the answers that are written down for it.
* `Rehearsal`: computations over the parts of all members and the calls noted so far.
-/

namespace TrialMeter

/-- A member whose answers are written down. Its index finds its part. -/
structure Understudy where
  index : Nat
  kind : Kind
  isOpen : Bool := false
  value : UInt64 := 0
deriving DecidableEq, Repr

/-- The answers that a member has still to give, by the operation. Nothing and an answer list that
is used up both mean success. -/
structure Part where
  opens : List (Option Error) := []
  reopens : List (Option Error) := []
  starts : List (Option Error) := []
  stops : List (Option Error) := []
deriving Repr, Inhabited

/-- A call on the member at an index. -/
inductive Call where
  | openHere (index : Nat)
  | reopen (pid : Pid) (index : Nat)
  | start (index : Nat)
  | stop (index : Nat)
  | retrieve (index : Nat)
deriving DecidableEq, Repr

/-- The parts of all members, by index, and the calls noted so far, in order. -/
structure Stage where
  parts : List Part
  calls : List Call := []
deriving Repr, Inhabited

/-- Computations over a stage. -/
abbrev Rehearsal (α : Type) : Type := StateM Stage α

namespace Understudy

/-- Notes a call. -/
def note (call : Call) : Rehearsal Unit :=
  modify fun stage => { stage with calls := stage.calls ++ [call] }

/-- The next of a list of answers. -/
def answer (answers : List (Option Error)) : Except Error Unit :=
  match answers.headD none with
  | none => .ok ()
  | some e => .error e

/-- Notes a call and takes the next answer out of the part of the member at `index`. -/
def take (call : Call) (index : Nat) (answers : Part → List (Option Error)) (rest : Part → Part) :
    Rehearsal (Except Error Unit) := do
  note call
  let stage ← get
  let part := stage.parts.getD index default
  set { stage with parts := stage.parts.set index (rest part) }
  return answer (answers part)

/-- Opens the member; a refusal leaves it as it was. -/
def openHere (u : Understudy) : Rehearsal (Except Error Unit × Understudy) := do
  let result ← take (.openHere u.index) u.index Part.opens
    fun part => { part with opens := part.opens.tail }
  return (result, { u with isOpen := u.isOpen || result.isOk })

/-- Moves the member; a refusal leaves it closed. -/
def reopen (u : Understudy) (pid : Pid) : Rehearsal (Except Error Unit × Understudy) := do
  let result ← take (.reopen pid u.index) u.index Part.reopens
    fun part => { part with reopens := part.reopens.tail }
  return (result, { u with isOpen := result.isOk })

/-- Starts the member. -/
def start (u : Understudy) : Rehearsal (Except Error Unit) :=
  take (.start u.index) u.index Part.starts fun part => { part with starts := part.starts.tail }

/-- Stops the member. -/
def stop (u : Understudy) : Rehearsal (Except Error Unit) :=
  take (.stop u.index) u.index Part.stops fun part => { part with stops := part.stops.tail }

/-- The value of the member. -/
def retrieve (u : Understudy) : Rehearsal UInt64 := do
  note (.retrieve u.index)
  return u.value

end Understudy

instance : Member Understudy (StateM Stage) where
  kind := Understudy.kind
  isOpen := Understudy.isOpen
  openHere := Understudy.openHere
  reopen := Understudy.reopen
  start := Understudy.start
  stop := Understudy.stop
  retrieve := Understudy.retrieve

end TrialMeter
