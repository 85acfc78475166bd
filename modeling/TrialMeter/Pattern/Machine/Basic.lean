import TrialMeter.Pattern.Look

/-!
# Machines

A text is searched by a machine. Its states are numbered. A state goes on to other states, on a byte
that it reads or without reading; some go on at places of a kind only. A machine has a size, which
counts the bytes of a state, of a range of bytes that a state with several ways may read, and of a
way that may be chosen.

## Main definitions

* `Edge`, `State`: what states do, with `State.size`.
* `Machine`: machines, with `Machine.size`.
-/

namespace TrialMeter.Pattern

/-- The way to the state `next` on a byte from `low` to `high`. -/
structure Edge where
  low : Nat
  high : Nat
  next : Nat
deriving DecidableEq, Repr

/-- Whether a way is taken on a byte. -/
def Edge.covers (e : Edge) (byte : Nat) : Bool := e.low ≤ byte && byte ≤ e.high

/-- A state of a machine. -/
inductive State where
  /-- The end: the pattern has been found. -/
  | accept
  /-- On without reading. -/
  | pass (next : Nat)
  /-- On at a place of a kind. -/
  | look (l : Look) (next : Nat)
  /-- On over a byte of a range. -/
  | read (e : Edge)
  /-- On over a byte of one of several ranges. -/
  | readAny (es : List Edge)
  /-- On without reading, along any of several ways. -/
  | choice (ways : List Nat)
deriving DecidableEq, Repr

namespace State

/-- The size of a state, without its ranges and ways. -/
def plainSize : Nat := 32

/-- The size of a range among several. -/
def rangeSize : Nat := 8

/-- The size of a way among several. -/
def waySize : Nat := 4

/-- The size of a state. -/
def size : State → Nat
  | readAny es => plainSize + rangeSize * es.length
  | choice ways => plainSize + waySize * ways.length
  | _ => plainSize

/-- A state that goes on to `target`. A choice has one more way; a state that knows where to go on
each byte, and the end, stay as they are. -/
def onTo (target : Nat) : State → State
  | pass _ => pass target
  | look l _ => look l target
  | read e => read { e with next := target }
  | choice ways => choice (target :: ways)
  | s => s

/-- Where a state goes on over a byte. -/
def after (s : State) (byte : Nat) : Option Nat :=
  match s with
  | read e => if e.covers byte then some e.next else none
  | readAny es => (es.find? (·.covers byte)).map Edge.next
  | _ => none

end State

/-- The states of a machine, of which one is the first. -/
structure Machine where
  states : Array State
  first : Nat
deriving DecidableEq, Repr

/-- The size of a machine. -/
def Machine.size (m : Machine) : Nat := m.states.foldl (fun n s => n + s.size) 0

end TrialMeter.Pattern
