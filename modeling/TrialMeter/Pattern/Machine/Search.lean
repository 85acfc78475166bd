import TrialMeter.Pattern.Encoding
import TrialMeter.Pattern.Machine.Basic

/-!
# Searching with a machine

A machine is in several states at a time, and reads a text byte by byte. Before each byte it follows
all ways on which nothing is read. The pattern is found if the machine has then reached its end, at
a place between two characters. The end may also be reached inside a character, by a pattern that
stands for nothing there. This does not count: what has been read is forgotten, and the search
starts anew behind the next byte.

## Main definitions

* `Machine.reach`: what can be reached without reading, and over the next byte.
* `Machine.finds`: whether the pattern of a machine is found in a text.
-/

namespace TrialMeter.Pattern.Machine

/-- What is reached at a place: the states behind the next byte, and whether the end is. -/
structure Reached where
  onward : List Nat := []
  isEnd : Bool := false

/-- What is reached between two bytes from the states `ahead`, besides what has been reached. Places
are numbered, and each state that is reached at a place is `marked` with its number, so that it is
followed once. Every step takes one of the states ahead away, and brings the ways of a state at most
once, so that as many steps as both together are `room` enough. -/
def reach (m : Machine) (before next : Option Nat) (place room : Nat) (marked : Array Nat)
    (r : Reached) (ahead : List Nat) : Reached × Array Nat :=
  match room, ahead with
  | 0, _ => (r, marked)
  | _, [] => (r, marked)
  | room + 1, s :: ahead =>
    if marked.getD s 0 = place then m.reach before next place room marked r ahead
    else
      let marked := marked.setIfInBounds s place
      match m.states[s]? with
      | none => m.reach before next place room marked r ahead
      | some .accept => m.reach before next place room marked { r with isEnd := true } ahead
      | some (.pass t) => m.reach before next place room marked r (t :: ahead)
      | some (.look l t) =>
        let ahead := if l.holds before next then t :: ahead else ahead
        m.reach before next place room marked r ahead
      | some (.choice ways) => m.reach before next place room marked r (ways.reverseAux ahead)
      | some reader =>
        match next.bind reader.after with
        | none => m.reach before next place room marked r ahead
        | some t => m.reach before next place room marked { r with onward := t :: r.onward } ahead

/-- Whether the end is reached in the rest of a text, from the states `ahead` at a place behind the
byte `before`. -/
def search (m : Machine) (room : Nat) (before : Option Nat) (place : Nat) (marked : Array Nat)
    (ahead : List Nat) (rest : List Nat) : Bool :=
  let next := rest.head?
  let (r, marked) := m.reach before next place (room + ahead.length) marked {} ahead
  if r.isEnd && !next.any isLater then true
  else
    match rest with
    | [] => false
    | byte :: rest =>
      let ahead := if r.isEnd then [m.first] else r.onward
      m.search room (some byte) (place + 1) marked ahead rest

/-- Whether the pattern of a machine is found in a text. -/
def finds (m : Machine) (text : List Char) : Bool :=
  m.search m.size none 1 (Array.replicate m.states.size 0) [m.first] (encode text)

end TrialMeter.Pattern.Machine
