import Std.Data.HashMap
import TrialMeter.Pattern.Basic
import TrialMeter.Pattern.Encoding
import TrialMeter.Pattern.Machine.Draft

/-!
# Machines for sets of characters

A set of characters is read by its sequences of bytes. A machine that reads forward has a state for
every way in which a sequence may go on, and sequences that go on alike share their states. A
machine that reads backward chooses a sequence first, and sequences that start alike share their
states.

To find the states that can be shared, they are remembered in a table with a fixed number of slots.
The slot of a state is computed from what the state does. A state that falls into a slot that is
taken displaces the one that was there, so that not all states that could be shared are.

## Main definitions

* `Memory`, `Sharing`: the table, and the steps of a draft that use it.
* `draftSet`: the part of a machine that reads a set of characters.
-/

namespace TrialMeter.Pattern

/-! ### Memory -/

/-- The number that many numbers are mixed into. -/
def mixed (ns : List Nat) : UInt64 :=
  ns.foldl (fun h n => (h ^^^ n.toUInt64) * 1099511628211) 14695981039346656037

/-- The states that are remembered, each with the numbers that say what it does. -/
structure Memory where
  slots : Nat
  kept : Std.HashMap Nat (List Nat × Nat) := {}

/-- A step of a draft that may find states in a memory. -/
abbrev Sharing := StateT Memory Drafting

/-- The state that does what some numbers say. It is added if it is not remembered. -/
def shared (does : List Nat) (add : Drafting Nat) : Sharing Nat := fun m => do
  let slot := (mixed does).toNat % m.slots
  let remember : Drafting (Nat × Memory) := do
    let s ← add
    return (s, { m with kept := m.kept.insert slot (does, s) })
  match m.kept[slot]? with
  | some (known, s) => if known = does then return (s, m) else remember
  | none => remember

/-! ### Forward -/

/-- Sequences by what they start with: neighbours that start alike stand together, without their
start. -/
def byHead : List Ranges → List ((Nat × Nat) × List Ranges)
  | [] => []
  | [] :: rest => byHead rest
  | (head :: tail) :: rest =>
    match byHead rest with
    | (other, tails) :: groups =>
      if head = other then (other, tail :: tails) :: groups
      else (head, [tail]) :: (other, tails) :: groups
    | [] => [(head, [tail])]

/-- The state that reads one of some sequences, of at most `depth` bytes, and goes on to `last`. -/
def addSequences (last depth : Nat) (sequences : List Ranges) : Sharing Nat :=
  match depth, byHead sequences with
  | 0, _ => pure last
  | _, [] => pure last
  | depth + 1, groups => do
    let edges ← groups.mapM fun (r, rests) => do
      let next ← addSequences last depth rests
      return ⟨r.1, r.2, next⟩
    shared (edges.flatMap fun (e : Edge) => [e.low, e.high, e.next]) (addState (.readAny edges))

/-- The bytes of a character at most. -/
def longestCharacter : Nat := 4

/-- The slots to read forward. -/
def forwardSlots : Nat := 10000

/-- The part that reads one of some sequences. -/
def draftForward (sequences : List Ranges) : Drafting Part := do
  let last ← addPass
  let (first, _) ← (addSequences last longestCharacter sequences).run { slots := forwardSlots }
  return ⟨first, last⟩

/-! ### Backward -/

/-- The slots to read backward. -/
def backwardSlots : Nat := 1000

/-- The state that reads a sequence from its end, and goes on to `last` after its first byte. -/
def addReversed (last : Nat) : Ranges → Sharing Nat
  | [] => pure last
  | r :: rest => do
    let s ← shared [last, r.1, r.2] (addState (.read ⟨r.1, r.2, last⟩))
    addReversed s rest

/-- The ways of a choice that read some sequences, each from its end. -/
def branchReversed (choice last : Nat) : List Ranges → Sharing Unit
  | [] => pure ()
  | r :: rest => do
    let s ← addReversed last r
    link choice s
    branchReversed choice last rest

/-- The part that reads one of some sequences from its end. -/
def draftBackward (sequences : List Ranges) : Drafting Part := do
  let first ← addChoice
  let last ← addPass
  let ((), _) ← (branchReversed first last sequences).run { slots := backwardSlots }
  return ⟨first, last⟩

/-! ### Sets -/

/-- The part that reads a character of a set. -/
def draftSet (d : Direction) (s : CodeSet) : Drafting Part :=
  if s.isAscii then readsAny s.ranges
  else
    match d with
    | .forward => draftForward (byteSequences s)
    | .backward => draftBackward (byteSequences s)

end TrialMeter.Pattern
