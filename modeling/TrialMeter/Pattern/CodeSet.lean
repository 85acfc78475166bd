import TrialMeter.Pattern.Tree

/-!
# Sets of characters

A set of characters is kept as the ranges of their numbers. The ranges rise, and between two of them
lies at least one number, so that equal sets have equal ranges.

## Main definitions

* `CodeSet`: a set.
* `CodeSet.union`, `CodeSet.difference`, `CodeSet.intersection`: the operations on sets.
-/

namespace TrialMeter.Pattern

/-- A set of numbers. -/
structure CodeSet where
  ranges : Ranges
deriving DecidableEq, Repr

namespace CodeSet

/-- The set without numbers. -/
def empty : CodeSet := ⟨[]⟩

/-- Whether a set has no numbers. -/
def isEmpty (s : CodeSet) : Bool := s.ranges.isEmpty

/-- Rising ranges with one more. A range that meets others or touches them is joined with them. -/
def insertRange (r : Nat × Nat) : Ranges → Ranges
  | [] => [r]
  | s :: rest =>
    if r.2 + 1 < s.1 then r :: s :: rest
    else if s.2 + 1 < r.1 then s :: insertRange r rest
    else insertRange (min r.1 s.1, max r.2 s.2) rest

/-- What is left of a range without the numbers of another one. -/
def without (r cut : Nat × Nat) : Ranges :=
  if r.2 < cut.1 || cut.2 < r.1 then [r]
  else
    (if r.1 < cut.1 then [(r.1, cut.1 - 1)] else [])
      ++ if cut.2 < r.2 then [(cut.2 + 1, r.2)] else []

/-- The numbers that lie in one of two sets. -/
def union (s t : CodeSet) : CodeSet := ⟨t.ranges.foldl (fun rs r => insertRange r rs) s.ranges⟩

/-- The numbers of a set that do not lie in another one. -/
def difference (s t : CodeSet) : CodeSet :=
  ⟨t.ranges.foldl (fun rs cut => rs.flatMap (without · cut)) s.ranges⟩

/-- The numbers that lie in both of two sets. -/
def intersection (s t : CodeSet) : CodeSet := s.difference (s.difference t)

/-- The set of the numbers in some ranges, which may stand in any order. -/
def ofRanges (ranges : Ranges) : CodeSet := empty.union ⟨ranges⟩

/-- The numbers of all characters. -/
def characters : CodeSet := ⟨[(0x0, 0xd7ff), (0xe000, 0x10ffff)]⟩

/-- The numbers of all bytes. -/
def bytes : CodeSet := ⟨[(0x0, 0xff)]⟩

/-- Whether a set holds ASCII characters only. -/
def isAscii (s : CodeSet) : Bool := s.ranges.all (·.2 < 128)

/-- The set with the other case of each of its ASCII letters. -/
def foldCase (s : CodeSet) : CodeSet :=
  let shifted (letters : Nat × Nat) (shift : Nat → Nat) : CodeSet :=
    ⟨(s.intersection ⟨[letters]⟩).ranges.map fun r => (shift r.1, shift r.2)⟩
  (s.union (shifted (0x41, 0x5a) (· + 32))).union (shifted (0x61, 0x7a) (· - 32))

end CodeSet

end TrialMeter.Pattern
