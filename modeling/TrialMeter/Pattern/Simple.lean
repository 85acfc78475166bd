import TrialMeter.Pattern.Basic

/-!
# Patterns made simple

Patterns are put together so that what can be said with less is said with less: texts in a row are
one text, alternatives that are single characters are a set, and what all alternatives start with is
taken out of them.

## Main definitions

* `Pattern.ofSet`, `Pattern.ofRow`, `Pattern.ofAlternatives`, `Pattern.ofCopies`: a set, a row,
  alternatives and copies as simple patterns.
-/

namespace TrialMeter.Pattern

/-- The pattern of no text. -/
def impossible : Pattern := chars .empty true

/-- The pattern of a set. The set of one character is a text. -/
def ofSet (s : CodeSet) (bytes : Bool) : Pattern :=
  match s.ranges with
  | [] => impossible
  | [(n, m)] => if n = m then word [Char.ofNat n] else chars s bytes
  | _ => chars s bytes

/-! ### Rows -/

/-- The parts that a pattern brings to a row. -/
def rowParts : Pattern → List Pattern
  | empty => []
  | row ps => ps
  | p => [p]

/-- A row with one more part in front. Two texts that meet are one. -/
def consPart : Pattern → List Pattern → List Pattern
  | word cs, word ds :: rest => word (cs ++ ds) :: rest
  | p, rest => p :: rest

/-- The pattern of patterns in a row. -/
def ofRow (ps : List Pattern) : Pattern :=
  match (ps.flatMap rowParts).foldr consPart [] with
  | [] => empty
  | [p] => p
  | ps => row ps

/-! ### Alternatives -/

/-- The alternatives that a pattern brings. -/
def alternatives : Pattern → List Pattern
  | oneOf ps => ps
  | p => [p]

/-- The character that a pattern stands for alone. -/
def onlyCharacter? : Pattern → Option Char
  | word [c] => some c
  | _ => none

/-- The set of characters that a pattern is. -/
def set? : Pattern → Option CodeSet
  | chars s _ => some s
  | _ => none

/-- The set of characters that some patterns are together: all are single characters, or all are
sets. -/
def commonSet? (ps : List Pattern) : Option CodeSet :=
  match ps.mapM onlyCharacter? with
  | some cs => some (.ofRanges (cs.map fun c => (c.toNat, c.toNat)))
  | none => (ps.mapM set?).map fun sets => sets.foldl .union .empty

/-- The pattern of alternatives that start with nothing in common. -/
def ofApart (ps : List Pattern) : Pattern :=
  match ps.flatMap alternatives with
  | [] => impossible
  | [p] => p
  | ps =>
    match commonSet? ps with
    | some s => ofSet s false
    | none => oneOf ps

/-- How many parts at the start of two rows are the same. -/
def sharedCount : List Pattern → List Pattern → Nat
  | p :: ps, q :: qs => if p.same q then sharedCount ps qs + 1 else 0
  | _, _ => 0

/-- The parts of a row. -/
def row? : Pattern → Option (List Pattern)
  | row ps => some ps
  | _ => none

/-- The pattern of alternatives. If all are rows, the parts that they start with in common are taken
out of them. -/
def ofAlternatives (ps : List Pattern) : Pattern :=
  match ofApart ps with
  | oneOf ps =>
    match ps.mapM row? with
    | some (first :: others) =>
      match others.foldl (fun n ps => min n (sharedCount first ps)) first.length with
      | 0 => oneOf ps
      | n => ofRow (first.take n ++ [ofApart ((first :: others).map fun ps => ofRow (ps.drop n))])
    | _ => oneOf ps
  | p => p

/-! ### Copies -/

/-- The pattern of copies. Of what stands for the empty text only, one copy is enough. -/
def ofCopies (p : Pattern) (least : Nat) (most : Option Nat) (many : Bool) : Pattern :=
  let (least, most) :=
    if p.isOnlyEmpty then (min least 1, some (min (most.getD 1) 1)) else (least, most)
  if most = some 0 then empty
  else if least = 1 && most = some 1 then p
  else copies p least most many

end TrialMeter.Pattern
