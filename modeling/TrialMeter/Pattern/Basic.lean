import TrialMeter.Pattern.CodeSet
import TrialMeter.Pattern.Look

/-!
# Patterns

A pattern stands for a set of texts. It is made of characters, of sets of characters and of places,
in a row, as alternatives and repeated. A pattern also knows what makes no difference to the texts:
which group a part stands in, and whether many copies are preferred to few. Two parts that differ in
this are different parts.

## Main definitions

* `Pattern`: patterns, with `Pattern.same` to compare two of them.
* `Pattern.shortest`, `Pattern.longest`: how many bytes the texts of a pattern have.
* `Pattern.isPinned`: whether a pattern starts, or ends, at an end of the searched text only.
* `Pattern.asksScripts`: whether the words of all scripts have to be known.
-/

namespace TrialMeter

/-- A set of texts. -/
inductive Pattern where
  /-- The empty text. -/
  | empty
  /-- A text with at least one character, as it is. -/
  | word (cs : List Char)
  /-- One character of a set, or one byte of a set of ASCII characters. -/
  | chars (s : Pattern.CodeSet) (bytes : Bool)
  /-- Nothing, at a place of a kind. The words may be those of all scripts. -/
  | look (l : Pattern.Look) (allScripts : Bool)
  /-- At least `least` and at most `most` copies in a row, preferably many or few. -/
  | copies (p : Pattern) (least : Nat) (most : Option Nat) (many : Bool)
  /-- A group whose text is remembered, told by the place where it is opened. -/
  | group (place : Nat) (p : Pattern)
  /-- Patterns in a row. -/
  | row (ps : List Pattern)
  /-- One of several patterns. -/
  | oneOf (ps : List Pattern)
deriving Repr

/-- The two ways to read a text. -/
inductive Pattern.Direction where
  | forward
  | backward
deriving DecidableEq, Repr

/-- What stands in a row, in the order in which it is met. -/
def Pattern.Direction.order {α : Type} : Direction → List α → List α
  | forward, xs => xs
  | backward, xs => xs.reverse

namespace Pattern

/-! ### Equality -/

mutual

/-- Whether two patterns are made of the same parts. -/
def same : Pattern → Pattern → Bool
  | empty, empty => true
  | word cs, word ds => cs = ds
  | chars s b, chars t c => s = t && b = c
  | look l a, look m b => l = m && a = b
  | copies p l m a, copies q k n b => l = k && m = n && a = b && same p q
  | group i p, group j q => i = j && same p q
  | row ps, row qs => sameAll ps qs
  | oneOf ps, oneOf qs => sameAll ps qs
  | _, _ => false

/-- Whether two lists of patterns are the same, one by one. -/
def sameAll : List Pattern → List Pattern → Bool
  | [], [] => true
  | p :: ps, q :: qs => same p q && sameAll ps qs
  | _, _ => false

end

/-! ### Lengths -/

/-- The bytes of the character with a number. -/
def byteLength (n : Nat) : Nat :=
  if n < 0x80 then 1 else if n < 0x800 then 2 else if n < 0x10000 then 3 else 4

/-- The bytes of a text. -/
def textLength (cs : List Char) : Nat := cs.foldl (fun n c => n + byteLength c.toNat) 0

/-- The sum of some lengths, if all are known. -/
def totalLength (ns : List (Option Nat)) : Option Nat :=
  ns.foldr (fun n total => n.bind fun n => total.map (n + ·)) (some 0)

/-- One of some lengths, chosen two by two, if all are known and there are any. -/
def chosenLength (choose : Nat → Nat → Nat) : List (Option Nat) → Option Nat
  | [] => none
  | n :: ns => ns.foldl (fun chosen n => chosen.bind fun m => n.map (choose m)) n

mutual

/-- The bytes of the shortest text. It is not known if a part stands for no text. -/
def shortest : Pattern → Option Nat
  | empty => some 0
  | word cs => some (textLength cs)
  | chars s _ => s.ranges.head?.map fun r => byteLength r.1
  | look _ _ => some 0
  | copies p least _ _ => p.shortest.map (· * least)
  | group _ p => p.shortest
  | row ps => totalLength (shortestOfEach ps)
  | oneOf ps => chosenLength min (shortestOfEach ps)

/-- The bytes of the shortest text of each pattern. -/
def shortestOfEach : List Pattern → List (Option Nat)
  | [] => []
  | p :: ps => p.shortest :: shortestOfEach ps

end

mutual

/-- The bytes of the longest text, if there is one. -/
def longest : Pattern → Option Nat
  | empty => some 0
  | word cs => some (textLength cs)
  | chars s _ => s.ranges.getLast?.map fun r => byteLength r.2
  | look _ _ => some 0
  | copies p _ most _ => most.bind fun most => p.longest.map (· * most)
  | group _ p => p.longest
  | row ps => totalLength (longestOfEach ps)
  | oneOf ps => chosenLength max (longestOfEach ps)

/-- The bytes of the longest text of each pattern. -/
def longestOfEach : List Pattern → List (Option Nat)
  | [] => []
  | p :: ps => p.longest :: longestOfEach ps

end

/-- Whether a pattern stands for the empty text only. -/
def isOnlyEmpty (p : Pattern) : Bool := p.longest = some 0

/-! ### Ends of the text -/

/-- The place where the reading of a text begins. -/
def Direction.origin : Direction → Look
  | forward => .textStart
  | backward => .textEnd

mutual

/-- Whether a pattern begins, in a direction, only where the reading of the text begins. -/
def isPinned (d : Direction) : Pattern → Bool
  | look l _ => l = d.origin
  | copies p least _ _ => 0 < least && p.isPinned d
  | group _ p => p.isPinned d
  | row ps => rowIsPinned d ps
  | oneOf ps => allPinned d ps
  | _ => false

/-- Whether a row has a pinned part, and what is met before it stands for the empty text only. -/
def rowIsPinned (d : Direction) : List Pattern → Bool
  | [] => false
  | p :: ps =>
    match d with
    | .forward => p.isPinned d || (p.isOnlyEmpty && rowIsPinned d ps)
    | .backward => rowIsPinned d ps || (p.isPinned d && ps.all isOnlyEmpty)

/-- Whether all patterns are pinned. -/
def allPinned (d : Direction) : List Pattern → Bool
  | [] => true
  | p :: ps => p.isPinned d && allPinned d ps

end

/-! ### Scripts -/

mutual

/-- Whether the words of all scripts have to be known. -/
def asksScripts : Pattern → Bool
  | look _ allScripts => allScripts
  | copies p _ _ _ => p.asksScripts
  | group _ p => p.asksScripts
  | row ps => anyAsksScripts ps
  | oneOf ps => anyAsksScripts ps
  | _ => false

/-- Whether one of some patterns asks for the words of all scripts. -/
def anyAsksScripts : List Pattern → Bool
  | [] => false
  | p :: ps => p.asksScripts || anyAsksScripts ps

end

end Pattern

end TrialMeter
