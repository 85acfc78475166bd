import TrialMeter.Pattern.Machine.Sets
import TrialMeter.Pattern.Machine.Words

/-!
# Machines of patterns

Every part of a pattern becomes a part of a machine, and a repetition as many as it may have copies.
A machine may read a text forward, to tell whether the pattern is in it, or backward, to tell where
it starts.

## Main definitions

* `Pattern.draft`: the part of a machine for a pattern.
* `Machine.ofPattern?`, `Machine.ofWords?`: the machines that search for a pattern or for words.
-/

namespace TrialMeter.Pattern

/-- The bytes of alternatives that are all texts, in the order in which they are read. -/
def wordsRead? (d : Direction) (ps : List Pattern) : Option (List (List Nat)) :=
  ps.mapM fun
    | word cs => some (d.order (encode cs))
    | _ => none

/-- The part that reads some bytes one by one. -/
def readsBytes (bytes : List Nat) : Drafting Part :=
  inRow (bytes.map fun b => single (addState (.read ⟨b, b, 0⟩)))

mutual

/-- The part of a machine for a pattern. Only a machine that reads forward marks its groups. -/
def draft (d : Direction) : Pattern → Drafting Part
  | empty => single addPass
  | word cs => readsBytes (d.order (encode cs))
  | chars s _ => draftSet d s
  | look l _ => single (addState (.look l 0))
  | copies p least most _ => copiesOf (p.draft d) p.shortest least most
  | group _ p =>
    match d with
    | .forward => withMarks (p.draft d)
    | .backward => p.draft d
  | row ps => inRow (d.order (draftEach d ps))
  | oneOf ps =>
    match wordsRead? d ps with
    | some words => (WordTree.ofWords words).draft
    | none => anyOf (draftEach d ps)

/-- The parts for some patterns. -/
def draftEach (d : Direction) : List Pattern → List (Drafting Part)
  | [] => []
  | p :: ps => p.draft d :: draftEach d ps

end

/-- The part that reads any bytes. -/
def readsAnything : Drafting Part := anyNumber (readsAny [(0x00, 0xff)])

/-- A machine that searches for a part: it is read behind what comes `before`, and then the end is
reached. -/
def searchFor (before part : Drafting Part) : Option Machine :=
  let drafted : Drafting Nat := do
    let b ← before
    let p ← part
    let found ← addState .accept
    link p.last found
    link b.last p.first
    return b.first
  (drafted {}).map fun (first, d) => ⟨d.states, first⟩

/-- The machine that searches for a pattern, unless it is too large. Before the pattern stands
anything, unless it begins where the reading of the text begins. -/
def Machine.ofPattern? (d : Direction) (p : Pattern) : Option Machine :=
  searchFor (if p.isPinned d then single addPass else readsAnything)
    (draft d (match d with | .forward => group 0 p | .backward => p))

/-- The machine that searches for some words, given by their bytes, unless it is too large. -/
def Machine.ofWords? (words : List (List Nat)) : Option Machine :=
  searchFor readsAnything (WordTree.ofWords words).draft

end TrialMeter.Pattern
