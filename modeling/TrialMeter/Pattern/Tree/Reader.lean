import TrialMeter.Pattern.Tree.Bracket
import TrialMeter.Pattern.Tree.Count
import TrialMeter.Pattern.Tree.Group

/-!
# Reading pattern trees

A pattern is read from the left, one part after the other. The parts of the alternative that is
being read are kept until it ends; the groups that are open stand in a stack. The first problem
ends the reading. A tree that is too deep is a problem as well, but only of a text that is read to
its end.

## Main definitions

* `Branches`, `OpenGroup`: what has been read.
* `Tree.read`: the tree of a text.
-/

namespace TrialMeter.Pattern

/-- The alternatives of a group, the last one first, and the parts of the one that is being read,
the last one first. -/
structure Branches where
  start : Position
  done : List Tree := []
  /-- Where the alternative that is being read starts. -/
  branchStart : Position
  items : List Tree := []

namespace Branches

/-- The alternatives of a group whose inside starts at a place. -/
def startingAt (p : Position) : Branches := { start := p, branchStart := p }

/-- One more part. -/
def push (b : Branches) (t : Tree) : Branches := { b with items := t :: b.items }

/-- The alternative that is being read, which ends at a place. -/
def branch (b : Branches) (stop : Position) : Tree :=
  Tree.ofItems ⟨b.branchStart, stop⟩ b.items.reverse

/-- The start of another alternative, between the places before and after the bar. -/
def divide (b : Branches) (stop start : Position) : Branches :=
  { b with done := b.branch stop :: b.done, branchStart := start, items := [] }

/-- All alternatives as one tree, which ends at a place. -/
def close (b : Branches) (stop : Position) : Tree :=
  match b.done with
  | [] => b.branch stop
  | done => .alternation ⟨b.start, stop⟩ (b.branch stop :: done).reverse

/-- The last part, which is to be repeated by the sign at `here`, and what is left without it. -/
def popItem (b : Branches) (here : Span) : Except Problem (Tree × Branches) :=
  match b.items with
  | item :: items =>
    if item.isRepeatable then .ok (item, { b with items })
    else Problem.raise .nothingRepeated here
  | [] => Problem.raise .nothingRepeated here

end Branches

/-- A group that is open, with what stands around it. -/
structure OpenGroup where
  opening : Span
  settings : Option Settings
  /-- Whether blanks are passed over around the group. -/
  skipsBlanks : Bool
  around : Branches

/-- The character, sign or escape at the cursor. -/
def readAtom : Step Atom := fun c =>
  match c.next? with
  | some '\\' => readEscape c
  | some '.' => .ok (.dot c.nextSpan, c.bump)
  | some '^' => .ok (.anchor c.nextSpan .caret, c.bump)
  | some '$' => .ok (.anchor c.nextSpan .dollar, c.bump)
  | some x => .ok (.literal ⟨c.nextSpan, x, false⟩, c.bump)
  | none => Problem.raise .escapeCut c.here

/-- The numbers of copies that a sign asks for. -/
def signCount? : Char → Option (Nat × Option Nat)
  | '?' => some (0, some 1)
  | '*' => some (0, none)
  | '+' => some (1, none)
  | _ => none

/-- The last part repeated as the sign or the braces at the cursor say. -/
def readRepetition (b : Branches) : Step Branches := fun c => do
  let (item, b) ← b.popItem c.here
  let ((least, most, few), c) ←
    match c.next?.bind signCount? with
    | some (least, most) =>
      let (few, c) := readFew c.bump
      pure ((least, most, few), c)
    | none => readCount c
  return (b.push (.repetition (item.span.through c.position) least most few item), c)

/-- Whether a character repeats what stands before it. -/
def isRepetition (x : Char) : Bool := x = '\x7b' || (signCount? x).isSome

/-- The end of the group that is open, with its alternatives. -/
def OpenGroup.close (g : OpenGroup) (b : Branches) (c : Cursor) : Branches × Cursor :=
  let c' := { c.bump with skipsBlanks := g.skipsBlanks }
  (g.around.push (.group (g.opening.through c'.position) g.settings (b.close c.position)), c')

/-- The tree of a text that ends at the cursor, with the groups that are still open. -/
def closeText (b : Branches) (outer : List OpenGroup) (c : Cursor) : Except Problem Tree :=
  match outer with
  | [] => .ok (b.close c.position)
  | g :: _ => Problem.raise .groupOpen g.opening

/-- The tree of the rest of a text. Every part takes at least one of the `room` characters ahead. -/
def readParts (room : Nat) (b : Branches) (outer : List OpenGroup) (c : Cursor) :
    Except Problem Tree := do
  let c := c.settle
  match room, c.next? with
  | 0, _ => closeText b outer c
  | _, none => closeText b outer c
  | room + 1, some '(' =>
    match ← readHead c with
    | (.setting span settings, c) =>
      let skipsBlanks := (settings.find? .blanks).getD c.skipsBlanks
      readParts room (b.push (.setting span settings)) outer { c with skipsBlanks }
    | (.group opening settings, c) =>
      let g : OpenGroup := ⟨opening, settings, c.skipsBlanks, b⟩
      let skipsBlanks := (settings.bind (·.find? .blanks)).getD c.skipsBlanks
      readParts room (.startingAt c.position) (g :: outer) { c with skipsBlanks }
  | room + 1, some ')' =>
    match outer with
    | [] => Problem.raise .groupNotOpened c.nextSpan
    | g :: outer =>
      let (b, c) := g.close b c
      readParts room b outer c
  | room + 1, some '|' => readParts room (b.divide c.position c.bump.position) outer c.bump
  | room + 1, some '[' =>
    let (t, c) ← readBracket room c
    readParts room (b.push t) outer c
  | room + 1, some x =>
    if isRepetition x then
      let (b, c) ← readRepetition b c
      readParts room b outer c
    else
      let (a, c) ← readAtom c
      readParts room (b.push (.atom a)) outer c

/-- The tree of a text. -/
def Tree.read (text : List Char) : Except Problem Tree := do
  let c : Cursor := { ahead := text }
  let t ← readParts text.length (.startingAt c.position) [] c
  match t.tooDeep? deepest with
  | some span => Problem.raise .tooDeep span
  | none => return t

end TrialMeter.Pattern
