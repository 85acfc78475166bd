import TrialMeter.Pattern.Selection
import TrialMeter.Pattern.Simple

/-!
# What pattern trees mean

The meaning of a tree is a pattern, found by following the flags from the left. A flag that is set
in a group holds for the rest of the group, also for the alternatives that follow.

## Main definitions

* `Tree.meaning`: the meaning of a tree.
-/

namespace TrialMeter.Pattern

/-- The meaning of a kind of places. The words are those of all scripts unless bytes are meant. -/
def Anchor.meaning (modes : Modes) (a : Anchor) : Pattern :=
  let atLine (text line carriage : Look) : Pattern :=
    .look (if !modes .lines then text else if modes .carriage then carriage else line) false
  let atWord (l : Look) : Pattern := .look l (modes .characters)
  match a with
  | caret => atLine .textStart .lineStart .carriageStart
  | dollar => atLine .textEnd .lineEnd .carriageEnd
  | textStart => .look .textStart false
  | textEnd => .look .textEnd false
  | wordEdge => atWord .wordEdge
  | notWordEdge => atWord .notWordEdge
  | wordStart => atWord .wordStart
  | wordEnd => atWord .wordEnd
  | wordStartHalf => atWord .wordStartHalf
  | wordEndHalf => atWord .wordEndHalf

/-- The meaning of a literal. The other case of a letter is known for ASCII letters only. -/
def Literal.meaning (modes : Modes) (l : Literal) : Except Problem Pattern := do
  let c ← l.plain modes
  if !modes .anyCase then return .word [c]
  else if modes .characters then Problem.raise .caseUnknown l.span
  else return .ofSet (CodeSet.foldCase ⟨[(c.toNat, c.toNat)]⟩) true

/-- The characters that the dot stands for. -/
def dotSet (modes : Modes) : CodeSet :=
  let ends := if modes .dotAll then [] else if modes .carriage then ['\n', '\r'] else ['\n']
  CodeSet.characters.difference ⟨ends.map fun c => (c.toNat, c.toNat)⟩

/-- The meaning of selected characters, or bytes. -/
def Selection.meaning (modes : Modes) (s : Selection) : Pattern :=
  .ofSet s.codes (!modes .characters)

/-- The meaning of an atom. -/
def Atom.meaning (modes : Modes) : Atom → Except Problem Pattern
  | .literal l => l.meaning modes
  | .dot span =>
    if modes .characters then .ok (.ofSet (dotSet modes) false) else Problem.raise .notText span
  | .anchor _ a => .ok (a.meaning modes)
  | .letters span ranges negated => do
    let s ← selectLetters modes span ranges negated
    return s.meaning modes
  | .property span name => do
    let s ← selectProperty modes span name
    return s.meaning modes

mutual

/-- The meaning of a tree, and the flags behind it. -/
def Tree.meaning (modes : Modes) : Tree → Except Problem (Pattern × Modes)
  | .empty _ => .ok (.empty, modes)
  | .setting _ settings => .ok (.empty, modes.apply settings)
  | .atom a => do
    let p ← a.meaning modes
    return (p, modes)
  | .bracket span negated members => do
    let s ← members.select modes
    let s ← s.close modes span negated
    return (s.meaning modes, modes)
  | .repetition _ least most few item => do
    let (p, modes) ← item.meaning modes
    return (.ofCopies p least most (few == modes .fewFirst), modes)
  | .group span none item => do
    let (p, _) ← item.meaning modes
    return (.group span.start.offset p, modes)
  | .group _ (some settings) item => do
    let (p, _) ← item.meaning (modes.apply settings)
    return (p, modes)
  | .alternation _ branches => do
    let (ps, modes) ← Tree.meanings modes branches
    return (.ofAlternatives ps, modes)
  | .concat _ items => do
    let (ps, modes) ← Tree.meanings modes items
    return (.ofRow ps, modes)

/-- The meanings of several trees, each with the flags behind the one before it. -/
def Tree.meanings (modes : Modes) : List Tree → Except Problem (List Pattern × Modes)
  | [] => .ok ([], modes)
  | t :: rest => do
    let (p, modes) ← t.meaning modes
    let (ps, modes) ← Tree.meanings modes rest
    return (p :: ps, modes)

end

end TrialMeter.Pattern
