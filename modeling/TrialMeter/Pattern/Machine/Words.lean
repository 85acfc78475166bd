import TrialMeter.Pattern.Machine.Draft

/-!
# Machines for words

Alternatives that are texts are kept in a tree, so that texts that start alike share their states.
The texts before another one stay before it: where a text ends, the branches so far are closed, and
a text that comes later and starts alike gets branches of its own.

## Main definitions

* `WordTree`, `WordTree.insert`: the tree of some texts.
* `WordTree.draft`: the part of a machine that reads one of the texts.
-/

namespace TrialMeter.Pattern

/-- A tree of texts. At a node, a text ends after each of the closed lists of branches; the open
branches are those that later texts may still share. Branches are told by their first bytes, which
rise. -/
inductive WordTree where
  | node (closed : List (List (Nat × WordTree))) (current : List (Nat × WordTree))

namespace WordTree

/-- The tree without texts. -/
def empty : WordTree := node [] []

/-- Whether nothing follows at a node. -/
def isLeaf : WordTree → Bool
  | node closed current => current.isEmpty && closed.all List.isEmpty

/-- The tree after a text has ended at its root. -/
def finish : WordTree → WordTree
  | node closed current =>
    if current.isEmpty && !closed.isEmpty && closed.all List.isEmpty then node closed current
    else node (closed ++ [current]) []

/-- Branches with a change to the one of a byte. -/
def changeBranch (byte : Nat) (change : WordTree → WordTree) :
    List (Nat × WordTree) → List (Nat × WordTree)
  | [] => [(byte, change empty)]
  | (b, t) :: rest =>
    if byte < b then (byte, change empty) :: (b, t) :: rest
    else if byte = b then (b, change t) :: rest
    else (b, t) :: changeBranch byte change rest

/-- The tree with one more text, given by its bytes. -/
def insert : List Nat → WordTree → WordTree
  | [], t => t.finish
  | byte :: rest, node closed current => node closed (changeBranch byte (insert rest) current)

/-- The tree of some texts, given by their bytes. -/
def ofWords (words : List (List Nat)) : WordTree :=
  words.foldl (fun t word => t.insert word) empty

/-- The states that read the first byte of some branches: none if there are no branches. -/
def addEdges : List Edge → Drafting (List Nat)
  | [] => pure []
  | [e] => do
    let s ← addState (.read e)
    return [s]
  | es => do
    let s ← addState (.readAny es)
    return [s]

mutual

/-- The state that reads one of the texts of a tree, and goes on to `last`. -/
def add (last : Nat) : WordTree → Drafting Nat
  | node closed current => do
    let ended ← addClosed last closed
    let edges ← addBranches last current
    let ways ← addEdges edges
    addState (.choice (ended ++ ways))

/-- The ways of the closed lists of branches, each followed by the end of a text. -/
def addClosed (last : Nat) : List (List (Nat × WordTree)) → Drafting (List Nat)
  | [] => pure []
  | branches :: rest => do
    let edges ← addBranches last branches
    let ways ← addEdges edges
    let others ← addClosed last rest
    return ways ++ last :: others

/-- The edges of some branches. Where nothing follows, the text ends. -/
def addBranches (last : Nat) : List (Nat × WordTree) → Drafting (List Edge)
  | [] => pure []
  | (byte, t) :: rest => do
    let next ← if t.isLeaf then pure last else t.add last
    let others ← addBranches last rest
    return ⟨byte, byte, next⟩ :: others

end

/-- The part of a machine that reads one of the texts of a tree. -/
def draft (t : WordTree) : Drafting Part := do
  let last ← addPass
  let first ← t.add last
  return ⟨first, last⟩

end WordTree

end TrialMeter.Pattern
