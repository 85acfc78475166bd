import TrialMeter.Pattern.Machine.OfPattern
import TrialMeter.Pattern.Machine.Search
import TrialMeter.Pattern.Meaning
import TrialMeter.Pattern.Starts
import TrialMeter.Pattern.Tree.Reader

/-!
# Patterns from text

A text is made a pattern in two steps: it is read, and the tree is given its meaning. A pattern that
is no more than a list of words is searched for by a machine for these words. For any other one, two
machines are made: one that reads forward tells whether the pattern is found, and one that reads
backward tells where it starts. A pattern is refused if the machine that reads forward is too large,
if the words of all scripts have to be known, or if the machine that reads backward is too large.

## Main definitions

* `Refusal`, `Refusal.report`: why a text stands for no pattern, and how it is told.
* `Pattern.ofText`: the pattern that a text stands for.
* `Pattern.machine`: the machine that finds a pattern.
* `Pattern.compile`: the machine that finds the pattern that a text stands for.
-/

namespace TrialMeter.Pattern

/-- Why a text stands for no pattern. -/
inductive Refusal where
  /-- The text is wrong at some place. -/
  | problem (p : Problem)
  /-- The machines that search for the pattern are too large. -/
  | tooLarge
  /-- The machines cannot tell where the words of all scripts begin and end. -/
  | scriptsUnknown
deriving DecidableEq, Repr

/-- The report of a refusal of a text. -/
def Refusal.report (text : List Char) : Refusal → String
  | problem p => p.report text
  | tooLarge => "Compiled regex exceeds size limit of " ++ toString sizeLimit ++ " bytes."
  | scriptsUnknown => "error building NFA"

/-- The pattern that a text stands for. -/
def ofText (text : List Char) : Except Problem Pattern := do
  let tree ← Tree.read text
  let (p, _) ← tree.meaning .initial
  return p

/-- The machine that finds a pattern, if the pattern can be searched for in both directions. -/
def machineBothWays (p : Pattern) : Except Refusal Machine :=
  match Machine.ofPattern? .forward p with
  | none => .error .tooLarge
  | some m =>
    if p.asksScripts then .error .scriptsUnknown
    else if (Machine.ofPattern? .backward p).isNone then .error .tooLarge
    else .ok m

/-- The machine that finds a pattern. -/
def machine (p : Pattern) : Except Refusal Machine :=
  match p.words?.bind Machine.ofWords? with
  | some m => .ok m
  | none => p.machineBothWays

/-- The machine that finds the pattern that a text stands for. -/
def compile (text : List Char) : Except Refusal Machine := do
  let p ← (ofText text).mapError .problem
  p.machine

end TrialMeter.Pattern
