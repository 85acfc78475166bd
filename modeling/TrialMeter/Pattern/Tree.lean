import TrialMeter.Pattern.Span

/-!
# Pattern trees

A pattern is written as a tree: characters, places and sets of characters are put in a row, divided
into alternatives, repeated and grouped. Every part of the tree knows its span in the text, so that
a problem that shows only later can still be pointed at. Flags change what the parts after them
mean, up to the end of the group that they stand in.

## Main definitions

* `Atom`, `Members`, `Tree`: the parts of a pattern.
* `Tree.ofItems`: the tree of a row of parts.
* `Tree.tooDeep?`: the first part that lies deeper than a bound.
-/

namespace TrialMeter.Pattern

/-- A flag. -/
inductive Flag where
  /-- Letters of either case match each other. -/
  | anyCase
  /-- Lines have a start and an end of their own. -/
  | lines
  /-- The dot stands for the ends of lines, too. -/
  | dotAll
  /-- Repetitions prefer few copies. -/
  | fewFirst
  /-- Characters are meant, not bytes. -/
  | characters
  /-- Lines may end with a carriage return. -/
  | carriage
  /-- Blanks and comments mean nothing. -/
  | blanks
deriving DecidableEq, Repr

/-- Flags, each with whether it is set or cleared, in the order in which they are written. -/
abbrev Settings := List (Flag × Bool)

/-- What is said about a flag, if anything. -/
def Settings.find? (s : Settings) (f : Flag) : Option Bool := s.lookup f

/-- A character that stands for itself. It may be written as a byte, by two digits. -/
structure Literal where
  span : Span
  char : Char
  isByte : Bool := false
deriving DecidableEq, Repr

/-- A kind of places, as it is written. -/
inductive Anchor where
  /-- The start of the text, or of a line. -/
  | caret
  /-- The end of the text, or of a line. -/
  | dollar
  | textStart
  | textEnd
  | wordEdge
  | notWordEdge
  | wordStart
  | wordEnd
  | wordStartHalf
  | wordEndHalf
deriving DecidableEq, Repr

/-- Ranges of characters, given by their numbers, both ends included. -/
abbrev Ranges := List (Nat × Nat)

/-- The smallest parts of a pattern. -/
inductive Atom where
  | literal (l : Literal)
  /-- Any character, or any but the end of a line. -/
  | dot (span : Span)
  | anchor (span : Span) (a : Anchor)
  /-- Digits, blanks or the characters of words, of all scripts or, with `ranges`, of ASCII. -/
  | letters (span : Span) (ranges : Ranges) (negated : Bool)
  /-- The characters with a property. -/
  | property (span : Span) (name : List Char)
deriving DecidableEq, Repr

/-- The span of an atom. -/
def Atom.span : Atom → Span
  | literal l => l.span
  | dot s => s
  | anchor s _ => s
  | letters s _ _ => s
  | property s _ => s

/-- An atom that starts at an earlier place. -/
def Atom.startingAt (start : Position) : Atom → Atom
  | literal l => literal { l with span.start := start }
  | dot s => dot ⟨start, s.stop⟩
  | anchor s a => anchor ⟨start, s.stop⟩ a
  | letters s r n => letters ⟨start, s.stop⟩ r n
  | property s name => property ⟨start, s.stop⟩ name

/-- How two sets of characters are combined. -/
inductive Combination where
  | intersection
  | difference
  | symmetricDifference
deriving DecidableEq, Repr

/-- What stands between brackets. -/
inductive Members where
  | nothing (span : Span)
  | atom (a : Atom)
  | range (span : Span) (first last : Literal)
  /-- A set of ASCII characters that has a name. -/
  | named (span : Span) (ranges : Ranges) (negated : Bool)
  | bracket (span : Span) (negated : Bool) (members : Members)
  | union (span : Span) (items : List Members)
  | combined (span : Span) (how : Combination) (left right : Members)
deriving Repr

/-- The span of what stands between brackets. -/
def Members.span : Members → Span
  | nothing s => s
  | atom a => a.span
  | range s _ _ => s
  | named s _ _ => s
  | bracket s _ _ => s
  | union s _ => s
  | combined s _ _ _ => s

/-- A pattern as it is written. -/
inductive Tree where
  | empty (span : Span)
  /-- Flags for what follows. -/
  | setting (span : Span) (settings : Settings)
  | atom (a : Atom)
  | bracket (span : Span) (negated : Bool) (members : Members)
  /-- At least `least` and at most `most` copies, marked if few are preferred. -/
  | repetition (span : Span) (least : Nat) (most : Option Nat) (few : Bool) (item : Tree)
  /-- A group, either with flags of its own or one whose text is remembered. -/
  | group (span : Span) (settings : Option Settings) (item : Tree)
  | alternation (span : Span) (branches : List Tree)
  | concat (span : Span) (items : List Tree)
deriving Repr

namespace Tree

/-- The span of a tree. -/
def span : Tree → Span
  | empty s => s
  | setting s _ => s
  | atom a => a.span
  | bracket s _ _ => s
  | repetition s _ _ _ _ => s
  | group s _ _ => s
  | alternation s _ => s
  | concat s _ => s

/-- Whether a tree can be repeated. -/
def isRepeatable : Tree → Bool
  | empty _ => false
  | setting _ _ => false
  | _ => true

/-- The tree of a row of parts. -/
def ofItems (span : Span) : List Tree → Tree
  | [] => empty span
  | [item] => item
  | items => concat span items

end Tree

/-! ### Depth -/

/-- The step into a part that counts as a level: `here` is told if there is no `room`. -/
def descend (here : Span) (room : Nat) (below : Nat → Option Span) : Option Span :=
  match room with
  | 0 => some here
  | room + 1 => below room

mutual

/-- The first part of what stands between brackets that lies deeper than `room`. -/
def Members.tooDeep? (room : Nat) : Members → Option Span
  | .bracket s _ m => descend s room fun room => m.tooDeep? room
  | .union s items => descend s room fun room => Members.anyTooDeep? room items
  | .combined s _ l r => descend s room fun room => l.tooDeep? room <|> r.tooDeep? room
  | _ => none

/-- The first part of some members that lies deeper than `room`. -/
def Members.anyTooDeep? (room : Nat) : List Members → Option Span
  | [] => none
  | m :: rest => m.tooDeep? room <|> Members.anyTooDeep? room rest

end

mutual

/-- The first part of a tree that lies deeper than `room`. -/
def Tree.tooDeep? (room : Nat) : Tree → Option Span
  | .bracket s _ m => descend s room fun room => m.tooDeep? room
  | .repetition s _ _ _ t => descend s room fun room => t.tooDeep? room
  | .group s _ t => descend s room fun room => t.tooDeep? room
  | .alternation s ts => descend s room fun room => Tree.anyTooDeep? room ts
  | .concat s ts => descend s room fun room => Tree.anyTooDeep? room ts
  | _ => none

/-- The first part of some trees that lies deeper than `room`. -/
def Tree.anyTooDeep? (room : Nat) : List Tree → Option Span
  | [] => none
  | t :: rest => t.tooDeep? room <|> Tree.anyTooDeep? room rest

end

end TrialMeter.Pattern
