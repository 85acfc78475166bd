import TrialMeter.Pattern.CodeSet
import TrialMeter.Pattern.Problem

/-!
# The sets between brackets

What stands between brackets selects characters or, where bytes are meant, bytes; a selection of
bytes may hold ASCII characters only. Where letters of either case are to match each other, the
other case of each letter is added before a selection is inverted or combined. The cases of all
scripts are not known, so that this fails for characters, unless the selection is known to hold no
letter without its other case: it is empty, or comes from such selections.

## Main definitions

* `Modes`: the flags that are set.
* `Selection`: the characters that are selected.
* `Members.select`: the selection of what stands between brackets.
-/

namespace TrialMeter.Pattern

/-- The flags that are set. -/
abbrev Modes := Flag → Bool

/-- The flags that are set at the start. -/
def Modes.initial : Modes := (· = .characters)

/-- The flags after some are set or cleared. -/
def Modes.apply (modes : Modes) (settings : Settings) : Modes := fun f =>
  (settings.find? f).getD (modes f)

/-- Selected characters or bytes. -/
structure Selection where
  codes : CodeSet
  /-- Whether each letter is known to come with its other case. -/
  isFolded : Bool := false
deriving DecidableEq, Repr

namespace Selection

/-- The selection of nothing. -/
def empty : Selection := ⟨.empty, true⟩

/-- The selection of the characters in some ranges. Numbers that are of no character do not count.
-/
def ofRanges (ranges : Ranges) : Selection :=
  ⟨(CodeSet.ofRanges ranges).intersection .characters, ranges.isEmpty⟩

/-- What one of two selections holds. -/
def union (s t : Selection) : Selection :=
  if t.codes.isEmpty || s.codes = t.codes then s
  else ⟨s.codes.union t.codes, s.isFolded && t.isFolded⟩

/-- What both of two selections hold. -/
def intersection (s t : Selection) : Selection :=
  if s.codes.isEmpty then s
  else if t.codes.isEmpty then empty
  else ⟨s.codes.intersection t.codes, s.isFolded && t.isFolded⟩

/-- What a selection holds and another one does not. -/
def difference (s t : Selection) : Selection :=
  if s.codes.isEmpty || t.codes.isEmpty then s
  else ⟨s.codes.difference t.codes, s.isFolded && t.isFolded⟩

/-- Two selections combined. -/
def combine (how : Combination) (s t : Selection) : Selection :=
  match how with
  | .intersection => s.intersection t
  | .difference => s.difference t
  | .symmetricDifference => (s.union t).difference (s.intersection t)

/-- What a selection does not hold of a whole. -/
def invert (whole : CodeSet) (s : Selection) : Selection :=
  if s.codes.isEmpty then ⟨whole, true⟩ else ⟨whole.difference s.codes, s.isFolded⟩

/-- A selection with the other case of each letter, if that is asked for. -/
def fold (modes : Modes) (span : Span) (s : Selection) : Except Problem Selection :=
  if !modes .anyCase || s.isFolded then .ok s
  else if !modes .characters then .ok ⟨s.codes.foldCase, true⟩
  else if s.codes.isEmpty then .ok empty
  else Problem.raise .caseUnknown span

/-- A selection as the brackets at `span` take it. -/
def close (modes : Modes) (span : Span) (negated : Bool) (s : Selection) :
    Except Problem Selection := do
  let s ← s.fold modes span
  let whole := if modes .characters then CodeSet.characters else CodeSet.bytes
  let s := if negated then s.invert whole else s
  if modes .characters || s.codes.isAscii then return s
  else Problem.raise .notText span

end Selection

/-- The character that a literal stands for. Where bytes are meant, a byte above the ASCII ones is
no character. -/
def Literal.plain (modes : Modes) (l : Literal) : Except Problem Char :=
  if !modes .characters && l.isByte && 128 ≤ l.char.toNat then Problem.raise .notText l.span
  else .ok l.char

/-- The number that a literal between brackets stands for. -/
def Literal.code (modes : Modes) (l : Literal) : Except Problem Nat := do
  let c ← l.plain modes
  if modes .characters || c.toNat < 128 then return c.toNat
  else Problem.raise .notByte l.span

/-- The digits, blanks or characters of words that an escape stands for. Those of all scripts are
not known. -/
def selectLetters (modes : Modes) (span : Span) (ranges : Ranges) (negated : Bool) :
    Except Problem Selection :=
  if modes .characters then Problem.raise .scriptsUnknown span
  else
    let s := Selection.ofRanges ranges
    if negated then Problem.raise .notText span else .ok s

/-- The name of a property without the signs that do not count: its case, blanks, underscores, minus
signs, characters above the ASCII ones, and `is` in front. -/
def propertyName (name : List Char) : List Char :=
  let name :=
    match name with
    | i :: s :: rest => if i.toLower = 'i' && s.toLower = 's' then rest else name
    | _ => name
  (name.filter fun c => c ≠ ' ' && c ≠ '_' && c ≠ '-' && c.toNat < 128).map Char.toLower

/-- The properties that are known as values of another one, whose values are not known. -/
def valueNames : List String := ["cf", "sc", "lc"]

/-- The characters with a property. No property is known. -/
def selectProperty (modes : Modes) (span : Span) (name : List Char) : Except Problem Selection :=
  let reason :=
    if !modes .characters then Reason.notByte
    else if valueNames.contains (String.ofList (propertyName name)) then .propertyValueUnknown
    else .propertyUnknown
  Problem.raise reason span

/-- The characters that an atom selects between brackets. A place selects none. -/
def Atom.select (modes : Modes) : Atom → Except Problem Selection
  | .literal l => do
    let n ← l.code modes
    return .ofRanges [(n, n)]
  | .letters span ranges negated => selectLetters modes span ranges negated
  | .property span name => selectProperty modes span name
  | .dot _ => .ok .empty
  | .anchor _ _ => .ok .empty

mutual

/-- The selection of what stands between brackets. -/
def Members.select (modes : Modes) : Members → Except Problem Selection
  | .nothing _ => .ok .empty
  | .atom a => a.select modes
  | .range _ first last => do
    let low ← first.code modes
    let high ← last.code modes
    return .ofRanges [(low, high)]
  | .named span ranges negated => (Selection.ofRanges ranges).close modes span negated
  | .bracket span negated m => do
    let s ← m.select modes
    s.close modes span negated
  | .union _ items => Members.selectAny modes .empty items
  | .combined _ how left right => do
    let s ← left.select modes
    let t ← right.select modes
    let t ← t.fold modes right.span
    let s ← s.fold modes left.span
    return .combine how s t

/-- The selection of several items, added to `s`. -/
def Members.selectAny (modes : Modes) (s : Selection) : List Members → Except Problem Selection
  | [] => .ok s
  | m :: rest => do
    let t ← m.select modes
    Members.selectAny modes (s.union t) rest

end

end TrialMeter.Pattern
