import TrialMeter.Pattern.Basic
import TrialMeter.Pattern.Encoding

/-!
# What the texts of a pattern start with

The texts of a pattern may be many, but they often start with one of few words. These are listed,
the preferred ones first. A word is whole if it is one of the texts and not only what a longer one
starts with. A list that would get too long is given up, and a word that would get too long is cut.

If all words of the list are whole, they are the texts of the pattern, and it can be searched for as
a list of words. This is not done if fewer or shorter words tell almost as well where one of the
texts may stand.

## Main definitions

* `Start`, `Starts`: words, and lists of them.
* `Starts.andThen`, `Starts.either`: what rows and alternatives start with.
* `Pattern.starts`: what the texts of a pattern start with.
* `Pattern.words?`: the words that are searched for instead of a pattern.
-/

namespace TrialMeter.Pattern

/-! ### Words -/

/-- The bytes that a text starts with, and whether there is a text that ends after them. -/
structure Start where
  bytes : List Nat
  isWhole : Bool := true
deriving DecidableEq, Repr

namespace Start

/-- The start of every text. -/
def nothing : Start := ⟨[], true⟩

/-- A word that other bytes follow. -/
def goingOn (s : Start) : Start := { s with isWhole := false }

/-- A word with at most `n` bytes. -/
def cut (n : Nat) (s : Start) : Start :=
  if s.bytes.length ≤ n then s else ⟨s.bytes.take n, false⟩

/-- A word with what comes after it. -/
def andThen (s t : Start) : Start := ⟨s.bytes ++ t.bytes, t.isWhole⟩

/-- Words without those that repeat the one before them. Of two that are equal, the one that is left
is whole if both are. -/
def joinEqual (ss : List Start) : List Start :=
  ss.foldr (fun s rest =>
    match rest with
    | t :: others =>
      if s.bytes = t.bytes then ⟨s.bytes, s.isWhole && t.isWhole⟩ :: others else s :: rest
    | [] => [s]) []

/-- Words with at most `n` bytes, without repetitions. -/
def cutAll (n : Nat) (ss : List Start) : List Start := joinEqual (ss.map (cut n))

/-- Words without those that start with an earlier one. -/
def withoutLonger (ss : List Start) : List Start :=
  ss.foldl (fun kept s =>
    if kept.any (·.bytes.isPrefixOf s.bytes) then kept else kept ++ [s]) []

/-- What two texts start with in common. -/
def sharedBytes : List Nat → List Nat → List Nat
  | a :: as, b :: bs => if a = b then a :: sharedBytes as bs else []
  | _, _ => []

/-- What all words start with. -/
def allShare : List Start → List Nat
  | [] => []
  | s :: rest => rest.foldl (fun shared t => sharedBytes shared t.bytes) s.bytes

end Start

/-! ### Lists of words -/

/-- What the texts of a pattern start with. -/
inductive Starts where
  /-- Anything: there are too many words. -/
  | anything
  | listed (ss : List Start)
deriving DecidableEq, Repr

namespace Starts

/-- The words of a list at most. -/
def mostWords : Nat := 250

/-- The bytes of a word at most. -/
def mostBytes : Nat := 100

/-- The characters of a set whose characters are listed at most. -/
def mostCharacters : Nat := 10

/-- The copies of a repetition that are looked at. -/
def mostCopies : Nat := 10

/-- The bytes that words are cut to when room is needed for others. -/
def fewBytes : Nat := 4

/-- The start of the empty text. -/
def nothing : Starts := listed [.nothing]

/-- The words of texts that other bytes follow. -/
def goingOn : Starts → Starts
  | anything => anything
  | listed ss => listed (ss.map .goingOn)

/-- Whether no word is whole, so that what follows does not count. -/
def isOpen : Starts → Bool
  | anything => true
  | listed ss => ss.all (!·.isWhole)

/-- The words of a list where anything may follow. -/
def andAnything (ss : List Start) : Starts :=
  if ss.any (·.bytes.isEmpty) then anything else listed (ss.map .goingOn)

/-- What two texts in a row start with. -/
def andThen : Starts → Starts → Starts
  | anything, _ => anything
  | listed ss, anything => andAnything ss
  | listed ss, listed ts =>
    if mostWords < ss.length * ts.length then andAnything ss
    else
      let words := ss.flatMap fun s => if s.isWhole then ts.map s.andThen else [s]
      listed ((Start.joinEqual words).map (.cut mostBytes))

/-- What one of two texts starts with. -/
def either : Starts → Starts → Starts
  | anything, _ => anything
  | _, anything => anything
  | listed ss, listed ts =>
    if ss.length + ts.length ≤ mostWords then listed (Start.joinEqual (ss ++ ts))
    else
      let ss := Start.cutAll fewBytes ss
      let ts := Start.cutAll fewBytes ts
      if ss.length + ts.length ≤ mostWords then listed (Start.joinEqual (ss ++ ts)) else anything

/-- What `n` copies of a text behind another one start with. -/
def andCopies (text before : Starts) : Nat → Starts
  | 0 => before
  | n + 1 => if before.isOpen then before else andCopies text (before.andThen text) n

/-- The characters of a set. -/
def ofSet (s : CodeSet) : Starts :=
  if mostCharacters < s.ranges.foldl (fun n r => n + (r.2 + 1 - r.1)) 0 then anything
  else
    listed (s.ranges.flatMap fun r =>
      (List.range' r.1 (r.2 + 1 - r.1)).map fun n => ⟨encode [Char.ofNat n], true⟩)

/-- What copies of a text start with. -/
def copies (text : Starts) (least : Nat) (most : Option Nat) (many : Bool) : Starts :=
  if least = 0 then
    let some := if most = some 1 then text else text.goingOn
    if many then some.either nothing else nothing.either some
  else
    let first := andCopies text nothing (min least mostCopies)
    if most = some least && least ≤ mostCopies then first else first.goingOn

end Starts

/-! ### Patterns -/

mutual

/-- What the texts of a pattern start with. -/
def starts : Pattern → Starts
  | empty => .nothing
  | word cs => .listed [.cut Starts.mostBytes ⟨encode cs, true⟩]
  | chars s _ => .ofSet s
  | look _ _ => .nothing
  | copies p least most many => p.starts.copies least most many
  | group _ p => p.starts
  | row ps => rowStarts .nothing ps
  | oneOf ps => eitherStarts (.listed []) ps

/-- What patterns in a row behind a text start with. -/
def rowStarts (before : Starts) : List Pattern → Starts
  | [] => before
  | p :: ps => if before.isOpen then before else rowStarts (before.andThen p.starts) ps

/-- What one of some patterns, or another text, starts with. -/
def eitherStarts (other : Starts) : List Pattern → Starts
  | [] => other
  | p :: ps => if other = .anything then other else eitherStarts (other.either p.starts) ps

end

mutual

/-- Whether a pattern has neither groups nor places. -/
def isPlain : Pattern → Bool
  | look _ _ => false
  | copies p _ _ _ => p.isPlain
  | group _ _ => false
  | row ps => areAllPlain ps
  | oneOf ps => areAllPlain ps
  | _ => true

/-- Whether no pattern has groups or places. -/
def areAllPlain : List Pattern → Bool
  | [] => true
  | p :: ps => p.isPlain && areAllPlain ps

end

/-! ### Searching for words -/

/-- The ASCII characters that are rare in texts. -/
def rareBytes : Ranges :=
  [(0x00, 0x09), (0x0b, 0x0c), (0x0e, 0x1f), (0x21, 0x27), (0x2a, 0x2b), (0x33, 0x38), (0x3b, 0x5e),
    (0x60, 0x60), (0x6a, 0x6b), (0x71, 0x71), (0x77, 0x77), (0x7a, 0x7b), (0x7d, 0x7f)]

/-- Words of which only what they share is kept, if it is telling: a rare first byte, or several
bytes that spare many words. -/
def keepShared (count : Nat) (ss : List Start) : List Start :=
  let shared := Start.allShare ss
  let isRare := shared.head?.any fun b => rareBytes.any fun r => r.1 ≤ b && b ≤ r.2
  let areFew := ss.all (·.isWhole) && ss.length ≤ 16
  if 1 < count && shared.length ≤ 3 && isRare then Start.cutAll 1 ss
  else if 4 < shared.length || (1 < shared.length && !areFew) then Start.cutAll shared.length ss
  else ss

/-- Words cut shorter and shorter, as long as there are more than a number of them. -/
def shorten (ss : List Start) : List (Nat × Nat) → List Start
  | [] => ss
  | (bytes, most) :: rest =>
    if ss.length ≤ most then ss else shorten (Start.withoutLonger (ss.map (.cut bytes))) rest

/-- Whether whole words are better than shorter ones: these are the same, very short, or still many.
-/
def areBestWhole (ss : List Start) : Bool :=
  let short := shorten ss [(5, 10), (4, 10), (3, 64), (2, 64), (1, 10)]
  short.all (·.isWhole) || short.any (·.bytes.length ≤ 2) || 64 < short.length

/-- The words that are searched for, given by their bytes, if a pattern is no more than that. -/
def words? (p : Pattern) : Option (List (List Nat)) :=
  match if p.isPlain then p.starts else .anything with
  | .anything => none
  | .listed ss =>
    if ss.isEmpty || ss.any (·.bytes.isEmpty) then none
    else
      let kept := keepShared ss.length (Start.withoutLonger ss)
      if kept.all (·.isWhole) && areBestWhole kept then some (kept.map (·.bytes)) else none

end TrialMeter.Pattern
