import TrialMeter.Pattern.Span
import TrialMeter.Text.Words

/-!
# Problems with a pattern

A text that is no pattern has a problem: a reason, and the part of the text that it concerns. Some
problems concern a second part of the text, such as the first one of two names that are equal. The
report of a problem shows the text with marks under these parts. A text of one line is indented; the
lines of a longer one are numbered, and a part that crosses lines is described in words.

## Main definitions

* `Reason`, `Reason.message`: what can be wrong with a pattern.
* `Problem`, `Problem.report`: what is wrong with a text, and how it is told.
-/

namespace TrialMeter.Pattern

/-- The number of groups and brackets that may stand inside each other. -/
def deepest : Nat := 250

/-- What can be wrong with a pattern. -/
inductive Reason where
  | tooDeep
  /-- An escape that cannot stand between brackets. -/
  | bracketEscape
  | rangeOrder
  | rangeEnd
  | bracketOpen
  | numberTooLarge
  | hexEmpty
  | hexNoCharacter
  | hexDigit
  /-- The text ends inside an escape. -/
  | escapeCut
  | escapeUnknown
  | flagMinusLast
  | flagTwice
  | flagMinusTwice
  /-- The text ends inside a list of flags. -/
  | flagsCut
  | flagUnknown
  | nameTwice
  | nameEmpty
  | nameCharacter
  /-- The text ends inside a name. -/
  | nameCut
  | groupOpen
  | groupNotOpened
  | countOrder
  | countEmpty
  | countOpen
  | nothingRepeated
  | wordEdgeOpen
  | wordEdgeUnknown
  /-- The text ends after a brace that follows a word boundary. -/
  | wordEdgeCut
  | propertyEscape
  | backreference
  | lookAround
  /-- A character above the ASCII ones where a byte is asked for. -/
  | notByte
  /-- A pattern that stands for bytes that are no characters. -/
  | notText
  | propertyUnknown
  | propertyValueUnknown
  | scriptsUnknown
  | caseUnknown
deriving DecidableEq, Repr

/-- The wording of a reason. -/
def Reason.message : Reason → String
  | tooDeep =>
    "exceed the maximum number of nested parentheses/brackets (" ++ toString deepest ++ ")"
  | bracketEscape => "invalid escape sequence found in character class"
  | rangeOrder => "invalid character class range, the start must be <= the end"
  | rangeEnd => "invalid range boundary, must be a literal"
  | bracketOpen => "unclosed character class"
  | numberTooLarge => "decimal literal invalid"
  | hexEmpty => "hexadecimal literal empty"
  | hexNoCharacter => "hexadecimal literal is not a Unicode scalar value"
  | hexDigit => "invalid hexadecimal digit"
  | escapeCut => "incomplete escape sequence, reached end of pattern prematurely"
  | escapeUnknown => "unrecognized escape sequence"
  | flagMinusLast => "dangling flag negation operator"
  | flagTwice => "duplicate flag"
  | flagMinusTwice => "flag negation operator repeated"
  | flagsCut => "expected flag but got end of regex"
  | flagUnknown => "unrecognized flag"
  | nameTwice => "duplicate capture group name"
  | nameEmpty => "empty capture group name"
  | nameCharacter => "invalid capture group character"
  | nameCut => "unclosed capture group name"
  | groupOpen => "unclosed group"
  | groupNotOpened => "unopened group"
  | countOrder => "invalid repetition count range, the start must be <= the end"
  | countEmpty => "repetition quantifier expects a valid decimal"
  | countOpen => "unclosed counted repetition"
  | nothingRepeated => "repetition operator missing expression"
  | wordEdgeOpen =>
    "special word boundary assertion is either unclosed or contains an invalid character"
  | wordEdgeUnknown =>
    "unrecognized special word boundary assertion, valid choices are: start, end, start-half "
      ++ "or end-half"
  | wordEdgeCut =>
    "found either the beginning of a special word boundary or a bounded repetition on a \\b with "
      ++ "an opening brace, but no closing brace"
  | propertyEscape => "invalid Unicode character class"
  | backreference => "backreferences are not supported"
  | lookAround => "look-around, including look-ahead and look-behind, is not supported"
  | notByte => "Unicode not allowed here"
  | notText => "pattern can match invalid UTF-8"
  | propertyUnknown => "Unicode property not found"
  | propertyValueUnknown => "Unicode property value not found"
  | scriptsUnknown =>
    "Unicode-aware Perl class not found (make sure the unicode-perl feature is enabled)"
  | caseUnknown =>
    "Unicode-aware case insensitivity matching is not available (make sure the unicode-case "
      ++ "feature is enabled)"

/-- What is wrong with a text. -/
structure Problem where
  reason : Reason
  /-- The part of the text that is to blame. -/
  span : Span
  /-- The part of the text that it collides with. -/
  earlier : Option Span := none
deriving DecidableEq, Repr

/-- The lines of a text without the characters that end them. A line may end with a carriage return
and a line feed. -/
def linesOf (text : List Char) : List (List Char) :=
  match (Text.split (· = '\n') text).reverse with
  | [] => []
  | last :: ended =>
    let ended := ended.reverse.map fun line =>
      if line.getLast? = some '\r' then line.dropLast else line
    if last.isEmpty then ended else ended ++ [last]

/-- `n` spaces. -/
def spaces (n : Nat) : List Char := List.replicate n ' '

/-- The marks under the spans of a line, which are listed from the left. A span without characters
has one mark. -/
def marks (spans : List Span) : List Char :=
  spans.foldl (fun line s =>
    line ++ spaces (s.start.column - 1 - line.length)
      ++ List.replicate (max 1 (s.stop.column - s.start.column)) '^') []

namespace Problem

/-- The failure for a reason that concerns one part of the text. -/
def raise {α : Type} (reason : Reason) (span : Span) : Except Problem α := .error { reason, span }

/-- The parts of the text that a problem concerns, from the left. -/
def spans (p : Problem) : List Span :=
  (p.span :: p.earlier.toList).mergeSort Span.isBefore

/-- The lines of the text, each with a column `number line` in front and with marks below. -/
def notated (p : Problem) (width : Nat) (number : Nat → List Char) (lines : List (List Char)) :
    List Char :=
  (lines.zipIdx 1).flatMap fun (text, line) =>
    let marked := p.spans.filter fun s => s.isOnOneLine && s.start.line = line
    number line ++ text ++ ['\n']
      ++ if marked.isEmpty then [] else spaces width ++ marks marked ++ ['\n']

/-- A part of the text that crosses lines, in words. -/
def crossing (s : Span) : String :=
  "on line " ++ toString s.start.line ++ " (column " ++ toString s.start.column
    ++ ") through line " ++ toString s.stop.line ++ " (column " ++ toString (s.stop.column - 1)
    ++ ")\n"

/-- The report of a problem with a pattern. -/
def report (p : Problem) (pattern : List Char) : String :=
  let lines := linesOf pattern
  let count := lines.length + if pattern.getLast? = some '\n' then 1 else 0
  let width := (toString count).length
  let number (n : Nat) : List Char :=
    let digits := (toString n).toList
    spaces (width - digits.length) ++ digits ++ [':', ' ']
  let shown := String.ofList <|
    if count ≤ 1 then p.notated 4 (fun _ => spaces 4) lines else p.notated (width + 2) number lines
  let divider := String.ofList (List.replicate 79 '~') ++ "\n"
  "regex parse error:\n"
    ++ (if pattern.contains '\n' then
        divider ++ shown ++ divider
          ++ String.join ((p.spans.filter fun s => !s.isOnOneLine).map crossing)
      else shown)
    ++ "error: " ++ p.reason.message

end Problem

end TrialMeter.Pattern
