import TrialMeter.Log.Level
import TrialMeter.Pattern.Compile

/-!
# Log filters

A filter says which lines of the log are written. It is given by a text: rules, divided by commas,
and after a slash a pattern that has to be found in a message. A rule is a level, a path, or a path
and a level with an equals sign between them. It holds for the targets whose path begins with the
path of the rule; the longest such path decides, and of equal ones the last. A part of the text that
is no rule or no pattern is passed over with a warning.

## Main definitions

* `Rule`, `Filter`: what is written.
* `Filter.parse`: reading a filter, with the warnings.
* `Filter.passes`: whether a line is written; `Line.text`: how.
-/

namespace TrialMeter.Log

/-- A rule holds for the targets whose path begins with `path`, and lets the levels of rank `limit`
and below through. The empty path holds for every target, and limit zero lets nothing through. -/
structure Rule where
  path : List Char
  limit : Nat
deriving DecidableEq, Repr

/-- The limit that lets every level through. -/
def unlimited : Nat := Level.trace.rank

/-- The limit that a text asks for: `off`, or the name of the last level that passes, in any case of
the letters `A` to `Z`. -/
def limitOf? (text : List Char) : Option Nat :=
  let name := String.ofList (text.map Char.toUpper)
  if name = "OFF" then some 0 else (Level.all.find? (·.name = name)).map Level.rank

/-- The warning about a part of a filter text. -/
def warning (part : List Char) (reason : String) : String :=
  "warning: invalid logging spec '" ++ String.ofList part ++ "', ignoring it" ++ reason ++ "\n"

/-- The rule that a text stands for, or a warning. -/
def Rule.parse (text : List Char) : Except String Rule :=
  match Text.split (· = '=') text with
  | [part] =>
    match limitOf? part with
    | some limit => .ok ⟨[], limit⟩
    | none => .ok ⟨part, unlimited⟩
  | [path, level] =>
    let level := Text.trim level
    if level.isEmpty then .ok ⟨path, unlimited⟩
    else
      match limitOf? level with
      | some limit => .ok ⟨path, limit⟩
      | none => .error (warning level "")
  | _ => .error (warning text "")

/-- What is written of a log. -/
structure Filter where
  rules : List Rule
  /-- What finds the pattern in a message, if there is one. -/
  pattern : Option Pattern.Machine := none
deriving DecidableEq, Repr

namespace Filter

/-- The filter without rules lets errors through. -/
def default : Filter := ⟨[⟨[], Level.error.rank⟩], none⟩

/-- The rules and the warnings of the parts between commas. -/
def parseRules (parts : List (List Char)) : List Rule × List String :=
  parts.foldr (fun part (rules, warnings) =>
    match Text.trim part with
    | [] => (rules, warnings)
    | text =>
      match Rule.parse text with
      | .ok rule => (rule :: rules, warnings)
      | .error w => (rules, w :: warnings)) ([], [])

/-- What finds the pattern that a text stands for, and the warning if it stands for none. -/
def parsePattern (text : List Char) : Option Pattern.Machine × List String :=
  match Pattern.compile text with
  | .ok machine => (some machine, [])
  | .error refusal =>
    (none, ["warning: invalid regex filter - " ++ refusal.report text ++ "\n"])

/-- The filter that a text stands for, and the warnings. A text with more than one slash is passed
over as a whole. -/
def parse (text : String) : Filter × List String :=
  let read (rules : List Char) (pattern : Option Pattern.Machine) (late : List String) :
      Filter × List String :=
    match parseRules (Text.split (· = ',') rules) with
    | ([], warnings) => ({ default with pattern }, warnings ++ late)
    | (rules, warnings) => ({ rules, pattern }, warnings ++ late)
  match Text.split (· = '/') text.toList with
  | [rules] => read rules none []
  | [rules, pattern] =>
    let (pattern, late) := parsePattern pattern
    read rules pattern late
  | _ => (default, [warning text.toList " (too many '/'s)"])

/-- The rule that decides about a target: of the rules that hold for it, the last one of those with
the longest path. -/
def ruleFor? (f : Filter) (target : Target) : Option Rule :=
  (f.rules.filter fun r => r.path.isPrefixOf target.path.toList).foldl (fun best r =>
    match best with
    | some b => if b.path.length ≤ r.path.length then some r else some b
    | none => some r) none

/-- Whether a line is written. -/
def passes (f : Filter) (line : Line) : Bool :=
  match f.ruleFor? line.target with
  | some rule => line.level.rank ≤ rule.limit && f.pattern.all (·.finds line.message.toList)
  | none => false

end Filter

/-- The level of a line in a column of five characters. -/
def Level.column (l : Level) : String :=
  l.name ++ String.ofList (List.replicate (5 - l.name.length) ' ')

/-- A message, with the lines after its first one indented. -/
def indented (message : String) : String :=
  String.ofList (message.toList.flatMap fun c => if c = '\n' then "\n    ".toList else [c])

/-- A line as it is written at the time `time`. -/
def Line.text (time : String) (l : Line) : String :=
  "[" ++ time ++ " " ++ l.level.column ++ " " ++ l.target.path ++ "] " ++ indented l.message ++ "\n"

end TrialMeter.Log
