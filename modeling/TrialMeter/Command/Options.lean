/-!
# Command lines

A command line is a list of words: options with their values, and operands. Every option takes one
value. It is known by a letter, as in `-n 2`, `-n2` or `-n=2`, and by a long name, as in `--runs 2`
or `--runs=2`; `-h` and `--help` ask for help. The word `--` makes every word after it an operand. A
command may run another program whose arguments end the line: the options of the command may still
stand before the first of those arguments, and a word there that is no option of the command is an
argument already; from the first one on every word is.

## Main definitions

* `Named`, `Grammar`: the options of a command, which fill in a value of type `σ`.
* `Reading`: what is read of a command line.
* `Grammar.read`: reading a command line from the left; the first word that cannot be read decides.
-/

namespace TrialMeter.Command

/-- An option. -/
structure Named (σ : Type) where
  short : Char
  long : String
  /-- Fills a value in, unless the text is none. -/
  store : String → σ → Option σ

/-- The options of a command. -/
structure Grammar (σ : Type) where
  options : List (Named σ)
  /-- The number of operands before the arguments of another program, for a command that runs one.
  -/
  own : Option Nat := none

/-- What is read of a command line. -/
inductive Reading (σ : Type) where
  /-- The help text. -/
  | help
  /-- Nothing that can be done. -/
  | refused
  /-- The work of the command. -/
  | run (settings : σ) (operands : List String)
deriving Repr

/-- What a word can be. -/
inductive Word (σ : Type) where
  | operand
  /-- The end of the options. -/
  | terminator
  | help
  | unknown
  /-- An option, perhaps with its value. -/
  | option (named : Named σ) (value : Option String)

variable {σ : Type}

namespace Grammar

/-- The option with a letter. -/
def ofShort? (g : Grammar σ) (c : Char) : Option (Named σ) := g.options.find? (·.short = c)

/-- The option with a long name. -/
def ofLong? (g : Grammar σ) (name : List Char) : Option (Named σ) :=
  g.options.find? (·.long.toList = name)

/-- Whether a letter has a meaning. -/
def knows (g : Grammar σ) (c : Char) : Bool := c = 'h' || (g.ofShort? c).isSome

/-- The value behind an equals sign. -/
def valueOf? : List Char → Option String
  | [] => none
  | _ :: value => some (String.ofList value)

/-- The word `--` followed by `text`. -/
def classifyLong (g : Grammar σ) (lenient : Bool) (text : List Char) : Word σ :=
  let name := text.takeWhile (· ≠ '=')
  let value := valueOf? (text.dropWhile (· ≠ '='))
  if name = "help".toList then if value.isNone then .help else .unknown
  else
    match g.ofLong? name with
    | some named => .option named value
    | none => if lenient then .operand else .unknown

/-- The word `-` followed by `letter` and `text`. -/
def classifyShort (g : Grammar σ) (lenient : Bool) (letter : Char) (text : List Char) : Word σ :=
  if lenient && !(letter :: text).all g.knows then .operand
  else if letter = 'h' then .help
  else
    match g.ofShort? letter, text with
    | some named, [] => .option named none
    | some named, '=' :: value => .option named (some (String.ofList value))
    | some named, value => .option named (some (String.ofList value))
    | none, _ => .unknown

/-- What a word is. Where arguments of another program may stand, `lenient`, an unknown option is an
operand. -/
def classify (g : Grammar σ) (lenient : Bool) (word : String) : Word σ :=
  match word.toList with
  | ['-', '-'] => .terminator
  | '-' :: '-' :: text => g.classifyLong lenient text
  | '-' :: letter :: text => g.classifyShort lenient letter text
  | _ => .operand

/-- Whether the arguments of another program may begin after `count` operands. -/
def isOwn (g : Grammar σ) (count : Nat) : Bool := g.own.any (· ≤ count)

end Grammar

/-- Whether a word can be the value of an option that stands before it. -/
def isValue (word : String) : Bool :=
  match word.toList with
  | '-' :: _ :: _ => false
  | _ => true

/-- The words of a line that asks for work, which needs an operand. -/
def Reading.ofOperands (settings : σ) : List String → Reading σ
  | [] => .refused
  | operands => .run settings operands

/-- What is known from the words read so far. -/
structure Progress (σ : Type) where
  settings : σ
  /-- The long names of the options that were given. -/
  given : List String := []
  operands : List String := []

/-- Fills in the value of an option, which may be given once. -/
def Progress.store (p : Progress σ) (named : Named σ) (value : String) : Option (Progress σ) :=
  if p.given.contains named.long then none
  else (named.store value p.settings).map fun settings =>
    { p with settings, given := named.long :: p.given }

/-- Reads the words of a command line after those that led to `p`. -/
def Grammar.read (g : Grammar σ) (p : Progress σ) : List String → Reading σ
  | [] => .ofOperands p.settings p.operands
  | word :: rest =>
    match g.classify (g.isOwn p.operands.length) word, rest with
    | .operand, rest =>
      if g.isOwn p.operands.length then .run p.settings (p.operands ++ word :: rest)
      else g.read { p with operands := p.operands ++ [word] } rest
    | .terminator, rest => .ofOperands p.settings (p.operands ++ rest)
    | .help, _ => .help
    | .unknown, _ => .refused
    | .option named (some value), rest =>
      match p.store named value with
      | some p => g.read p rest
      | none => .refused
    | .option _ none, [] => .refused
    | .option named none, value :: rest =>
      if isValue value then
        match p.store named value with
        | some p => g.read p rest
        | none => .refused
      else .refused

end TrialMeter.Command
