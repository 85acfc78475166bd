import TrialMeter.Command.Compare
import TrialMeter.Command.TimeOne
import TrialMeter.Proofs.Text.Wording

/-!
# How command lines are read

A word that does not begin with a dash is no option, so a line of such words asks for work on them;
behind the program of a timing, any word may follow the first argument. The options of a line are
filled in before its operands are reached, and a number that is written in decimal digits is read
back. A line without operands asks for nothing that can be done.

## Main definitions

* `Command.IsPlain`: a word that is no option.

## Main results

* `Command.Grammar.read_plain`, `Command.Grammar.read_argument`: plain words.
* `Command.Grammar.read_ne_nil`: a line without operands asks for nothing that can be done.
* `Command.Compare.ne_nil_of_read`, `Command.Compare.read_options`,
  `Command.TimeOne.read_program`: whole lines.
-/

namespace TrialMeter

namespace Command

variable {σ : Type} {g : Grammar σ} {p : Progress σ}

/-! ### Words -/

/-- A word that does not begin with a dash. -/
def IsPlain (word : String) : Prop := word.toList.head? ≠ some '-'

instance (word : String) : Decidable (IsPlain word) :=
  inferInstanceAs (Decidable (_ ≠ _))

theorem isPlain_toString (n : ℕ) : IsPlain (toString n) := by
  obtain ⟨c, rest, htext, -, hdigits⟩ := Text.exists_toList_toString n
  rw [IsPlain, htext, List.head?_cons, Ne, Option.some_inj]
  rintro rfl
  exact absurd (hdigits '-' List.mem_cons_self) (by decide)

theorem IsPlain.classify {word : String} (h : IsPlain word) (g : Grammar σ) (lenient : Bool) :
    g.classify lenient word = .operand := by
  unfold IsPlain at h
  unfold Grammar.classify
  split
  all_goals simp_all

theorem IsPlain.isValue {word : String} (h : IsPlain word) : isValue word = true := by
  unfold IsPlain at h
  unfold Command.isValue
  split
  all_goals simp_all

/-- An option that was not given yet is filled in. -/
theorem Progress.store_of_new {named : Named σ} {value : String} {settings : σ}
    (hnew : p.given.contains named.long = false)
    (h : named.store value p.settings = some settings) :
    p.store named value = some { p with settings, given := named.long :: p.given } := by
  rw [Progress.store, hnew, h]
  rfl

namespace Grammar

theorem isOwn_eq_false {count : ℕ} (h : ∀ own ∈ g.own, count < own) : g.isOwn count = false := by
  unfold isOwn
  cases hown : g.own with
  | none => rfl
  | some own => exact decide_eq_false (Nat.not_le.mpr (h own hown))

/-- Plain words are operands, as long as no other program has its arguments there. -/
theorem read_plain {words : List String} (rest : List String)
    (hplain : ∀ word ∈ words, IsPlain word) (hown : ∀ own ∈ g.own, p.operands.length + words.length ≤ own) :
    g.read p (words ++ rest) = g.read { p with operands := p.operands ++ words } rest := by
  induction words generalizing p with
  | nil => rw [List.append_nil]; rfl
  | cons word words ih =>
    obtain ⟨hword, hwords⟩ := List.forall_mem_cons.mp hplain
    have hfirst : g.isOwn p.operands.length = false := isOwn_eq_false fun own hmem =>
      Nat.lt_of_lt_of_le (Nat.lt_add_of_pos_right (Nat.zero_lt_succ _)) (hown own hmem)
    have hrest : ∀ own ∈ g.own, (p.operands ++ [word]).length + words.length ≤ own := by
      intro own hmem
      have hle := hown own hmem
      rw [List.length_append, List.length_singleton]
      rw [List.length_cons] at hle
      omega
    have hstep : g.read p (word :: (words ++ rest)) =
        g.read { p with operands := p.operands ++ [word] } (words ++ rest) := by
      rw [read.eq_def]
      simp only [hword.classify, hfirst, Bool.false_eq_true, if_false]
    rw [List.cons_append, hstep, ih hwords hrest,
      List.append_assoc]
    rfl

/-- Where another program may have its arguments, the first plain word begins them, and all words
behind it are arguments. -/
theorem read_argument {word : String} (hplain : IsPlain word)
    (hown : g.isOwn p.operands.length = true) (rest : List String) :
    g.read p (word :: rest) = .run p.settings (p.operands ++ word :: rest) := by
  rw [read.eq_def]
  simp only [hplain.classify, hown, if_true]

/-- An option with its value behind it is filled in. -/
theorem read_option {word value : String} (named : Named σ) {p' : Progress σ}
    (hword : g.classify (g.isOwn p.operands.length) word = .option named none)
    (hvalue : isValue value = true) (hstore : p.store named value = some p') (rest : List String) :
    g.read p (word :: value :: rest) = g.read p' rest := by
  rw [read.eq_def]
  simp only [hword, hvalue, hstore, if_true]

/-- No line is read as one without an operand. -/
theorem read_ne_nil {line : List String} {settings : σ} {operands : List String}
    (h : g.read p line = .run settings operands) : operands ≠ [] := by
  have hof {settings' : σ} {words : List String}
      (h : Reading.ofOperands settings' words = .run settings operands) : operands ≠ [] := by
    cases words with
    | nil => cases h
    | cons word words =>
      obtain ⟨-, rfl⟩ := Reading.run.inj h
      exact List.cons_ne_nil word words
  fun_induction Grammar.read g p line with
  | case1 p => exact hof h
  | case2 p word rest =>
    obtain ⟨-, rfl⟩ := Reading.run.inj h
    exact List.append_ne_nil_of_right_ne_nil _ (List.cons_ne_nil word rest)
  | case3 p word rest _ _ ih => exact ih h
  | case4 p word rest => exact hof h
  | case7 p word named value rest _ p' _ ih => exact ih h
  | case10 p word named value rest _ _ p' _ ih => exact ih h
  | case5 | case6 | case8 | case9 | case11 | case12 => cases h

end Grammar

/-! ### Whole lines -/

/-- A comparison is never run without an operand. -/
theorem Compare.ne_nil_of_read {line operands : List String} {o : Options}
    (h : command.read line = .run (o, operands)) : operands ≠ [] := by
  cases hread : command.grammar.read { settings := command.defaults } line with
  | run settings words =>
    rw [Tool.read, hread] at h
    obtain ⟨-, rfl⟩ := Prod.mk.inj (Request.run.inj h)
    exact Grammar.read_ne_nil hread
  | _ =>
    rw [Tool.read, hread] at h
    cases h

/-- **The command line of a comparison.** The number of trials and the unit of the times may stand
before the operands, and every plain word is an operand. -/
theorem Compare.read_options {n : ℕ} {unit : String} {r : Resolution} {operands : List String}
    (hn : n < UInt64.size) (hunit : IsPlain unit) (hr : Resolution.parse unit = .ok r)
    (hne : operands ≠ []) (hplain : ∀ word ∈ operands, IsPlain word) :
    command.read operands = .run ({}, operands) ∧
    command.read ("-n" :: toString n :: "-r" :: unit :: operands) =
      .run ({ runs := n, resolution := r }, operands) := by
  have hread (p : Progress Options) (hp : p.operands = []) :
      command.grammar.read p operands = .run p.settings operands := by
    have h := command.grammar.read_plain (p := p) [] hplain nofun
    rw [List.append_nil, hp, List.nil_append] at h
    rw [h, Grammar.read]
    obtain ⟨first, others, rfl⟩ := List.exists_cons_of_ne_nil hne
    rfl
  constructor
  · rw [Tool.read, hread _ rfl]
    rfl
  · have hruns : runs.store (toString n) {} = some { runs := n } :=
      congrArg (Option.map _) (Text.word64?_toString hn)
    have hunits : resolution.store unit { runs := n } = some { runs := n, resolution := r } :=
      congrArg (fun parsed => Option.map _ (Except.toOption parsed)) hr
    rw [Tool.read,
      Grammar.read_option runs rfl (isPlain_toString n).isValue
        (Progress.store_of_new rfl hruns),
      Grammar.read_option resolution rfl hunit.isValue
        (Progress.store_of_new rfl hunits), hread _ rfl]
    rfl

/-- **The command line of a timing.** The unit of the time may stand before the program; of the
words behind the program the first one has to be plain, and all are its arguments. -/
theorem TimeOne.read_program {unit program : String} {r : Resolution} {args : List String}
    (hunit : IsPlain unit) (hr : Resolution.parse unit = .ok r) (hprogram : IsPlain program)
    (hargs : ∀ arg ∈ args.head?, IsPlain arg) :
    command.read (program :: args) = .run (.microseconds, program, args) ∧
    command.read ("-r" :: unit :: program :: args) = .run (r, program, args) := by
  have hread (p : Progress Resolution) (hp : p.operands = []) :
      command.grammar.read p (program :: args) = .run p.settings (program :: args) := by
    have h := command.grammar.read_plain (p := p) args
      (List.forall_mem_singleton.mpr hprogram) (by rintro own ⟨⟩; rw [hp]; exact Nat.le_refl 1)
    rw [hp] at h
    refine h.trans ?_
    cases args with
    | nil => rfl
    | cons arg args => exact Grammar.read_argument (hargs arg rfl) rfl args
  constructor
  · rw [Tool.read, hread _ rfl]
    rfl
  · have hunits : resolution.store unit command.defaults = some r :=
      congrArg Except.toOption hr
    rw [Tool.read, Grammar.read_option resolution rfl hunit.isValue
      (Progress.store_of_new rfl hunits), hread _ rfl]
    rfl

end Command

end TrialMeter
