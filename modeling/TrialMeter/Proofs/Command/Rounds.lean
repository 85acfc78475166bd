import TrialMeter.Command.Compare.Work
import TrialMeter.Proofs.Kernel.Exact
import TrialMeter.Proofs.Record.Ranking

/-!
# A comparison, round by round

A comparison gives every operand a round of trials, one operand after another on one kernel. A round
ends when there are enough trials or when one has failed; a failed round is told in the log and is
forgotten, and the next round begins on the kernel that it leaves. The rounds that have enough
trials are averaged, one record each, and the records are printed in a stable order of their times.
This file tells the rounds as lists of runs, and proves that the comparison does nothing else. The
first operand whose records there is no room for ends it, before it has a trial.

## Main definitions

* `Command.Compare.tries`, `Command.Compare.rounds`: the trials of a round, and all rounds.
* `Command.Compare.result`: the record of a round.
* `Command.Compare.HasRoom`: whether there is room for the records.
* `Command.Compare.Reported`: how a comparison goes.

## Main results

* `Command.Compare.trials_run`, `Command.Compare.assess_of_hasRoom`,
  `Command.Compare.assessAll_run`: trials and rounds, exactly.
* `Command.Compare.assess_beyond`, `Command.Compare.assessAll_beyond`: without room nothing is
  tried.
* `Command.Compare.reported`: a whole comparison.
-/

namespace TrialMeter.Command.Compare

/-- Runs of trials, one after another. -/
abbrev Round : Type := List (Ran (Except Failure Record))

/-- The kernel that a round leaves, if it begins on `k`. -/
def leftBy (k : Kernel) (round : Round) : Kernel := round.foldl (fun _ ran => ran.kernel) k

/-- The runs of a trial, one after another, until `n` have succeeded or one has failed. -/
def tries (trial : Meter (Except Failure Record)) : ℕ → Kernel → Round
  | 0, _ => []
  | n + 1, k =>
    match (trial k).value with
    | .ok _ => trial k :: tries trial n (trial k).kernel
    | .error _ => [trial k]

/-- The round of an operand: trials of the program that its first word names, with the other words
for arguments. An operand without words has none. -/
def roundOf (o : Options) (operand : String) (k : Kernel) : Round :=
  match Text.words operand with
  | [] => []
  | program :: args =>
    tries (Trial.benchmarkProgram { resolution := o.resolution } program args).run o.runs k

/-- The rounds of all operands, each on the kernel that the one before it leaves. -/
def rounds (o : Options) : List String → Kernel → List Round
  | [], _ => []
  | operand :: rest, k => roundOf o operand k :: rounds o rest (leftBy k (roundOf o operand k))

/-- Whether a trial ended with a fault of the arithmetic. -/
def isFault : Except Failure Record → Bool
  | .error (.fault _) => true
  | _ => false

/-- No trial ends with a fault. -/
def Faultless (round : Round) : Prop := ∀ ran ∈ round, isFault ran.value = false

instance (round : Round) : Decidable (Faultless round) :=
  inferInstanceAs (Decidable (∀ ran ∈ round, isFault ran.value = false))

/-- What a round of `n` trials amounts to: the mean of its records, if `n` trials have succeeded. -/
def result (n : ℕ) (round : Round) : Option Record :=
  if round.length = n ∧ ∀ ran ∈ round, ran.value.isOk then
    Record.mean (round.filterMap fun ran => ran.value.toOption)
  else none

/-- The line about a trial that failed. -/
def complaints (operand : String) (round : Round) : List Entry :=
  round.filterMap fun ran =>
    match ran.value with
    | .error (.error e) => some (.log ⟨.error, .compare, operand ++ ": " ++ e.message⟩)
    | _ => none

/-- The records of all trials can be kept, or there is no trial. -/
def HasRoom (o : Options) (operands : List String) : Prop :=
  o.runs ≤ capacity ∨ ∀ operand ∈ operands, Text.words operand = []

instance (o : Options) (operands : List String) : Decidable (HasRoom o operands) :=
  inferInstanceAs (Decidable (_ ∨ _))

/-- What the round of an operand leaves. -/
def roundTrace (operand : String) (round : Round) : List Entry :=
  round.flatMap Ran.trace ++ complaints operand round

/-! ### Rounds -/

section Round

variable {trial : Meter (Except Failure Record)} {n : ℕ} {k : Kernel}

theorem tries_of_ok {r : Record} (h : (trial k).value = .ok r) :
    tries trial (n + 1) k = trial k :: tries trial n (trial k).kernel := by
  rw [tries, h]

theorem tries_of_error {f : Failure} (h : (trial k).value = .error f) :
    tries trial (n + 1) k = [trial k] := by
  rw [tries, h]

/-- The values of a round, when all trials have succeeded, and else the first failure. -/
def values (round : Round) : Except Failure (List Record) := round.mapM Ran.value

theorem values_cons_of_ok {ran : Ran (Except Failure Record)} {round : Round} {r : Record}
    (h : ran.value = .ok r) : values (ran :: round) = (values round).map (r :: ·) := by
  rw [values, List.mapM_cons, h]
  rfl

theorem values_cons_of_error {ran : Ran (Except Failure Record)} {round : Round} {f : Failure}
    (h : ran.value = .error f) : values (ran :: round) = .error f := by
  rw [values, List.mapM_cons, h]
  rfl

/-- A round that gives records has enough trials, which have all succeeded. -/
theorem tries_of_values_ok {records : List Record} (h : values (tries trial n k) = .ok records) :
    (tries trial n k).length = n ∧ (∀ ran ∈ tries trial n k, ran.value.isOk) ∧
      (tries trial n k).filterMap (fun ran => ran.value.toOption) = records := by
  induction n generalizing k records with
  | zero => exact ⟨rfl, List.forall_mem_nil _, Except.ok.inj h⟩
  | succ n ih =>
    cases hvalue : (trial k).value with
    | error f =>
      rw [tries_of_error hvalue, values_cons_of_error hvalue] at h
      exact absurd h nofun
    | ok r =>
      rw [tries_of_ok hvalue] at h ⊢
      rw [values_cons_of_ok hvalue] at h
      cases hrest : values (tries trial n (trial k).kernel) with
      | error f =>
        rw [hrest] at h
        exact absurd h nofun
      | ok others =>
        rw [hrest] at h
        obtain rfl : r :: others = records := Except.ok.inj h
        obtain ⟨hlength, hok, hothers⟩ := ih hrest
        refine ⟨congrArg (· + 1) hlength, List.forall_mem_cons.mpr ⟨by rw [hvalue]; rfl, hok⟩, ?_⟩
        rw [List.filterMap_cons, hvalue, Except.toOption, hothers]

/-- A round that gives no records ends with a trial that failed, and begins with others that have
succeeded. -/
theorem tries_of_values_error {f : Failure} (h : values (tries trial n k) = .error f) :
    ∃ before last, tries trial n k = before ++ [last] ∧ before.length < n ∧
      (∀ ran ∈ before, ran.value.isOk) ∧ last.value = .error f := by
  induction n generalizing k with
  | zero => exact absurd h nofun
  | succ n ih =>
    cases hvalue : (trial k).value with
    | error f' =>
      rw [tries_of_error hvalue, values_cons_of_error hvalue] at h
      obtain rfl : f' = f := Except.error.inj h
      refine ⟨[], trial k, tries_of_error hvalue, Nat.zero_lt_succ n, List.forall_mem_nil _, hvalue⟩
    | ok r =>
      rw [tries_of_ok hvalue, values_cons_of_ok hvalue] at h
      cases hrest : values (tries trial n (trial k).kernel) with
      | ok others =>
        rw [hrest] at h
        exact absurd h nofun
      | error f' =>
        rw [hrest] at h
        obtain rfl : f' = f := Except.error.inj h
        obtain ⟨before, last, htries, hlength, hok, hlast⟩ := ih hrest
        refine ⟨trial k :: before, last, ?_, Nat.succ_lt_succ hlength, ?_, hlast⟩
        · rw [tries_of_ok hvalue, htries, List.cons_append]
        · exact List.forall_mem_cons.mpr ⟨by rw [hvalue]; rfl, hok⟩

/-- The trials of a program are its tries. -/
theorem trials_run (s : Settings) (program : String) (args : List String) (n : ℕ) (k : Kernel) :
    (trials s program args n).run k =
      ⟨values (tries (Trial.benchmarkProgram s program args).run n k),
        leftBy k (tries (Trial.benchmarkProgram s program args).run n k),
        (tries (Trial.benchmarkProgram s program args).run n k).flatMap Ran.trace⟩ := by
  generalize htrial : (Trial.benchmarkProgram s program args).run = trial
  induction n generalizing k with
  | zero => rfl
  | succ n ih =>
    have hrest := ih (trial k).kernel
    cases hvalue : (trial k).value with
    | error f =>
      have hrun : (Trial.benchmarkProgram s program args).run k =
          ⟨.error f, (trial k).kernel, (trial k).trace⟩ := by
        rw [htrial, ← hvalue]
      rw [tries_of_error hvalue, values_cons_of_error hvalue, List.flatMap_singleton]
      exact Meter.run_stop hrun
    | ok r =>
      have hrun : (Trial.benchmarkProgram s program args).run k =
          ⟨.ok r, (trial k).kernel, (trial k).trace⟩ := by
        rw [htrial, ← hvalue]
      rw [tries_of_ok hvalue, values_cons_of_ok hvalue, List.flatMap_cons]
      cases hvalues : values (tries trial n (trial k).kernel) with
      | ok records =>
        rw [hvalues] at hrest
        refine Meter.run_ok hrun ((Meter.run_ok hrest rfl).trans ?_)
        rw [List.append_nil]
        rfl
      | error f =>
        rw [hvalues] at hrest
        exact Meter.run_ok hrun (Meter.run_stop hrest)

end Round

/-! ### Operands -/

/-- What becomes of an operand whose round has given `records`, or has failed. -/
def assessed : Except Failure (List Record) → Except Fault (Option Record)
  | .ok records => .ok (Record.mean records)
  | .error (.error _) => .ok none
  | .error (.fault f) => .error f

theorem HasRoom.head {o : Options} {operand : String} {operands : List String}
    (h : HasRoom o (operand :: operands)) : HasRoom o [operand] :=
  h.imp_right fun hblank => List.forall_mem_singleton.mpr (hblank operand List.mem_cons_self)

theorem HasRoom.tail {o : Options} {operand : String} {operands : List String}
    (h : HasRoom o (operand :: operands)) : HasRoom o operands :=
  h.imp_right fun hblank => (List.forall_mem_cons.mp hblank).2

theorem not_hasRoom_singleton {o : Options} {operand : String} :
    ¬HasRoom o [operand] ↔ capacity < o.runs ∧ Text.words operand ≠ [] := by
  rw [HasRoom, List.forall_mem_singleton, not_or, Nat.not_le]

section Operand

variable {o : Options} {operand : String} {k : Kernel}

theorem complaints_of_isOk {round : Round} (h : ∀ ran ∈ round, ran.value.isOk) :
    complaints operand round = [] := by
  refine List.filterMap_eq_nil_iff.mpr fun ran hran => ?_
  have hok := h ran hran
  cases hvalue : ran.value with
  | ok r => rfl
  | error f => rw [hvalue] at hok; exact absurd hok Bool.false_ne_true

/-- Only the last trial of a round can be complained about. -/
theorem complaints_concat {before : Round} {last : Ran (Except Failure Record)}
    (hok : ∀ ran ∈ before, ran.value.isOk) :
    complaints operand (before ++ [last]) = complaints operand [last] := by
  have happend : complaints operand (before ++ [last]) =
      complaints operand before ++ complaints operand [last] := List.filterMap_append
  rw [happend, complaints_of_isOk hok, List.nil_append]

/-- The result and the complaints of a round whose trials have all succeeded. -/
theorem result_of_values_ok (operand : String) {trial : Meter (Except Failure Record)} {n : ℕ}
    {records : List Record} (h : values (tries trial n k) = .ok records) :
    result n (tries trial n k) = Record.mean records ∧
      complaints operand (tries trial n k) = [] := by
  obtain ⟨hlength, hok, hrecords⟩ := tries_of_values_ok h
  exact ⟨by rw [result, if_pos ⟨hlength, hok⟩, hrecords], complaints_of_isOk hok⟩

/-- The result and the complaints of a round that failed. -/
theorem result_of_values_error (operand : String) {trial : Meter (Except Failure Record)} {n : ℕ}
    {e : Error} (h : values (tries trial n k) = .error (.error e)) :
    result n (tries trial n k) = none ∧ complaints operand (tries trial n k) =
      [.log ⟨.error, .compare, operand ++ ": " ++ e.message⟩] := by
  obtain ⟨before, last, htries, -, hok, hlast⟩ := tries_of_values_error h
  rw [htries]
  refine ⟨if_neg fun hall => ?_, ?_⟩
  · have hlast' := hall.2 last (by simp)
    rw [hlast] at hlast'
    exact absurd hlast' Bool.false_ne_true
  · rw [complaints_concat hok, complaints, List.filterMap_cons, hlast]
    rfl

/-- A fault is not told in the log. -/
theorem complaints_of_values_fault (operand : String) {trial : Meter (Except Failure Record)}
    {n : ℕ} {f : Fault} (h : values (tries trial n k) = .error (.fault f)) :
    complaints operand (tries trial n k) = [] := by
  obtain ⟨before, last, htries, -, hok, hlast⟩ := tries_of_values_error h
  rw [htries, complaints_concat hok, complaints, List.filterMap_cons, hlast]
  rfl

/-- With room for its records, what becomes of an operand is what becomes of its round. -/
theorem assess_of_hasRoom (h : HasRoom o [operand]) :
    (assess o operand).run k = ⟨assessed (values (roundOf o operand k)),
      leftBy k (roundOf o operand k), roundTrace operand (roundOf o operand k)⟩ := by
  unfold assess
  cases hwords : Text.words operand with
  | nil =>
    rw [roundOf, hwords]
    rfl
  | cons program args =>
    have hruns : ¬capacity < o.runs := fun hruns =>
      not_hasRoom_singleton.mpr ⟨hruns, by simp [hwords]⟩ h
    have htrials := trials_run { resolution := o.resolution } program args o.runs k
    rw [roundOf, hwords]
    simp only [if_neg hruns]
    revert htrials
    generalize (Trial.benchmarkProgram { resolution := o.resolution } program args).run = trial
    intro htrials
    rw [roundTrace]
    cases hvalues : values (tries trial o.runs k) with
    | ok records =>
      rw [hvalues] at htrials
      rw [(result_of_values_ok operand hvalues).2]
      exact Meter.run_bind htrials rfl
    | error f =>
      rw [hvalues] at htrials
      cases f with
      | error e =>
        rw [(result_of_values_error operand hvalues).2]
        exact Meter.run_bind htrials rfl
      | fault f =>
        rw [complaints_of_values_fault operand hvalues]
        exact Meter.run_bind htrials rfl

/-- Without room for its records, an operand breaks off before it has a trial. -/
theorem assess_beyond (h : ¬HasRoom o [operand]) :
    (assess o operand).run k = ⟨.error .capacityOverflow, k, []⟩ := by
  obtain ⟨hruns, hwords⟩ := not_hasRoom_singleton.mp h
  obtain ⟨program, args, hwords⟩ := List.exists_cons_of_ne_nil hwords
  unfold assess
  rw [hwords]
  simp only [if_pos hruns]
  rfl

/-- A round without a fault gives an operand its record, or a line in the log. -/
theorem assess_run (h : Faultless (roundOf o operand k)) (hroom : HasRoom o [operand]) :
    (assess o operand).run k = ⟨.ok (result o.runs (roundOf o operand k)),
      leftBy k (roundOf o operand k), roundTrace operand (roundOf o operand k)⟩ := by
  rw [assess_of_hasRoom hroom]
  congr 1
  unfold roundOf at h ⊢
  cases hwords : Text.words operand with
  | nil =>
    have hresult : result o.runs [] = none := by
      unfold result
      split
      · rfl
      · rfl
    exact congrArg Except.ok hresult.symm
  | cons program args =>
    simp only [hwords] at h ⊢
    cases hvalues : values (tries _ o.runs k) with
    | ok records => exact congrArg Except.ok (result_of_values_ok operand hvalues).1.symm
    | error f =>
      cases f with
      | error e => exact congrArg Except.ok (result_of_values_error operand hvalues).1.symm
      | fault f =>
        obtain ⟨before, last, htries, -, -, hlast⟩ := tries_of_values_error hvalues
        have hfault := h last (by simp [htries])
        rw [hlast] at hfault
        exact absurd hfault nofun

end Operand

theorem leftBy_append (k : Kernel) (round₁ round₂ : Round) :
    leftBy k (round₁ ++ round₂) = leftBy (leftBy k round₁) round₂ :=
  List.foldl_append

/-- What the rounds of all operands leave. -/
def roundsTrace (operands : List String) (rounds : List Round) : List Entry :=
  (operands.zip rounds).flatMap fun p => roundTrace p.1 p.2

/-- The rounds of a comparison, one operand after another. -/
theorem assessAll_run (o : Options) (operands : List String) (k : Kernel)
    (h : ∀ round ∈ rounds o operands k, Faultless round) (hroom : HasRoom o operands) :
    (assessAll o operands).run k = ⟨.ok ((rounds o operands k).filterMap (result o.runs)),
      leftBy k (rounds o operands k).flatten, roundsTrace operands (rounds o operands k)⟩ := by
  induction operands generalizing k with
  | nil => rfl
  | cons operand operands ih =>
    obtain ⟨hfirst, hothers⟩ := List.forall_mem_cons.mp h
    have hassess := assess_run hfirst hroom.head
    have hrest := ih _ hothers hroom.tail
    have hrecords : (rounds o (operand :: operands) k).filterMap (result o.runs) =
        (result o.runs (roundOf o operand k)).toList ++
          (rounds o operands (leftBy k (roundOf o operand k))).filterMap (result o.runs) := by
      rw [rounds, List.filterMap_cons]
      cases result o.runs (roundOf o operand k) with
      | none => rfl
      | some r => rfl
    rw [hrecords, rounds, List.flatten_cons, leftBy_append]
    refine (Meter.run_ok hassess (Meter.run_ok hrest rfl)).trans ?_
    rw [List.append_nil]
    rfl

/-- Operands without words are passed over, and the first one with words finds no room. -/
theorem assessAll_beyond {o : Options} {operands : List String} (hroom : ¬HasRoom o operands)
    (k : Kernel) : (assessAll o operands).run k = ⟨.error .capacityOverflow, k, []⟩ := by
  obtain ⟨hruns, hwords⟩ := not_or.mp hroom
  induction operands with
  | nil => exact absurd (List.forall_mem_nil _) hwords
  | cons operand operands ih =>
    by_cases hfirst : HasRoom o [operand]
    · have hblank : Text.words operand = [] :=
        hfirst.resolve_left hruns operand (List.mem_singleton_self operand)
      have hrest : ¬∀ operand ∈ operands, Text.words operand = [] :=
        fun h => hwords (List.forall_mem_cons.mpr ⟨hblank, h⟩)
      have hassess := assess_of_hasRoom (k := k) hfirst
      rw [roundOf, hblank] at hassess
      exact Meter.run_ok hassess (Meter.run_stop (ih (not_or.mpr ⟨hruns, hrest⟩) hrest))
    · exact Meter.run_stop (assess_beyond hfirst)

/-! ### The report -/

/-- What is printed about ranked records: the first one is marked as the winner. -/
def listing (o : Options) (ranked : List Record) : String :=
  "Sorting according to fastest time.\n" ++
    String.join (ranked.zipIdx.map fun p => recordText o (p.2 == 0) p.1)

theorem report_eq_listing (o : Options) (records : List Record) :
    report o records = listing o (Record.ranked records) := by
  have hlosers (i : ℕ) (rest : List Record) :
      (rest.zipIdx (i + 1)).map (fun p => recordText o (p.2 == 0) p.1) =
        rest.map (recordText o false) := by
    induction rest generalizing i with
    | nil => rfl
    | cons r rest ih =>
      rw [List.zipIdx_cons, List.map_cons, List.map_cons, ih (i + 1)]
      rfl
  unfold report listing recordsText
  cases Record.ranked records with
  | nil => rfl
  | cons first rest =>
    rw [List.zipIdx_cons, List.map_cons, hlosers 0 rest, String.join_cons]
    rfl

/-- A round of `n` trials ends when it has them all, or with the first one that fails. -/
def Ended (n : ℕ) (round : Round) : Prop :=
  (round.length = n ∧ ∀ ran ∈ round, ran.value.isOk) ∨
  ∃ before last e, round = before ++ [last] ∧ before.length < n ∧
    (∀ ran ∈ before, ran.value.isOk) ∧ last.value = .error (.error e)

/-- How a comparison goes. -/
structure Reported (o : Options) (operands : List String) (k : Kernel) : Prop where
  /-- Every operand has its round, also after one that failed. -/
  length_eq : (rounds o operands k).length = operands.length
  /-- The round of an operand without words is empty, and any other one goes to its end. -/
  ended : ∀ p ∈ operands.zip (rounds o operands k),
    if Text.words p.1 = [] then p.2 = [] else Ended o.runs p.2
  /-- A round has a record if it has at least one trial and as many as were asked for, and all of
  them have succeeded. -/
  isSome_result : ∀ round ∈ rounds o operands k, (result o.runs round).isSome ↔
    0 < o.runs ∧ round.length = o.runs ∧ ∀ ran ∈ round, ran.value.isOk
  /-- Nothing is left but what the rounds leave, one after another. -/
  trace_eq : (work o operands k).trace = roundsTrace operands (rounds o operands k)
  kernel_eq : (work o operands k).kernel = leftBy k (rounds o operands k).flatten
  /-- The records of the rounds are printed in rising order of their times; those of equal times are
  in the order of their operands. -/
  printed : ∃ printed : List Record,
    printed.Perm ((rounds o operands k).filterMap (result o.runs)) ∧
    printed.Pairwise (fun a b => TotalLe a.time b.time) ∧
    (∀ bits, printed.filter (·.time.toBits = bits) =
      ((rounds o operands k).filterMap (result o.runs)).filter (·.time.toBits = bits)) ∧
    (work o operands k).value = .done (listing o printed) ∧
    ∀ read gateOf filterText args, read args = .run (o, operands) →
      (run read gateOf filterText args k).value.code = 0 ∧
      (run read gateOf filterText args k).value.stdout = listing o printed

theorem length_rounds (o : Options) (operands : List String) (k : Kernel) :
    (rounds o operands k).length = operands.length := by
  induction operands generalizing k with
  | nil => rfl
  | cons operand operands ih => rw [rounds, List.length_cons, List.length_cons, ih]

/-- Every round is the round of its operand on some kernel. -/
theorem exists_roundOf {o : Options} {operands : List String} {k : Kernel} {p : String × Round}
    (h : p ∈ operands.zip (rounds o operands k)) : ∃ k', p.2 = roundOf o p.1 k' := by
  induction operands generalizing k with
  | nil => exact absurd h List.not_mem_nil
  | cons operand operands ih =>
    rcases List.mem_cons.mp h with rfl | h
    · exact ⟨k, rfl⟩
    · exact ih h

theorem ended_tries {trial : Meter (Except Failure Record)} {n : ℕ} {k : Kernel}
    (h : Faultless (tries trial n k)) : Ended n (tries trial n k) := by
  cases hvalues : values (tries trial n k) with
  | ok records =>
    obtain ⟨hlength, hok, -⟩ := tries_of_values_ok hvalues
    exact .inl ⟨hlength, hok⟩
  | error f =>
    obtain ⟨before, last, htries, hlength, hok, hlast⟩ := tries_of_values_error hvalues
    cases f with
    | error e => exact .inr ⟨before, last, e, htries, hlength, hok, hlast⟩
    | fault f =>
      have hfault := h last (by simp [htries])
      rw [hlast] at hfault
      exact absurd hfault nofun

theorem isSome_result_iff (n : ℕ) (round : Round) : (result n round).isSome ↔
    0 < n ∧ round.length = n ∧ ∀ ran ∈ round, ran.value.isOk := by
  by_cases h : round.length = n ∧ ∀ ran ∈ round, ran.value.isOk
  · rw [result, if_pos h]
    obtain ⟨rfl, hok⟩ := h
    cases round with
    | nil => exact iff_of_false Bool.false_ne_true fun h => Nat.lt_irrefl 0 h.1
    | cons ran round =>
      have hran := hok ran List.mem_cons_self
      rw [List.filterMap_cons]
      cases hvalue : ran.value with
      | ok r => exact iff_of_true rfl ⟨Nat.zero_lt_succ _, rfl, hok⟩
      | error f => rw [hvalue] at hran; exact absurd hran Bool.false_ne_true
  · rw [result, if_neg h]
    exact iff_of_false Bool.false_ne_true fun hall => h hall.2

/-- **A comparison, with room for its records.** -/
theorem reported_of_hasRoom {o : Options} {operands : List String} {k : Kernel}
    (h : ∀ round ∈ rounds o operands k, Faultless round) (hroom : HasRoom o operands) :
    Reported o operands k := by
  have hall := assessAll_run o operands k h hroom
  have hwork : work o operands k =
      ⟨.done (listing o (Record.ranked ((rounds o operands k).filterMap (result o.runs)))),
        leftBy k (rounds o operands k).flatten, roundsTrace operands (rounds o operands k)⟩ := by
    rw [← report_eq_listing]
    exact Meter.run_bindPure hall rfl
  refine ⟨length_rounds o operands k, ?_, fun round _ => isSome_result_iff o.runs round, ?_, ?_, ?_⟩
  · intro p hp
    obtain ⟨k', hround⟩ := exists_roundOf hp
    have hfault : Faultless p.2 := h p.2 (List.of_mem_zip hp).2
    rw [hround] at hfault ⊢
    unfold roundOf at hfault ⊢
    cases hwords : Text.words p.1 with
    | nil => rfl
    | cons program args =>
      simp only [hwords] at hfault
      exact ended_tries hfault
  · rw [hwork]
  · rw [hwork]
  · refine ⟨_, Record.ranked_perm _, Record.ranked_sorted _, Record.filter_ranked _, ?_, ?_⟩
    · rw [hwork]
    · intro read gateOf filterText args hread
      rw [run, Command.run, hread]
      simp only [hwork]
      exact ⟨rfl, rfl⟩

/-- **A comparison.** Let no trial end with a fault. Where there is room for the records, the
command goes through the operands in order and gives each its round of trials, whatever became of
those before it; prints the means of the rounds that have all their trials, in a stable order of
their times, the first one as the winner; and leaves nothing but what the trials leave and one line
for each round that failed. Where there is no room, it breaks off before it asks the kernel for
anything. -/
theorem reported (o : Options) (operands : List String) (k : Kernel)
    (h : ∀ round ∈ rounds o operands k, Faultless round) :
    (HasRoom o operands → Reported o operands k) ∧
    (¬HasRoom o operands → work o operands k = ⟨.broken "capacity overflow", k, []⟩) := by
  exact ⟨reported_of_hasRoom h, fun hroom => Meter.run_bindPure (assessAll_beyond hroom k) rfl⟩

/-- Three operands: one without words, one whose second trial fails at the last sample of the clock,
and one with two trials. The last one is reported. -/
theorem reported_after_failure :
    let o : Options := { runs := 2 }
    let operands := [" ", "/a x", "/b"]
    let k : Kernel := {
      script := { clocks := List.replicate 5 (.done {}) ++ [.failed ⟨22⟩] }
      descriptor := (· + 3)
      newPid := fun n => n }
    Reported o operands k ∧ (rounds o operands k).map List.length = [0, 2, 2] ∧
      ((rounds o operands k).filterMap (result o.runs)).map (·.name) = ["/b"] := by
  intro o operands k
  have hroom : HasRoom o operands := .inl (by decide +kernel)
  exact ⟨(reported o operands k (by decide +kernel)).1 hroom, by decide +kernel, by decide +kernel⟩

/-- With one run more than there is room for, a program whose first trial would fail, for want of a
clock, is neither tried nor left out of a report: the command breaks off, and the kernel is not
asked for the time. -/
theorem not_reported_beyond_capacity :
    let o : Options := { runs := 64051194700380388 }
    let k : Kernel := {
      script := { clocks := [.failed ⟨22⟩] }
      descriptor := (· + 3)
      newPid := fun n => n }
    (∀ round ∈ rounds o ["/x"] k, Faultless round) ∧
      roundsTrace ["/x"] (rounds o ["/x"] k) = [
        .clock .monotonic (.failed ⟨22⟩),
        .log ⟨.error, .compare,
          "/x: failed to read clock Monotonic: Invalid argument (os error 22)"⟩] ∧
      work o ["/x"] k = ⟨.broken "capacity overflow", k, []⟩ ∧ ¬Reported o ["/x"] k := by
  intro o k
  have hwork : work o ["/x"] k = ⟨.broken "capacity overflow", k, []⟩ :=
    Meter.run_bindPure (assessAll_beyond (by decide +kernel) k) rfl
  refine ⟨by decide +kernel, by decide +kernel, hwork, fun h => ?_⟩
  obtain ⟨printed, -, -, -, hvalue, -⟩ := h.printed
  rw [hwork] at hvalue
  exact absurd hvalue nofun

end TrialMeter.Command.Compare
