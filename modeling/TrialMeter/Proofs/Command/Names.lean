import TrialMeter.Proofs.Command.Rounds
import TrialMeter.Proofs.Record.Mean
import TrialMeter.Proofs.Text.Words
import TrialMeter.Proofs.Trace.Calls
import TrialMeter.Proofs.Trace.Conduct

/-!
# The names of programs

An operand of a comparison names a program and its arguments by its words. The program is started by
just these, and its records are named after them, joined by single spaces. Since words can be told
from what joins them, the name of a record can stand for the operand: it has the same words, so a
comparison makes of it what it makes of the operand, up to the name by which the log complains.

## Main definitions

* `argvAudit`: objects to every child but one with the given arguments.
* `Meter.Gives`: what a computation gives.
* `Meter.Alike`: computations that do the same, up to the log.

## Main results

* `Child.invocation_eq`: the name of a program with its arguments.
* `Trial.argv_of_benchmarkProgram`, `Trial.gives_benchmarkProgram`: the child and the record of a
  benchmark.
* `Command.Compare.alike_work`: a comparison of tidy operands.
* `Command.Compare.names_agree`: operands and the names of their records.
-/

namespace TrialMeter

/-! ### Names -/

/-- A program is named by its path and its arguments, joined by single spaces. -/
theorem Child.invocation_eq (program : String) (args : List String) :
    invocation program args = " ".intercalate (program :: args) := by
  induction args generalizing program with
  | nil => exact String.intercalate_singleton.symm
  | cons arg args ih =>
    have hstep : invocation program (arg :: args) = invocation (program ++ " " ++ arg) args := rfl
    rw [hstep, ih, String.intercalate_cons_append, String.intercalate_cons_cons]

/-! ### What a computation gives -/

/-- Whatever a computation gives satisfies `p`. -/
def Meter.Gives {ε α : Type} (p : α → Prop) (m : Meter (Except ε α)) : Prop :=
  ∀ k a, (m k).value = .ok a → p a

namespace Meter.Gives

variable {ε α β : Type} {x : ExceptT ε Meter α} {f : α → ExceptT ε Meter β} {p : β → Prop}

/-- What a sequence gives is given by its end. -/
theorem bind (hf : ∀ a, (f a).run.Gives p) : (x >>= f).run.Gives p := by
  intro k b h
  rcases hrun : (x >>= f).run k with ⟨value, k', es⟩
  obtain rfl : value = .ok b := (congrArg Ran.value hrun).symm.trans h
  obtain ⟨a, k₁, _, _, -, hrest, -⟩ := run_ok_inv hrun
  exact hf a k₁ b (congrArg Ran.value hrest)

theorem «finally» {y : ExceptT ε Meter β} {cleanup : Meter Unit} (hy : y.run.Gives p) :
    (Meter.finally y cleanup).run.Gives p := fun k b h => hy k b h

end Meter.Gives

/-! ### One benchmark -/

/-- Objects to a child, unless it has the path `program` and the arguments `args`. -/
def argvAudit (program : String) (args : List String) : Audit Unit where
  step _
    | .child path argv _ => if path = program ∧ argv = program :: args then some () else none
    | _ => some ()

section

variable {program : String} {args : List String}

/-- What passes has no other child. -/
theorem argv_of_check {trace : List Entry} (h : (argvAudit program args).check () trace = some ())
    {path : String} {argv : List String} {reply : Reply Pid}
    (hmem : .child path argv reply ∈ trace) : path = program ∧ argv = program :: args := by
  obtain ⟨before, after, rfl⟩ := List.append_of_mem hmem
  rw [Audit.check_append] at h
  obtain ⟨_, -, h⟩ := Option.bind_eq_some_iff.mp h
  obtain ⟨_, hstep, -⟩ := Option.bind_eq_some_iff.mp h
  exact (Option.ite_none_right_eq_some.mp hstep).1

theorem argvAudit_atRest : (argvAudit program args).AtRest () where
  clock _ _ := rfl
  counter _ _ _ := rfl
  disable _ _ := rfl
  refused _ _ := rfl
  window _ _ := rfl
  read _ _ := rfl
  close _ := rfl
  work _ := rfl
  log _ := rfl

namespace Trial

variable {s : Settings}

/-- A benchmark of a program starts no other one. -/
theorem argvAudit_benchmarkProgram :
    (argvAudit program args).Preserves () (benchmarkProgram s program args).run := by
  have h : (argvAudit program args).AtRest () := argvAudit_atRest
  refine (h.createClock s.source).attemptBind (fun clock => ?_) fun _ => rfl
  refine Audit.Preserves.exceptBind (.pure _) (fun g => ?_) fun _ => rfl
  have hspawn : (argvAudit program args).Preserves () (Child.spawn program args).run :=
    Audit.preserves_of_within (Child.within_spawn (fun _ => rfl) (fun _ => if_pos ⟨rfl, rfl⟩) h.log)
  refine hspawn.attemptBind (fun pid => ?_) fun _ => rfl
  have hattach : (argvAudit program args).Preserves () (attach g pid) :=
    (h.reopenGroup g pid).bind fun r =>
      (h.warnRefused _ r.1).bind fun _ => Audit.Preserves.pure _
  have hstart : (argvAudit program args).Preserves () (startClock clock pid).run :=
    Audit.preserves_of_within (within_startClock h.log h.clock fun _ => rfl)
  have hreap : (argvAudit program args).Preserves () (reap program pid).run :=
    Audit.preserves_of_within (within_reap h.log fun _ => rfl)
  refine hattach.liftBind fun g => Audit.Preserves.finally ?_ (h.releaseAll g.members)
  refine hstart.attemptBind (fun clock => ?_) fun _ => rfl
  refine (h.startCounters g).liftBind fun _ => hreap.attemptBind (fun _ => ?_) fun _ => rfl
  refine (h.stopClock clock).insist.attemptBind (fun clock => ?_) fun _ => rfl
  exact (h.stopCounters g).liftBind fun _ => h.report _ clock g

theorem argv_of_benchmarkProgram {k : Kernel} {path : String} {argv : List String}
    {reply : Reply Pid}
    (hmem : .child path argv reply ∈ ((benchmarkProgram s program args).run k).trace) :
    path = program ∧ argv = program :: args := by
  obtain ⟨_, hcheck, -⟩ := argvAudit_benchmarkProgram (s := s) k
  exact argv_of_check hcheck hmem

/-- A report has the name that it is asked for. -/
theorem gives_report {clock : IntervalClock} {g : Group Counter} {name : String} :
    (report s name clock g).run.Gives (·.name = name) := by
  refine .bind fun time k r h => ?_
  obtain rfl : ((Record.ofGroup name time g : Meter Record) k).value = r := Except.ok.inj h
  rw [Record.ofGroup_eq_mapM]
  exact Record.ofCounts_name ..

/-- The record of a benchmark is named after the program and its arguments. -/
theorem gives_benchmarkProgram :
    (benchmarkProgram s program args).run.Gives (·.name = Child.invocation program args) :=
  .bind fun _ => .bind fun _ => .bind fun _ => .bind fun _ => .finally <|
    .bind fun _ => .bind fun _ => .bind fun _ => .bind fun _ => .bind fun _ => gives_report

end Trial

end

/-! ### Doing the same -/

/-- Two runs that do the same, up to the log. -/
structure Ran.Alike {α : Type} (r r' : Ran α) : Prop where
  value_eq : r.value = r'.value
  kernel_eq : r.kernel = r'.kernel
  calls_eq : calls r.trace = calls r'.trace

/-- Two computations that do the same on every kernel, up to the log. -/
def Meter.Alike {α : Type} (m m' : Meter α) : Prop := ∀ k, (m k).Alike (m' k)

namespace Meter.Alike

variable {ε α β : Type}

theorem refl (m : Meter α) : m.Alike m := fun _ => ⟨rfl, rfl, rfl⟩

theorem bind {m m' : Meter α} {f f' : α → Meter β} (hm : m.Alike m')
    (hf : ∀ a, (f a).Alike (f' a)) : (m >>= f).Alike (m' >>= f') := by
  intro k
  obtain ⟨hvalue, hkernel, hcalls⟩ := hm k
  have hrest := hf (m k).value (m k).kernel
  rw [bind_apply, bind_apply, ← hvalue, ← hkernel]
  exact ⟨hrest.value_eq, hrest.kernel_eq, by rw [calls_append, calls_append, hcalls,
    hrest.calls_eq]⟩

theorem exceptBind {x x' : ExceptT ε Meter α} {f f' : α → ExceptT ε Meter β}
    (hx : x.run.Alike x'.run) (hf : ∀ a, (f a).run.Alike (f' a).run) :
    (x >>= f).run.Alike (x' >>= f').run := by
  rw [ExceptT.run_bind, ExceptT.run_bind]
  refine hx.bind fun r => ?_
  cases r with
  | ok a => exact hf a
  | error e => exact refl _

end Meter.Alike

/-! ### Operands -/

namespace Command.Compare

variable {o : Options} {operand : String} {k : Kernel}

/-- A round makes nothing but its trials. -/
theorem exists_of_mem_tries {trial : Meter (Except Failure Record)} {n : ℕ}
    {ran : Ran (Except Failure Record)} (h : ran ∈ tries trial n k) : ∃ k', ran = trial k' := by
  induction n generalizing k with
  | zero => exact absurd h List.not_mem_nil
  | succ n ih =>
    rw [tries] at h
    split at h
    · rcases List.mem_cons.mp h with rfl | h
      · exact ⟨k, rfl⟩
      · exact ih h
    · exact ⟨k, List.mem_singleton.mp h⟩

/-- The round of an operand runs the program that it names. -/
theorem exists_of_mem_roundOf {program : String} {args : List String}
    (hwords : Text.words operand = program :: args) {ran : Ran (Except Failure Record)}
    (h : ran ∈ roundOf o operand k) :
    ∃ k', ran = (Trial.benchmarkProgram { resolution := o.resolution } program args).run k' := by
  rw [roundOf, hwords] at h
  exact exists_of_mem_tries h

theorem roundOf_tidy (o : Options) (operand : String) (k : Kernel) :
    roundOf o (Text.tidy operand) k = roundOf o operand k := by
  rw [roundOf, roundOf, Text.words_tidy]

/-- A complaint is a line of the log. -/
theorem eq_log_of_mem_complaints {round : Round} {e : Entry} (h : e ∈ complaints operand round) :
    ∃ line, e = .log line := by
  obtain ⟨ran, -, hran⟩ := List.mem_filterMap.mp h
  split at hran
  · exact ⟨_, (Option.some.inj hran).symm⟩
  · exact absurd hran nofun

/-- The calls of a round are those of its trials. -/
theorem calls_roundTrace (operand : String) (round : Round) :
    calls (roundTrace operand round) = calls (round.flatMap Ran.trace) := by
  have hcomplaints : calls (complaints operand round) = [] :=
    List.filter_eq_nil_iff.mpr fun e he => by
      obtain ⟨line, rfl⟩ := eq_log_of_mem_complaints he
      exact Bool.false_ne_true
  rw [roundTrace, calls_append, hcomplaints, List.append_nil]

theorem hasRoom_tidy : HasRoom o [Text.tidy operand] ↔ HasRoom o [operand] := by
  rw [HasRoom, HasRoom, List.forall_mem_singleton, List.forall_mem_singleton, Text.words_tidy]

/-- An operand and its tidy form fare alike. -/
theorem alike_assess (o : Options) (operand : String) :
    (assess o (Text.tidy operand)).run.Alike (assess o operand).run := by
  intro k
  by_cases hroom : HasRoom o [operand]
  · rw [assess_of_hasRoom hroom, assess_of_hasRoom (hasRoom_tidy.mpr hroom), roundOf_tidy]
    exact ⟨rfl, rfl, by rw [calls_roundTrace, calls_roundTrace]⟩
  · rw [assess_beyond hroom, assess_beyond (mt hasRoom_tidy.mp hroom)]
    exact ⟨rfl, rfl, rfl⟩

theorem alike_assessAll (o : Options) (operands : List String) :
    (assessAll o (operands.map Text.tidy)).run.Alike (assessAll o operands).run := by
  induction operands with
  | nil => exact .refl _
  | cons operand operands ih =>
    exact (alike_assess o operand).exceptBind fun _ => ih.exceptBind fun _ => .refl _

/-- A comparison of tidy operands goes like one of the operands. -/
theorem alike_work (o : Options) (operands : List String) :
    (work o (operands.map Text.tidy)).Alike (work o operands) :=
  (alike_assessAll o operands).bind fun _ => .refl _

section

variable {program : String} {args : List String}
  (hwords : Text.words operand = program :: args)

include hwords

/-- The children of an operand are started by its words. -/
theorem argv_of_assess {path : String} {argv : List String} {reply : Reply Pid}
    (hmem : .child path argv reply ∈ ((assess o operand).run k).trace) :
    path = program ∧ argv = program :: args := by
  by_cases hroom : HasRoom o [operand]
  · rw [assess_of_hasRoom hroom] at hmem
    rcases List.mem_append.mp hmem with hmem | hmem
    · obtain ⟨ran, hran, hmem⟩ := List.mem_flatMap.mp hmem
      obtain ⟨k', rfl⟩ := exists_of_mem_roundOf hwords hran
      exact Trial.argv_of_benchmarkProgram hmem
    · obtain ⟨line, hline⟩ := eq_log_of_mem_complaints hmem
      cases hline
  · rw [assess_beyond hroom] at hmem
    exact absurd hmem List.not_mem_nil

/-- The records of an operand are named after its words. -/
theorem name_of_mem_roundOf {ran : Ran (Except Failure Record)} {r : Record}
    (hran : ran ∈ roundOf o operand k) (hr : ran.value = .ok r) :
    r.name = " ".intercalate (program :: args) := by
  obtain ⟨k', rfl⟩ := exists_of_mem_roundOf hwords hran
  rw [← Child.invocation_eq]
  exact Trial.gives_benchmarkProgram k' r hr

/-- So is their mean. -/
theorem name_of_assess {r : Record} (hr : ((assess o operand).run k).value = .ok (some r)) :
    r.name = " ".intercalate (program :: args) := by
  have hroom : HasRoom o [operand] := by
    by_contra hbeyond
    rw [assess_beyond hbeyond] at hr
    cases hr
  rw [assess_of_hasRoom hroom] at hr
  cases hvalues : values (roundOf o operand k) with
  | error f =>
    rw [hvalues] at hr
    cases f with
    | error e => cases hr
    | fault f => cases hr
  | ok records =>
    rw [hvalues] at hr
    have hmean : Record.mean records = some r := Except.ok.inj hr
    obtain ⟨first, hfirst, hname⟩ := Option.map_eq_some_iff.mp (Record.name_time_mean hmean).1
    have hrecords : (roundOf o operand k).filterMap (fun ran => ran.value.toOption) = records := by
      rw [roundOf, hwords] at hvalues ⊢
      exact (tries_of_values_ok hvalues).2.2
    rw [← hrecords] at hfirst
    obtain ⟨ran, hran, hoption⟩ := List.mem_filterMap.mp (List.mem_of_head? hfirst)
    cases hvalue : ran.value with
    | error f =>
      rw [hvalue] at hoption
      cases hoption
    | ok r' =>
      rw [hvalue] at hoption
      obtain rfl : r' = first := Option.some.inj hoption
      exact hname ▸ name_of_mem_roundOf hwords hran hvalue

end

/-- **Operands and the names of their records.** Whatever the kernel answers, every child that is
started for an operand with words is started by them: the first one is its path, and all of them are
its arguments. Every record of the operand, and the mean of these, is named by the same words,
joined by single spaces. From this name they are told again, so it is its own name, and what becomes
of it is what becomes of the operand: the same trials with the same outcomes on the same kernels,
and the same record or failure in the end, or none of these if there is no room for the records.
Only the line of the log about a trial that failed tells them apart, as it begins with the operand
itself. A comparison that is asked for names instead of operands does and prints the same. -/
theorem names_agree (o : Options) {operand program : String} {args : List String}
    (h : Text.words operand = program :: args) (k : Kernel) :
    let name := " ".intercalate (program :: args)
    let round := roundOf o operand k
    (∀ path argv reply, .child path argv reply ∈ ((assess o operand).run k).trace →
      path = program ∧ argv = program :: args) ∧
    (∀ ran ∈ round, ∀ r, ran.value = .ok r → r.name = name) ∧
    (∀ r, ((assess o operand).run k).value = .ok (some r) → r.name = name) ∧
    Text.words name = program :: args ∧ Text.tidy name = name ∧
    roundOf o name k = round ∧
    (o.runs ≤ capacity →
      (assess o operand).run k =
        ⟨assessed (values round), leftBy k round, roundTrace operand round⟩ ∧
      (assess o name).run k =
        ⟨assessed (values round), leftBy k round, roundTrace name round⟩) ∧
    (capacity < o.runs →
      (assess o operand).run k = ⟨.error .capacityOverflow, k, []⟩ ∧
      (assess o name).run k = ⟨.error .capacityOverflow, k, []⟩) ∧
    calls ((assess o name).run k).trace = calls ((assess o operand).run k).trace ∧
    ∀ operands, (work o (operands.map Text.tidy)).Alike (work o operands) := by
  intro name round
  have hname : Text.tidy operand = name := congrArg (String.intercalate " ") h
  have hwords : Text.words name = program :: args := hname ▸ (Text.words_tidy operand).trans h
  have hround : roundOf o name k = round := hname ▸ roundOf_tidy o operand k
  refine ⟨fun _ _ _ => argv_of_assess h, fun _ hran _ => name_of_mem_roundOf h hran,
    fun _ => name_of_assess h, hwords, hname ▸ Text.tidy_tidy operand, hround, fun hroom => ?_,
    fun hbeyond => ?_, hname ▸ (alike_assess o operand k).calls_eq, alike_work o⟩
  · rw [assess_of_hasRoom (.inl hroom), assess_of_hasRoom (.inl hroom), hround]
    exact ⟨rfl, rfl⟩
  · have hnone {p : String} (hp : Text.words p = program :: args) : ¬HasRoom o [p] :=
      not_hasRoom_singleton.mpr ⟨hbeyond, by simp [hp]⟩
    exact ⟨assess_beyond (hnone h), assess_beyond (hnone hwords)⟩

/-- An operand with blanks of several kinds, before, between and after its words. -/
theorem names_agree_for_blanks :
    let operand := "\u2003/bin/sleep \t\u3000 0.1\n"
    let name := "/bin/sleep 0.1"
    let k : Kernel := {
      script := {}
      descriptor := (· + 3)
      newPid := fun n => n }
    let run := (assess {} operand).run k
    Text.words operand = ["/bin/sleep", "0.1"] ∧ Text.words name = ["/bin/sleep", "0.1"] ∧
      Text.tidy name = name ∧ roundOf {} name k = roundOf {} operand k ∧
      .child "/bin/sleep" ["/bin/sleep", "0.1"] (.done 0) ∈ run.trace ∧
      ∃ r, run.value = .ok (some r) ∧ r.name = name := by
  intro operand name k run
  have hwords : Text.words operand = ["/bin/sleep", "0.1"] := by decide +kernel
  obtain ⟨-, -, hmean, hname, htidy, hround, -⟩ := names_agree {} hwords k
  have hsome : (run.value.toOption.any Option.isSome) = true := by decide +kernel
  have hresult : ∃ r, run.value = .ok (some r) := by
    revert hsome
    rcases run.value with f | _ | r
    · exact nofun
    · exact nofun
    · exact fun _ => ⟨r, rfl⟩
  obtain ⟨r, hr⟩ := hresult
  exact ⟨hwords, hname, htidy, hround, by decide +kernel, r, hr, hmean r hr⟩

end Command.Compare

end TrialMeter
