import TrialMeter.Proofs.Trial.External

/-!
# Starting a program

A program is started with an argument vector, whose first member is the path of the program. None
of its members may hold the character by which arguments end, and all of them are looked at before
the kernel is asked for anything: the first one that is unfit is reported, and nothing has happened.
With fit arguments the kernel is asked for the attributes of a child once, and for the child once
when these are set up. What a caller does with the child comes after that and changes none of it.

## Main definitions

* `Child.IsUnfit`, `Child.IsFirstUnfit`: arguments that cannot be handed over.
* `Kernel.spawned`: how a program with fit arguments is started.
* `Child.AsksOnce`: how a program is asked for.

## Main results

* `Child.checkArguments_eq_find`: the check finds the first unfit argument.
* `Child.asksOnce_bind`: starting a program, whatever is done with the child.
* `Child.spawn_asksOnce`: the two ways to start a program.
-/

namespace TrialMeter

open Meter (Does)

/-- How a program with fit arguments is started, and what calls that leaves. `rest` tells the same
of what is done with the child. -/
def Kernel.spawned (k : Kernel) (program : String) (args : List String)
    (rest : Pid → Except Error Pid × List Entry) : Except Error Pid × List Entry :=
  match k.childAttrAt 0, k.childAt 0 with
  | .failed e, _ => (.error (.childAttr (.os e)), [.childAttr (.failed e)])
  | .done (), .failed e => (.error (.spawning program (.os e)),
    [.childAttr (.done ()), .child program (program :: args) (.failed e)])
  | .done (), .done pid => ((rest pid).1,
    .childAttr (.done ()) :: .child program (program :: args) (.done pid) :: (rest pid).2)

namespace Child

/-- An argument that cannot be handed over: it holds the character by which arguments end. -/
def IsUnfit (argument : String) : Prop := '\x00' ∈ argument.toList

instance : DecidablePred IsUnfit := fun argument =>
  inferInstanceAs (Decidable ('\x00' ∈ argument.toList))

/-- The first of some arguments that cannot be handed over. -/
def IsFirstUnfit (bad : String) (line : List String) : Prop :=
  ∃ before after, line = before ++ bad :: after ∧ IsUnfit bad ∧ ∀ a ∈ before, ¬IsUnfit a

/-- How `program` is asked for on the kernel `k` by a run that goes on with a child as `rest` tells.
-/
structure AsksOnce (program : String) (args : List String) (k : Kernel)
    (rest : Pid → Except Error Pid × List Entry) (run : Ran (Except Error Pid)) : Prop where
  /-- An argument is refused if and only if one is unfit, the program counted. -/
  refused_iff : (∃ bad, run.value = .error (.interiorNul bad)) ↔ ∃ a ∈ program :: args, IsUnfit a
  /-- The argument that is reported is the first unfit one. -/
  reported_iff : ∀ bad,
    run.value = .error (.interiorNul bad) ↔ IsFirstUnfit bad (program :: args)
  /-- With an unfit argument nothing happens. -/
  unasked : (∃ a ∈ program :: args, IsUnfit a) → run.kernel = k ∧ run.trace = []
  /-- With fit arguments the attributes are asked for once, and the child once if they are set up.
  What the kernel refuses is not asked for again and ends the run. -/
  asked : (∀ a ∈ program :: args, ¬IsUnfit a) →
    run.value = (k.spawned program args rest).1 ∧ calls run.trace = (k.spawned program args rest).2

/-! ### Checking arguments -/

theorem checkArgument_eq (argument : String) :
    checkArgument argument =
      if IsUnfit argument then .error (.interiorNul argument) else .ok () :=
  if_congr List.contains_iff_mem rfl rfl

/-- The check of several arguments finds the first that is unfit. -/
theorem checkArguments_eq_find (line : List String) :
    checkArguments line = match line.find? fun a => IsUnfit a with
      | some bad => .error (.interiorNul bad)
      | none => .ok () := by
  induction line with
  | nil => rfl
  | cons a line ih =>
    rw [checkArguments, checkArgument_eq]
    by_cases h : IsUnfit a
    · rw [if_pos h, List.find?_cons_of_pos (by simpa using h)]
      rfl
    · rw [if_neg h, List.find?_cons_of_neg (by simpa using h)]
      exact ih

theorem find?_isUnfit_iff {line : List String} {bad : String} :
    (line.find? fun a => IsUnfit a) = some bad ↔ IsFirstUnfit bad line := by
  simp only [List.find?_eq_some_iff_append, decide_eq_true_eq, Bool.not_eq_true',
    decide_eq_false_iff_not]
  exact ⟨fun ⟨hbad, before, after, hline, hfit⟩ => ⟨before, after, hline, hbad, hfit⟩,
    fun ⟨before, after, hline, hbad, hfit⟩ => ⟨hbad, before, after, hline, hfit⟩⟩

/-- Arguments pass, or there is a first one among them that is unfit. -/
theorem checkArguments_cases (line : List String) :
    (checkArguments line = .ok () ∧ ∀ a ∈ line, ¬IsUnfit a) ∨
    ∃ bad, checkArguments line = .error (.interiorNul bad) ∧ IsFirstUnfit bad line := by
  have hcheck := checkArguments_eq_find line
  cases hfind : line.find? fun a => IsUnfit a with
  | none =>
    rw [hfind] at hcheck
    exact .inl ⟨hcheck, by simpa using hfind⟩
  | some bad =>
    rw [hfind] at hcheck
    exact .inr ⟨bad, hcheck, find?_isUnfit_iff.mp hfind⟩

theorem IsFirstUnfit.exists_mem {bad : String} {line : List String} (h : IsFirstUnfit bad line) :
    ∃ a ∈ line, IsUnfit a := by
  obtain ⟨before, after, rfl, hbad, -⟩ := h
  exact ⟨bad, List.mem_append_cons_self, hbad⟩

/-- There is only one first unfit argument. -/
theorem IsFirstUnfit.unique {bad other : String} {line : List String} (h : IsFirstUnfit bad line)
    (h' : IsFirstUnfit other line) : bad = other := by
  rw [← find?_isUnfit_iff] at h h'
  exact Option.some.inj (h.symm.trans h')

theorem checkArguments_ok_iff {line : List String} :
    checkArguments line = .ok () ↔ ∀ a ∈ line, ¬IsUnfit a := by
  obtain ⟨hok, hfit⟩ | ⟨bad, herror, hfirst⟩ := checkArguments_cases line
  · exact iff_of_true hok hfit
  · obtain ⟨a, hmem, ha⟩ := hfirst.exists_mem
    exact iff_of_false (fun hok => absurd (herror.symm.trans hok) nofun) fun hfit => hfit a hmem ha

end Child

/-! ### Starting -/

variable {program : String} {args : List String} {rest : Pid → Except Error Pid × List Entry}

namespace Kernel

variable (k : Kernel)

/-- To start a program leaves nothing but calls, if what is done with the child does. -/
theorem calls_spawned (h : ∀ pid, calls (rest pid).2 = (rest pid).2) :
    calls (k.spawned program args rest).2 = (k.spawned program args rest).2 := by
  unfold spawned
  cases k.childAttrAt 0 with
  | failed e => rfl
  | done set =>
    cases k.childAt 0 with
    | failed e => rfl
    | done pid =>
      rw [calls_cons, calls_cons, h]
      rfl

/-- A kernel that is asked for a child has been given fit arguments. -/
theorem spawned_ne_interiorNul (h : ∀ pid bad, (rest pid).1 ≠ .error (.interiorNul bad))
    (bad : String) : (k.spawned program args rest).1 ≠ .error (.interiorNul bad) := by
  unfold spawned
  cases k.childAttrAt 0 with
  | failed e => exact nofun
  | done set =>
    cases k.childAt 0 with
    | failed e => exact nofun
    | done pid => exact h pid bad

end Kernel

namespace Child

variable {k : Kernel} {f : Pid → Attempt Pid}

/-- With fit arguments a program is started as `Kernel.spawned` tells, and what is done with the
child comes after that. -/
theorem spawn_bind_fit (hcheck : checkArguments (program :: args) = .ok ())
    (hf : ∀ pid, ∃ u', (f pid).run.Does k { childAttrs := 1, children := 1 } (· = (rest pid).1) u'
      (rest pid).2) :
    ∃ u', (spawn program args >>= f).run.Does k {} (· = (k.spawned program args rest).1) u'
      (k.spawned program args rest).2 := by
  unfold Kernel.spawned
  cases hattr : k.childAttrAt 0 with
  | failed e => exact ⟨_, (does_spawn_unset hcheck hattr).stop rfl⟩
  | done set =>
    cases hchild : k.childAt 0 with
    | failed e => exact ⟨_, (does_spawn_refused hcheck hattr hchild).stop rfl⟩
    | done pid =>
      obtain ⟨u', hrest⟩ := hf pid
      exact ⟨u', (does_spawn hcheck hattr hchild).ok hrest⟩

/-- A program is asked for once, whatever is done with the child, as long as that reports no
argument. -/
theorem asksOnce_bind
    (hf : ∀ pid, ∃ u', (f pid).run.Does k { childAttrs := 1, children := 1 } (· = (rest pid).1) u'
      (rest pid).2)
    (hcalls : ∀ pid, calls (rest pid).2 = (rest pid).2)
    (hvalue : ∀ pid bad, (rest pid).1 ≠ .error (.interiorNul bad)) :
    AsksOnce program args k rest ((spawn program args >>= f).run k) := by
  obtain ⟨hcheck, hfit⟩ | ⟨bad, hcheck, hfirst⟩ := checkArguments_cases (program :: args)
  · obtain ⟨u', hdoes⟩ := spawn_bind_fit hcheck hf
    have hnone : ¬∃ a ∈ program :: args, IsUnfit a := fun ⟨a, hmem, ha⟩ => hfit a hmem ha
    have hreported : ∀ bad, ((spawn program args >>= f).run k).value ≠ .error (.interiorNul bad) :=
      fun bad h => k.spawned_ne_interiorNul hvalue bad (hdoes.value.symm.trans h)
    refine ⟨iff_of_false (fun ⟨bad, h⟩ => hreported bad h) hnone,
      fun bad => iff_of_false (hreported bad) fun hfirst => hnone hfirst.exists_mem,
      fun hunfit => absurd hunfit hnone, fun _ => ⟨hdoes.value, ?_⟩⟩
    exact hdoes.calls_trace.trans (k.calls_spawned hcalls)
  · have hrun : (spawn program args >>= f).run k = ⟨.error (.interiorNul bad), k, []⟩ := by
      rw [spawn, hcheck]
      rfl
    rw [hrun]
    obtain ⟨a, hmem, ha⟩ := hfirst.exists_mem
    refine ⟨iff_of_true ⟨bad, rfl⟩ ⟨a, hmem, ha⟩, fun other => ⟨fun h => ?_, fun h => ?_⟩,
      fun _ => ⟨rfl, rfl⟩, fun hfit => absurd ha (hfit a hmem)⟩
    · injection h with h
      injection h with h
      exact h ▸ hfirst
    · rw [hfirst.unique h]

/-- **A program is asked for once.** To start a program, and to start it and wait for its end, both
look at the path and at the arguments first. If one of them holds the character by which arguments
end, the first of these is reported, and nothing else happens. Otherwise the attributes of a child
are set up once, and if that is done the child is asked for once, by the path of the program and
with it and the arguments as they are for its argument vector. A refusal of either is reported with
the number that the kernel gave, and nothing follows it. Only a child that was started is waited
for, and only by the way that does so. -/
theorem spawn_asksOnce (program : String) (args : List String) (k : Kernel) :
    AsksOnce program args k (fun pid => (.ok pid, [])) ((spawn program args).run k) ∧
    AsksOnce program args k
      (fun pid => (((k.waited 0).result (.waiting pid)).map fun _ => pid, k.waitCalls pid 0))
      ((spawnAndWait program args).run k) := by
  refine ⟨?_, ?_⟩
  · have hbind : spawn program args = spawn program args >>= pure := (bind_pure _).symm
    rw [hbind]
    exact asksOnce_bind (fun pid => ⟨_, .return rfl⟩) (fun _ => rfl) fun _ _ => nofun
  · refine asksOnce_bind (fun pid => ?_) (fun pid => (k.mute_waitCalls pid 0).calls_eq)
      fun pid bad => ?_
    · cases hreply : k.waited 0 with
      | done status => exact ⟨_, (does_wait hreply).okPure (.return rfl)⟩
      | failed e => exact ⟨_, (does_wait_refused hreply).stop rfl⟩
    · cases k.waited 0 with
      | done status => exact nofun
      | failed e => exact nofun

/-- Of two unfit arguments the first is reported. A program that cannot be found is asked for once,
also to be waited for. -/
theorem spawn_asksOnce_at_refusals :
    let k : Kernel := {
      script := { children := [.failed ⟨2⟩, .done 7] }
      descriptor := (· + 3)
      newPid := fun n => n }
    let twice := (spawnAndWait "/a" ["x", "b\x00", "\x00"]).run k
    let missing := (spawnAndWait "/a" ["x"]).run k
    twice.value = .error (.interiorNul "b\x00") ∧ twice.trace = [] ∧
      missing.value = .error (.spawning "/a" (.os ⟨2⟩)) ∧
      calls missing.trace = [.childAttr (.done ()), .child "/a" ["/a", "x"] (.failed ⟨2⟩)] := by
  intro k twice missing
  have htwice := (spawn_asksOnce "/a" ["x", "b\x00", "\x00"] k).2
  have hmissing := (spawn_asksOnce "/a" ["x"] k).2
  have hfirst : IsFirstUnfit "b\x00" ["/a", "x", "b\x00", "\x00"] :=
    ⟨["/a", "x"], ["\x00"], rfl, by decide, by decide⟩
  obtain ⟨hvalue, hcalls⟩ := hmissing.asked (by decide)
  exact ⟨(htwice.reported_iff _).mpr hfirst, (htwice.unasked hfirst.exists_mem).2, hvalue, hcalls⟩

end Child

end TrialMeter
