import TrialMeter.Proofs.Ownership.Trial

/-!
# Descriptors of sessions

The descriptors of a session are those of the bindings in its store, wherever they live: in an
object of their own, in a counter, or in a group. Every operation moves the ledger and the store
together, whatever the kernel answers: an object that is replaced or dropped gives its descriptors
back, one that is refused never had any, and counters that leave their slots for a group take their
descriptors along, into the group or back to the kernel.

## Main definitions

* `Store.Accounts`: a store that accounts for all descriptors that are held.

## Main results

* `Operation.passes_perform`: one operation.
* `Session.passes_run`: a whole session.
* `Session.stored_eq_open`: the descriptors in the bindings of a session are the open ones.
-/

namespace TrialMeter

open Audit (preserves_of_within)
open Meter (Within)

variable {rest held : Multiset Fd}

/-! ### Objects -/

section Owns

variable {α β ε : Type} {x : ExceptT ε Meter α}

theorem passes_map_owns {f : α → β} {own : α → Multiset Fd} {own' : β → Multiset Fd}
    (hx : ledger.Passes held x.run (Owns own rest)) (hf : ∀ a, own' (f a) = own a) :
    ledger.Passes held (f <$> x).run (Owns own' rest) := by
  rw [ExceptT.run_map]
  refine (hx.mono fun r held' h => ?_).map
  cases r with
  | ok a => rwa [Except.map, Owns, hf]
  | error e => exact h

theorem passes_owns_of_preserves (hx : ledger.Preserves rest x.run) :
    ledger.Passes rest x.run (Owns (fun _ => 0) rest) := by
  refine hx.mono fun r held' h => ?_
  cases r with
  | ok a => rwa [Owns, zero_add]
  | error e => exact h

end Owns

theorem Object.passes_release (o : Object) :
    ledger.Passes (owned o.bindings + rest) o.release fun _ held => held = rest := by
  cases o with
  | binding b => exact (b.passes_release.mono fun _ _ h => h.2).map
  | counter c => exact c.passes_release.map
  | group g => exact g.passes_release
  | _ => exact .pure (zero_add rest)

/-- An object that could not be made leaves nothing open. -/
theorem Blueprint.passes_make (b : Blueprint) :
    ledger.Passes rest b.make.run (Owns (fun o => owned o.bindings) rest) := by
  have hclock : ∀ source, ledger.Preserves rest (IntervalClock.create source).run :=
    fun source => preserves_of_within (IntervalClock.within_create fun _ => rfl)
  have hwatch : ∀ source, ledger.Preserves rest (Stopwatch.create source).run :=
    fun source => preserves_of_within (Stopwatch.within_create fun _ => rfl)
  cases b with
  | systemClock source =>
    exact passes_map_owns (passes_owns_of_preserves (hclock source)) fun _ => rfl
  | wallClock source =>
    exact passes_map_owns (passes_owns_of_preserves (hclock source)) fun _ => rfl
  | stopwatch source =>
    exact passes_map_owns (passes_owns_of_preserves (hwatch source)) fun _ => rfl
  | binding kind => exact .pure (zero_add rest).symm
  | built builder => exact .pure (zero_add rest).symm
  | finished builder => exact passes_map_owns builder.passes_finish fun _ => rfl
  | counter kind => exact passes_map_owns (Counter.passes_create kind) fun _ => rfl
  | quietCounter kind => exact .pure (zero_add rest).symm
  | group kinds => exact passes_map_owns (Group.passes_create kinds) fun _ => rfl
  | quietGroup kinds => exact passes_map_owns (Group.passes_quiet kinds) fun _ => rfl

/-! ### Stores -/

namespace Store

/-- No slot occurs twice. -/
def Distinct (s : Store) : Prop := (s.objects.map Prod.fst).Nodup

variable {s : Store} {slot : Slot} {o : Object}

theorem distinct_erase (h : s.Distinct) (slot : Slot) : (s.erase slot).Distinct :=
  h.sublist (List.filter_sublist.map Prod.fst)

theorem distinct_put (h : s.Distinct) (slot : Slot) (o : Object) : (s.put slot o).Distinct := by
  refine List.nodup_cons.mpr ⟨?_, distinct_erase h slot⟩
  intro hmem
  obtain ⟨entry, hentry, hslot⟩ := List.mem_map.mp hmem
  have hne := (List.mem_filter.mp hentry).2
  simp [hslot] at hne

theorem owned_put : owned (s.put slot o).bindings =
    owned o.bindings + owned (s.erase slot).bindings :=
  owned_append _ _

theorem erase_of_get_eq_none (h : s.get slot = none) : s.erase slot = s := by
  have hslots := List.lookup_eq_none_iff.mp h
  have hfilter : (s.objects.filter fun entry => entry.1 != slot) = s.objects := by
    refine List.filter_eq_self.mpr fun entry hentry => ?_
    rw [bne_iff_ne, ne_comm, ← bne_iff_ne]
    exact hslots entry hentry
  rw [erase, hfilter]

/-- The object in a slot, and what is left without it. -/
theorem owned_of_get (hs : s.Distinct) (h : s.get slot = some o) :
    owned s.bindings = owned o.bindings + owned (s.erase slot).bindings := by
  obtain ⟨objects⟩ := s
  induction objects with
  | nil => exact absurd h nofun
  | cons entry objects ih =>
    obtain ⟨slot', o'⟩ := entry
    obtain ⟨hnot, hs'⟩ := List.nodup_cons.mp hs
    have hcons : owned (Store.mk ((slot', o') :: objects)).bindings =
        owned o'.bindings + owned (Store.mk objects).bindings := owned_append _ _
    by_cases heq : slot = slot'
    · subst heq
      obtain rfl : o' = o := by simpa [get] using h
      have hrest : (Store.mk ((slot, o') :: objects)).erase slot = Store.mk objects := by
        have hnone : (Store.mk objects).get slot = none := by
          refine List.lookup_eq_none_iff.mpr fun entry hentry => ?_
          rw [bne_iff_ne]
          rintro rfl
          have hmem : entry.1 ∈ objects.map Prod.fst := List.mem_map_of_mem hentry
          exact hnot hmem
        have herase := erase_of_get_eq_none hnone
        simpa [erase] using herase
      rw [hcons, hrest]
    · have hget : (Store.mk objects).get slot = some o := by
        simpa [get, List.lookup_cons, beq_eq_false_iff_ne.mpr heq] using h
      have herase : (Store.mk ((slot', o') :: objects)).erase slot =
          ⟨(slot', o') :: ((Store.mk objects).erase slot).objects⟩ := by
        simp [erase, Ne.symm heq]
      have hput : owned (Store.mk ((slot', o') :: ((Store.mk objects).erase slot).objects)).bindings
          = owned o'.bindings + owned ((Store.mk objects).erase slot).bindings := owned_append _ _
      rw [hcons, herase, hput, ih hs' hget, add_left_comm]

theorem owned_of_get_eq_none (h : s.get slot = none) :
    owned s.bindings = owned (s.erase slot).bindings := by
  rw [erase_of_get_eq_none h]

/-- A store accounts for what is held: every descriptor is that of a binding in its slots. -/
structure Accounts (s : Store) (held : Multiset Fd) : Prop where
  distinct : s.Distinct
  held_eq : held = owned s.bindings

theorem accounts_empty : (Store.mk []).Accounts 0 := ⟨List.nodup_nil, rfl⟩

theorem accounts_put (h : s.Distinct)
    (hheld : held = owned o.bindings + owned (s.erase slot).bindings) :
    (s.put slot o).Accounts held :=
  ⟨distinct_put h slot o, hheld.trans owned_put.symm⟩

/-- The object in a slot gives back what it has, and the rest of the store stays. -/
theorem passes_release (h : s.Distinct) (slot : Slot) :
    ledger.Passes (owned s.bindings + rest) (s.release slot) fun _ held =>
      held = owned (s.erase slot).bindings + rest := by
  unfold release
  cases hget : s.get slot with
  | some o =>
    rw [owned_of_get h hget, add_assoc]
    exact o.passes_release
  | none =>
    rw [owned_of_get_eq_none hget]
    exact .pure rfl

/-- The counters that are taken out of their slots take their descriptors along. -/
theorem accounts_of_takeCounters {slots : List Slot} {counters : List Counter} {s' : Store}
    (hs : s.Distinct) (h : s.takeCounters slots = .ok (counters, s')) :
    s'.Distinct ∧ owned s.bindings = ownedBy counters + owned s'.bindings := by
  induction slots generalizing s counters with
  | nil =>
    obtain ⟨rfl, rfl⟩ : [] = counters ∧ s = s' := by simpa [takeCounters] using h
    exact ⟨hs, (zero_add _).symm⟩
  | cons slot slots ih =>
    rw [takeCounters] at h
    split at h
    · rename_i c hget
      cases hothers : (s.erase slot).takeCounters slots with
      | error slot' => rw [hothers] at h; exact absurd h nofun
      | ok taken =>
        obtain ⟨others, s''⟩ := taken
        rw [hothers] at h
        obtain ⟨rfl, rfl⟩ : c :: others = counters ∧ s'' = s' := by
          simpa [pure, bind, Except.bind, Except.pure] using h
        obtain ⟨hdistinct, howned⟩ := ih (distinct_erase hs slot) hothers
        refine ⟨hdistinct, ?_⟩
        rw [owned_of_get hs hget, howned, ownedBy_cons, add_assoc]
        rfl
    · exact absurd h nofun

end Store

/-! ### Operations on objects -/

section Acted

variable {α β : Type} {x : α}

theorem passes_keeping {action : Trial Value} {post : Acted α → Multiset Fd → Prop}
    (h : action.run.Within (LeavesLedger held)) (hpost : ∀ result, post (result, x) held) :
    ledger.Passes held (keeping x action) post :=
  (preserves_of_within h).bind fun result => .pure (hpost result)

theorem passes_answering (own : β → Multiset Fd) {answer : α → Value}
    {m : Meter (Except Error α × β)}
    (h : ledger.Passes held m fun r held' => held' = own r.2 + rest) :
    ledger.Passes held (answering answer <$> m) fun r held' => held' = own r.2 + rest := by
  refine (h.mono fun r held' h => ?_).map
  obtain ⟨result, y⟩ := r
  cases result with
  | ok a => exact h
  | error e => exact h

end Acted

theorem ClockOperation.preserves_perform (c : IntervalClock) (operation : ClockOperation) :
    ledger.Preserves held (operation.perform c) := by
  have helapsed : ∀ result : Except Fault Float,
      (do return .time (← result) : Trial Value).run.Within (LeavesLedger held) :=
    fun _ => (Within.liftExcept _).exceptBind fun _ => .exceptPure _
  cases operation with
  | start => exact (preserves_of_within (IntervalClock.within_start fun _ => rfl)).map _
  | stop => exact (preserves_of_within (IntervalClock.within_stop fun _ => rfl)).map _
  | now => exact passes_keeping (.answer (Timestamp.within_now fun _ => rfl)) fun _ => rfl
  | source => exact passes_keeping (.exceptPure _) fun _ => rfl
  | elapsed r => exact passes_keeping (helapsed _) fun _ => rfl
  | elapsedTo t r => exact passes_keeping (helapsed _) fun _ => rfl

theorem StopwatchOperation.preserves_perform (w : Stopwatch) (operation : StopwatchOperation) :
    ledger.Preserves held (operation.perform w) := by
  cases operation with
  | start => exact (preserves_of_within (Stopwatch.within_start fun _ => rfl)).map _
  | lap => exact (preserves_of_within (Stopwatch.within_lap fun _ => rfl)).map _
  | elapsed =>
    refine passes_keeping ((Within.liftExcept _).exceptBind fun t => ?_) fun _ => rfl
    cases t with
    | some t => exact .exceptPure _
    | none => exact .exceptPure _
  | measure work =>
    have hmeasure : ledger.Preserves held (w.measure work) :=
      preserves_of_within (Stopwatch.within_measure (fun _ => rfl) rfl)
    exact hmeasure.bind fun _ => .pure rfl

theorem BindingOperation.passes_perform (b : Binding) (operation : BindingOperation) :
    ledger.Passes (owned [b] + rest) (operation.perform b) fun r held =>
      held = owned [r.2] + rest := by
  have hserves : b.Serves (LeavesLedger (owned [b] + rest)) := b.serves_owned
  cases operation with
  | openFor subject =>
    refine passes_answering (fun b => owned [b]) ?_
    exact (b.passes_openFor subject).mono fun _ _ h => h.1
  | reopenFor subject => exact passes_answering (fun b => owned [b]) (b.passes_reopenFor subject)
  | reset => exact passes_keeping (.answer (Binding.within_reset hserves)) fun _ => rfl
  | start => exact passes_keeping (.answer (Binding.within_start hserves)) fun _ => rfl
  | stop => exact passes_keeping (.answer (Binding.within_stop hserves)) fun _ => rfl
  | read => exact passes_keeping (.answer (Binding.within_read hserves)) fun _ => rfl
  | config => exact passes_keeping (.exceptPure _) fun _ => rfl

theorem CounterOperation.passes_perform (c : Counter) (operation : CounterOperation) :
    ledger.Passes (owned [c.binding] + rest) (operation.perform c) fun r held =>
      held = owned [r.2.binding] + rest := by
  have hserves : c.binding.Serves (LeavesLedger (owned [c.binding] + rest)) :=
    c.binding.serves_owned
  cases operation with
  | openHere => exact passes_answering (fun c : Counter => owned [c.binding]) c.passes_openHere
  | reopen pid => exact passes_answering (fun c => owned [Counter.binding c]) (c.passes_reopen pid)
  | reopenHere => exact passes_answering (fun c : Counter => owned [c.binding]) c.passes_reopenHere
  | start => exact passes_keeping (.answer (Binding.within_start hserves)) fun _ => rfl
  | stop => exact passes_keeping (.answer (Binding.within_stop hserves)) fun _ => rfl
  | read => exact passes_keeping (.answer (Binding.within_read hserves)) fun _ => rfl
  | retrieve =>
    refine passes_keeping (Within.exceptBind ?_ fun _ => .exceptPure _) fun _ => rfl
    exact .lift (Counter.within_retrieve hserves fun _ => rfl)
  | measure work =>
    exact passes_keeping (.answer (Counter.within_measure hserves rfl)) fun _ => rfl
  | kind => exact passes_keeping (.exceptPure _) fun _ => rfl

theorem GroupOperation.passes_perform (g : Group Counter) (operation : GroupOperation) :
    ledger.Passes (ownedBy g.members + rest) (operation.perform g) fun r held =>
      held = ownedBy r.2.members + rest := by
  cases operation with
  | drive d => exact passes_answering (fun g => ownedBy (Group.members g)) (g.passes_drive d)
  | retrieve kind =>
    refine passes_keeping (Within.exceptBind ?_ fun _ => .exceptPure _) fun _ => rfl
    exact .lift (Group.within_retrieve g.serves_owned (fun _ => rfl) kind)
  | get kind =>
    refine passes_keeping ?_ fun _ => rfl
    cases g.get kind with
    | some c => exact .exceptPure _
    | none => exact .exceptPure _
  | kinds => exact passes_keeping (.exceptPure _) fun _ => rfl
  | record name time =>
    refine passes_keeping (Within.exceptBind ?_ fun _ => .exceptPure _) fun _ => rfl
    exact .lift (Record.within_ofGroup g.serves_owned (fun _ => rfl) name time)

/-! ### Operations of a session -/

variable {s : Store} {slot : Slot}

theorem passes_apart (hs : s.Accounts held) {action : Trial Value}
    (h : ledger.Preserves held action.run) :
    ledger.Passes held (apart s action) fun r held' => r.2.Accounts held' :=
  h.bind fun _ => .pure hs

theorem passes_apart_within (hs : s.Accounts held) {action : Trial Value}
    (h : action.run.Within (LeavesLedger held)) :
    ledger.Passes held (apart s action) fun r held' => r.2.Accounts held' :=
  passes_apart hs (preserves_of_within h)

/-- An object that is worked on in its slot accounts for its own descriptors. -/
theorem Store.passes_act {α : Type} (hs : s.Accounts held) {select : Object → Option α}
    {wrap : α → Object} {action : α → Meter (Acted α)}
    (hselect : ∀ o, select o = none ∨ ∃ x, o = wrap x ∧ select o = some x)
    (haction : ∀ x rest, ledger.Passes (owned (wrap x).bindings + rest) (action x) fun r held =>
      held = owned (wrap r.2).bindings + rest) :
    ledger.Passes held (s.act slot select wrap action) fun r held' => r.2.Accounts held' := by
  unfold act
  split
  · rename_i x hx
    obtain ⟨o, hget, ho⟩ := Option.bind_eq_some_iff.mp hx
    rcases hselect o with hnone | ⟨x', rfl, hx'⟩
    · exact absurd (hnone.symm.trans ho) nofun
    · obtain rfl : x' = x := Option.some.inj (hx'.symm.trans ho)
      rw [hs.held_eq, owned_of_get hs.distinct hget]
      exact (haction x' _).bind fun _ _ h => .pure (accounts_put hs.distinct h)
  · exact .pure hs

/-- What is placed in a slot takes the place of the object that was there. -/
theorem passes_placing (hs : s.Distinct) {attempt : Attempt Object}
    (h : ledger.Passes held attempt.run
      (Owns (fun o => owned o.bindings) (owned s.bindings))) :
    ledger.Passes held (placing s slot attempt) fun r held' => r.2.Accounts held' := by
  refine h.bind fun r held' h => ?_
  cases r with
  | ok o =>
    rw [Owns, add_comm] at h
    rw [h]
    refine (Store.passes_release hs slot).bind fun _ held' h => .pure ?_
    exact Store.accounts_put hs (h.trans (add_comm _ _))
  | error e => exact .pure ⟨hs, h⟩

/-- **One operation.** Whatever the kernel answers, the ledger ends with the descriptors of the
bindings that are in the store after the operation. -/
theorem Operation.passes_perform (hs : s.Accounts held) (operation : Operation) :
    ledger.Passes held (operation.perform s) fun r held' => r.2.Accounts held' := by
  cases operation with
  | now source =>
    exact passes_apart_within hs (.answer (Timestamp.within_now fun _ => rfl))
  | spawn program args =>
    exact passes_apart_within hs
      (.answer (Child.within_spawn (fun _ => rfl) (fun _ => rfl) fun _ => rfl))
  | spawnAndWait program args =>
    exact passes_apart_within hs (.answer
      (Child.within_spawnAndWait (fun _ => rfl) (fun _ => rfl) (fun _ _ => rfl) fun _ => rfl))
  | wait pid =>
    exact passes_apart_within hs (.answer (Child.within_wait (fun _ => rfl) fun _ => rfl))
  | make slot blueprint =>
    refine passes_placing hs.distinct ?_
    rw [hs.held_eq]
    exact blueprint.passes_make
  | gather slot members =>
    rw [perform]
    split
    · rename_i counters s' htake
      obtain ⟨hdistinct, howned⟩ := Store.accounts_of_takeCounters hs.distinct htake
      refine passes_placing hdistinct (passes_map_owns ?_ fun _ => rfl)
      rw [hs.held_eq, howned]
      exact Group.passes_ofCounters counters
    · exact .pure hs
  | drop slot =>
    have hrelease : ledger.Passes (owned s.bindings + 0) (s.release slot) _ :=
      Store.passes_release hs.distinct slot
    rw [hs.held_eq, ← add_zero (owned s.bindings)]
    refine hrelease.bind fun _ held' h => .pure ⟨Store.distinct_erase hs.distinct slot, ?_⟩
    rw [h, add_zero]
  | systemClock slot operation =>
    rw [perform]
    refine Store.passes_act hs (fun o => ?_) fun c _ => operation.preserves_perform c
    cases o with
    | systemClock c => exact .inr ⟨c, rfl, rfl⟩
    | _ => exact .inl rfl
  | wallClock slot operation =>
    rw [perform]
    refine Store.passes_act hs (fun o => ?_) fun c _ => operation.preserves_perform c
    cases o with
    | wallClock c => exact .inr ⟨c, rfl, rfl⟩
    | _ => exact .inl rfl
  | stopwatch slot operation =>
    rw [perform]
    refine Store.passes_act hs (fun o => ?_) fun w _ => operation.preserves_perform w
    cases o with
    | stopwatch w => exact .inr ⟨w, rfl, rfl⟩
    | _ => exact .inl rfl
  | binding slot operation =>
    rw [perform]
    refine Store.passes_act hs (fun o => ?_) fun b _ => operation.passes_perform b
    cases o with
    | binding b => exact .inr ⟨b, rfl, rfl⟩
    | _ => exact .inl rfl
  | counter slot operation =>
    rw [perform]
    refine Store.passes_act hs (fun o => ?_) fun c _ => operation.passes_perform c
    cases o with
    | counter c => exact .inr ⟨c, rfl, rfl⟩
    | _ => exact .inl rfl
  | group slot operation =>
    rw [perform]
    refine Store.passes_act hs (fun o => ?_) fun g _ => operation.passes_perform g
    cases o with
    | group g => exact .inr ⟨g, rfl, rfl⟩
    | _ => exact .inl rfl
  | trial settings experiment => exact passes_apart hs (experiment.preserves_perform settings)

/-- **A whole session.** The ledger ends with the descriptors of the bindings that are left. -/
theorem Session.passes_run (hs : s.Accounts held) (operations : List Operation) :
    ledger.Passes held (Session.run s operations) fun r held' => r.2.Accounts held' := by
  induction operations generalizing s held with
  | nil => exact .pure hs
  | cons operation operations ih =>
    exact (operation.passes_perform hs).bind fun _ _ h => (ih h).bind fun _ _ h => .pure h

/-- **Ownership of descriptors over whole sessions.** Let the kernel grant only descriptors that are
not open. After any operations, with any answers, the descriptors in the bindings of the session are
the open ones and none is in two bindings; no entry works on a descriptor that is not open; and each
grant of a descriptor has been given back once, or is still in a binding. -/
theorem Session.stored_eq_open (operations : List Operation) (k : Kernel)
    (hfresh : GrantsFresh (Session.run {} operations k).trace) :
    let trace := (Session.run {} operations k).trace
    let stored := (Session.run {} operations k).value.2.bindings.filterMap Binding.fd
    stored.Nodup ∧ stored.toFinset = openDescriptors trace ∧ UsesOpen trace ∧
      ∀ fd, trace.count (.close fd) + stored.count fd = trace.countP (·.granted? = some fd) := by
  intro trace stored
  obtain ⟨held, hcheck, haccounts⟩ := Session.passes_run Store.accounts_empty operations k
  have hheld : held = (stored : Multiset Fd) := haccounts.held_eq
  obtain ⟨hnodup, hopen, huses⟩ := ledger_sound hcheck hfresh
  have hcount := count_close_add_count hcheck
  simp only [hheld, Multiset.coe_count] at hcount
  rw [hheld] at hnodup hopen
  exact ⟨Multiset.coe_nodup.mp hnodup, hopen, huses, hcount⟩

/-- A session with a reopening that is refused, a group with a kind that repeats, and a trial. -/
theorem Session.stored_eq_open_after_refusals :
    let k : Kernel := {
      script := {
        counters := [.done (), .failed .accessDenied, .done (), .failed .accessDenied]
        clocks := [.done {}, .done {}, .failed .interrupted] }
      descriptor := (· + 3)
      newPid := fun n => n }
    let operations : List Operation := [
      .make "a" (.counter .cycles), .counter "a" (.reopen 7), .make "b" (.group [.cycles, .bpu]),
      .make "c" (.counter .bpu), .make "d" (.counter .bpu), .gather "e" ["c", "d"],
      .trial {} (.benchmark .unnamed)]
    GrantsFresh (Session.run {} operations k).trace ∧
      openDescriptors (Session.run {} operations k).trace = {4} := by
  intro k operations
  have hfresh : GrantsFresh (Session.run {} operations k).trace :=
    grantsFresh_of_nodup (by decide +kernel)
  refine ⟨hfresh, ?_⟩
  obtain ⟨-, hopen, -⟩ := Session.stored_eq_open operations k hfresh
  rw [← hopen]
  decide +kernel

end TrialMeter
