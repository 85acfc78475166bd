import TrialMeter.Group.Rehearsal
import TrialMeter.Proofs.Counter.History

/-!
# Driving a group

An operation on a group is one pass over its members: the call of the operation on each member that
it concerns, in the order of the members, and then a report of the first refusal. No refusal keeps
the pass from going on, and each member is left as its own call leaves it. This is said for members
of any sort, in the terms of the monad in which they act; `CanReturn` tells what a computation in
it can give. For counters it is said how the kernel is asked, and which of them are open then.

## Main definitions

* `Member.KindFixed`: members that keep their kind.
* `Group.verdict`, `Group.ofResults`: what a group makes of the results of its calls.
* `closedKinds`, `Kernel.openedAmong`: the closed ones among some counters, and what opening makes
  of them.

## Main results

* `Group.visit_eq_mapM`, `Group.visitOpen_eq_mapM`: the two ways through the members are passes.
* `Group.visit_openHere_run`, `Group.visit_reopen_run`: the exact runs over counters, open or not.
* `Group.drive_exact`: an operation on a group.
-/

namespace TrialMeter

open MonadAttach (CanReturn)

/-- Members that keep their kind: no call gives a member of another kind in place of its own. -/
structure Member.KindFixed (μ : Type) {m : Type → Type} [MonadAttach m] [Member μ m] : Prop where
  openHere : ∀ (x : μ) r, CanReturn (Member.openHere x) r → kind r.2 = kind x
  reopen : ∀ (x : μ) pid r, CanReturn (Member.reopen x pid) r → kind r.2 = kind x

namespace Group

/-- The first refusal among some results, if there is one. -/
def verdict (results : List (Except Error Unit)) : Except Error Unit :=
  results.foldr firstRefusal (.ok ())

theorem verdict_eq_ok_iff {results : List (Except Error Unit)} :
    verdict results = .ok () ↔ ∀ r ∈ results, r = .ok () := by
  induction results with
  | nil => exact iff_of_true rfl (List.forall_mem_nil _)
  | cons r results ih =>
    rw [List.forall_mem_cons, ← ih]
    cases r with
    | ok done => exact (and_iff_right rfl).symm
    | error e => exact iff_of_false nofun fun h => nomatch h.1

theorem verdict_eq_error_iff {results : List (Except Error Unit)} {e : Error} :
    verdict results = .error e ↔
      ∃ before after, results = before ++ .error e :: after ∧ ∀ r ∈ before, r = .ok () := by
  induction results with
  | nil => exact iff_of_false nofun fun ⟨before, after, h, _⟩ => by simp at h
  | cons r results ih =>
    cases r with
    | error e' =>
      refine ⟨fun h => ?_, fun ⟨before, after, hresults, hbefore⟩ => ?_⟩
      · obtain rfl : e' = e := Except.error.inj h
        exact ⟨[], results, rfl, List.forall_mem_nil _⟩
      · cases before with
        | nil => exact (List.cons.inj hresults).1
        | cons r before =>
          obtain rfl := (List.cons.inj hresults).1
          exact absurd (hbefore _ List.mem_cons_self) nofun
    | ok done =>
      have hverdict : verdict (.ok done :: results) = verdict results := rfl
      rw [hverdict, ih]
      refine ⟨fun ⟨before, after, hresults, hbefore⟩ => ?_,
        fun ⟨before, after, hresults, hbefore⟩ => ?_⟩
      · exact ⟨.ok () :: before, after, congrArg _ hresults,
          List.forall_mem_cons.mpr ⟨rfl, hbefore⟩⟩
      · cases before with
        | nil => exact absurd (List.cons.inj hresults).1 nofun
        | cons r before =>
          exact ⟨before, after, (List.cons.inj hresults).2, (List.forall_mem_cons.mp hbefore).2⟩

/-- What a group makes of the results of one call on each member. -/
def ofResults {μ : Type} (results : List (Except Error Unit × μ)) : Except Error Unit × Group μ :=
  (verdict (results.map Prod.fst), ⟨results.map Prod.snd⟩)

section Passes

variable {μ : Type} {m : Type → Type} [Monad m] [LawfulMonad m]

/-- Applying an action to all members is one pass of calls. -/
theorem visit_eq_mapM (act : μ → m (Except Error Unit × μ)) (members : List μ) :
    visit act members = (fun results => (verdict (results.map Prod.fst), results.map Prod.snd)) <$>
      members.mapM act := by
  induction members with
  | nil => rw [visit, List.mapM_nil, map_pure]; rfl
  | cons x members ih =>
    simp only [visit, List.mapM_cons, ih, map_bind, map_pure, bind_map_left, List.map_cons]
    rfl

/-- Applying an action to the open members is one pass of calls on them. -/
theorem visitOpen_eq_mapM [Member μ m] (act : μ → m (Except Error Unit)) (members : List μ) :
    visitOpen act members = verdict <$> (members.filter Member.isOpen).mapM act := by
  induction members with
  | nil => rw [visitOpen, List.filter_nil, List.mapM_nil, map_pure]; rfl
  | cons x members ih =>
    rw [visitOpen, List.filter_cons]
    split
    · simp only [List.mapM_cons, ih, map_bind, map_pure, bind_map_left]
      rfl
    · exact ih

end Passes

section Kinds

variable {μ : Type} {m : Type → Type} [Monad m] [LawfulMonad m] [MonadAttach m]
  [LawfulMonadAttach m] [Member μ m]

/-- A pass of calls that each keep the kind of their member keeps the kinds. -/
theorem kinds_visit {act : μ → m (Except Error Unit × μ)}
    (hact : ∀ x r, CanReturn (act x) r → Member.kind r.2 = Member.kind x) {members : List μ}
    {r : Except Error Unit × List μ} (h : CanReturn (visit act members) r) :
    r.2.map Member.kind = members.map Member.kind := by
  induction members generalizing r with
  | nil =>
    obtain rfl := LawfulMonadAttach.eq_of_canReturn_pure h
    rfl
  | cons x members ih =>
    obtain ⟨first, hfirst, h⟩ := LawfulMonadAttach.canReturn_bind_imp' h
    obtain ⟨others, hothers, h⟩ := LawfulMonadAttach.canReturn_bind_imp' h
    obtain rfl := LawfulMonadAttach.eq_of_canReturn_pure h
    rw [List.map_cons, List.map_cons, hact x first hfirst, ih hothers]

/-- Starting and stopping leave the group as it is. -/
theorem group_of_drive {g : Group μ} {d : Drive} (hd : d = .start ∨ d = .stop)
    {r : Except Error Unit × Group μ} (h : CanReturn (g.drive d) r) : r.2 = g := by
  obtain rfl | rfl := hd
  · obtain ⟨result, -, h⟩ := LawfulMonadAttach.canReturn_bind_imp' h
    obtain rfl := LawfulMonadAttach.eq_of_canReturn_pure h
    rfl
  · obtain ⟨result, -, h⟩ := LawfulMonadAttach.canReturn_bind_imp' h
    obtain rfl := LawfulMonadAttach.eq_of_canReturn_pure h
    rfl

/-- Driving a group keeps the kinds of its members, in order. -/
theorem kinds_drive (hfixed : Member.KindFixed μ) {g : Group μ} {d : Drive}
    {r : Except Error Unit × Group μ} (h : CanReturn (g.drive d) r) : r.2.kinds = g.kinds := by
  cases d with
  | openHere =>
    obtain ⟨visited, hvisited, h⟩ := LawfulMonadAttach.canReturn_bind_imp' h
    obtain rfl := LawfulMonadAttach.eq_of_canReturn_pure h
    exact kinds_visit hfixed.openHere hvisited
  | reopen pid =>
    obtain ⟨visited, hvisited, h⟩ := LawfulMonadAttach.canReturn_bind_imp' h
    obtain rfl := LawfulMonadAttach.eq_of_canReturn_pure h
    exact kinds_visit (fun x => hfixed.reopen x pid) hvisited
  | start => rw [group_of_drive (.inl rfl) h]
  | stop => rw [group_of_drive (.inr rfl) h]

end Kinds

end Group

/-! ### Counters -/

namespace Meter

/-- A computation can give what it gives on some kernel. -/
instance : MonadAttach Meter where
  CanReturn x a := ∃ k, (x k).value = a
  attach x k := ⟨⟨(x k).value, k, rfl⟩, (x k).kernel, (x k).trace⟩

instance : LawfulMonadAttach Meter where
  map_attach := by
    intro α x
    funext k
    rw [map_eq_pure_bind, bind_apply, pure_apply, List.append_nil]
    rfl
  canReturn_map_imp := by
    rintro α P x a ⟨k, rfl⟩
    exact (x k).value.2

end Meter

namespace Counter

theorem kindFixed : Member.KindFixed Counter where
  openHere := by
    rintro c r ⟨k, rfl⟩
    exact c.binding.kind_openFor .caller k
  reopen := by
    rintro c pid r ⟨k, rfl⟩
    exact c.binding.kind_reopenFor (.process pid) k

variable {k : Kernel} {u : Spent} {c : Counter}

/-- An open counter is open already. -/
theorem openHere_of_open (h : c.isOpen) (k : Kernel) : c.openHere k = ⟨(.ok (), c), k, []⟩ := by
  obtain ⟨d, hd⟩ := Option.isSome_iff_exists.mp h
  exact Meter.run_map (c.binding.openFor_of_held .caller hd) ofBinding

theorem eq_quiet_of_closed (h : ¬c.isOpen) : c = quiet c.kind := by
  obtain ⟨kind, held⟩ := c
  obtain rfl : held = none := Option.not_isSome_iff_eq_none.mp h
  rfl

/-- A counter that is moved gives its descriptor back and asks the kernel once. -/
theorem reopen_after (c : Counter) (pid : Pid) :
    c.reopen pid (k.after u) =
      ⟨((k.refusalAt (.process pid) c.kind u.counters).elim (.ok ()) .error,
        k.counterAt (.process pid) c.kind u.counters),
      k.after { u with counters := u.counters + 1 },
      closeCalls c.binding.fd.toList ++ k.openingAt (.process pid) c.kind u.counters⟩ := by
  rw [reopen, ← ofBinding_asked]
  exact Meter.run_map (Meter.run_bind (c.binding.release_run _)
    (Binding.openFor_after c.kind (.process pid))) ofBinding

end Counter

/-- The kinds of the closed ones among some counters, in order. -/
def closedKinds (counters : List Counter) : List Kind :=
  (counters.filter fun c => !c.isOpen).map Counter.kind

theorem closedKinds_cons (c : Counter) (counters : List Counter) :
    closedKinds (c :: counters) =
      if c.isOpen then closedKinds counters else c.kind :: closedKinds counters := by
  rw [closedKinds, List.filter_cons]
  cases c.isOpen with
  | true => rfl
  | false => rfl

namespace Kernel

variable (k : Kernel)

/-- Counters when the closed ones among them have been opened in order, the first of these after `i`
other requests. -/
def openedAmong : List Counter → ℕ → List Counter
  | [], _ => []
  | c :: rest, i =>
    if c.isOpen then c :: openedAmong rest i
    else k.counterAt .caller c.kind i :: openedAmong rest (i + 1)

/-- What is left when counters are moved in order to a process, the first after `i` other requests.
-/
def moves (pid : Pid) (counters : List Counter) (i : ℕ) : List Entry :=
  (counters.zipIdx i).flatMap fun p =>
    closeCalls p.1.binding.fd.toList ++ k.openingAt (.process pid) p.1.kind p.2

/-- An open counter stays, and a closed one is what the kernel answers to its request, which comes
after those of the closed ones before it. -/
theorem getElem?_openedAmong {counters : List Counter} {j : ℕ} {c : Counter} (i : ℕ)
    (h : counters[j]? = some c) :
    (k.openedAmong counters i)[j]? = some (if c.isOpen then c else
      k.counterAt .caller c.kind (i + (closedKinds (counters.take j)).length)) := by
  induction counters generalizing i j with
  | nil => exact absurd h nofun
  | cons first rest ih =>
    cases j with
    | zero =>
      obtain rfl : first = c := Option.some.inj h
      rw [openedAmong]
      split
      · rfl
      · rfl
    | succ j =>
      rw [List.getElem?_cons_succ] at h
      rw [openedAmong, List.take_succ_cons, closedKinds_cons]
      split
      · rw [List.getElem?_cons_succ, ih i h]
      · rw [List.getElem?_cons_succ, ih (i + 1) h, List.length_cons, Nat.add_right_comm,
          Nat.add_assoc]

theorem getElem?_battery {subject : Subject} {kinds : List Kind} {j : ℕ} {kind : Kind}
    (h : kinds[j]? = some kind) :
    (k.battery subject kinds 0)[j]? = some (k.counterAt subject kind j) := by
  rw [battery, List.getElem?_map, List.getElem?_zipIdx, h, Nat.zero_add]
  rfl

theorem isOpen_counterAt (subject : Subject) (kind : Kind) (i : ℕ) :
    (k.counterAt subject kind i).isOpen ↔ ∃ fd, k.openAt i = .done fd := by
  unfold Counter.isOpen Binding.isOpen counterAt fdAt
  cases k.openAt i with
  | done fd => exact iff_of_true rfl ⟨fd, rfl⟩
  | failed e => exact iff_of_false Bool.false_ne_true nofun

end Kernel

namespace Group

variable {k : Kernel} {u : Spent}

/-- Any counters that are opened in one pass: the closed ones ask the kernel, in order. -/
theorem visit_openHere_run (counters : List Counter) :
    visit Counter.openHere counters (k.after u) =
      ⟨((k.refusals .caller (closedKinds counters) u.counters).head?.elim (.ok ()) .error,
        k.openedAmong counters u.counters),
      k.after { u with counters := u.counters + (closedKinds counters).length },
      k.openings .caller (closedKinds counters) u.counters⟩ := by
  induction counters generalizing u with
  | nil => rfl
  | cons c counters ih =>
    rw [closedKinds_cons, Kernel.openedAmong]
    by_cases hopen : c.isOpen
    · rw [if_pos hopen, if_pos hopen]
      exact Meter.run_bind (c.openHere_of_open hopen _) (Meter.run_bindPure ih rfl)
    · have hask := Counter.openHere_after (k := k) (u := u) c.kind
      rw [← Counter.eq_quiet_of_closed hopen] at hask
      rw [if_neg hopen, if_neg hopen, add_length_cons, ← k.firstRefusal_refusals]
      exact Meter.run_bind hask (Meter.run_bindPure ih rfl)

/-- Any counters that are moved in one pass: each gives its descriptor back and asks the kernel. -/
theorem visit_reopen_run (counters : List Counter) (pid : Pid) :
    visit (Counter.reopen · pid) counters (k.after u) =
      ⟨((k.refusals (.process pid) (counters.map Counter.kind) u.counters).head?.elim (.ok ())
          .error,
        k.battery (.process pid) (counters.map Counter.kind) u.counters),
      k.after { u with counters := u.counters + counters.length },
      k.moves pid counters u.counters⟩ := by
  induction counters generalizing u with
  | nil => rfl
  | cons c counters ih =>
    rw [add_length_cons, List.map_cons, ← k.firstRefusal_refusals]
    exact Meter.run_bind (c.reopen_after pid) (Meter.run_bindPure ih rfl)

theorem openHere_run (g : Group Counter) (k : Kernel) :
    g.openHere k =
      ⟨((k.refusals .caller (closedKinds g.members) 0).head?.elim (.ok ()) .error,
        ⟨k.openedAmong g.members 0⟩),
      k.after { counters := 0 + (closedKinds g.members).length },
      k.openings .caller (closedKinds g.members) 0⟩ :=
  Meter.run_bindPure (visit_openHere_run (k := k) (u := {}) g.members) rfl

theorem reopen_run (g : Group Counter) (pid : Pid) (k : Kernel) :
    g.reopen pid k =
      ⟨((k.refusals (.process pid) g.kinds 0).head?.elim (.ok ()) .error,
        ⟨k.battery (.process pid) g.kinds 0⟩),
      k.after { counters := 0 + g.members.length }, k.moves pid g.members 0⟩ :=
  Meter.run_bindPure (visit_reopen_run (k := k) (u := {}) g.members pid) rfl

end Group

namespace Kernel

variable (k : Kernel)

theorem calls_openings (subject : Subject) (kinds : List Kind) (i : ℕ) :
    calls (k.openings subject kinds i) = k.openCalls subject.pid kinds i := by
  induction kinds generalizing i with
  | nil => rfl
  | cons kind kinds ih =>
    have hcons : k.openings subject (kind :: kinds) i =
        k.openingAt subject kind i ++ k.openings subject kinds (i + 1) := rfl
    rw [hcons, calls_append, k.calls_openingAt, ih, ← openCalls_cons]

theorem calls_moves (pid : Pid) (counters : List Counter) (i : ℕ) :
    calls (k.moves pid counters i) = (counters.zipIdx i).flatMap fun p =>
      closeCalls p.1.binding.fd.toList ++ k.openCalls pid [p.1.kind] p.2 := by
  rw [moves, calls, List.filter_flatMap]
  refine List.flatMap_congr fun p _ => ?_
  have hcalls := calls_append (closeCalls p.1.binding.fd.toList)
    (k.openingAt (.process pid) p.1.kind p.2)
  rwa [(mute_closeCalls _).calls_eq, k.calls_openingAt] at hcalls

end Kernel

/-- A rehearsal can give what it gives on some stage. -/
theorem Rehearsal.canReturn_run {α : Type} (x : Rehearsal α) (stage : Stage) :
    CanReturn x (x.run stage).1 :=
  ⟨stage, (x.run stage).2, rfl⟩

theorem Understudy.kindFixed : Member.KindFixed Understudy where
  openHere := by
    intro u r (h : CanReturn u.openHere r)
    rw [openHere] at h
    obtain ⟨result, -, h⟩ := LawfulMonadAttach.canReturn_bind_imp' h
    obtain rfl := LawfulMonadAttach.eq_of_canReturn_pure h
    rfl
  reopen := by
    intro u pid r (h : CanReturn (u.reopen pid) r)
    rw [reopen] at h
    obtain ⟨result, -, h⟩ := LawfulMonadAttach.canReturn_bind_imp' h
    obtain rfl := LawfulMonadAttach.eq_of_canReturn_pure h
    rfl

namespace Group

variable {μ : Type} {m : Type → Type} [Monad m] [LawfulMonad m] [MonadAttach m]
  [LawfulMonadAttach m] [Member μ m]

/-- **Driving a group.** Opening and moving a group are one call on every member, in order, and
starting and stopping it one call on every open member; the report is the first refusal, if there is
one. After opening or moving, every member is the one that its own call left; after starting or
stopping, the group is as it was. The number, the order and the kinds of the members stay. When
counters are opened, exactly the closed ones ask the kernel, and those are open then that were open
or were granted a descriptor; when they are moved, every counter gives its descriptor back and asks,
and those are open then that were granted one. -/
theorem drive_exact (hfixed : Member.KindFixed μ) (g : Group μ) :
    g.openHere = ofResults <$> g.members.mapM Member.openHere ∧
    (∀ pid, g.reopen pid = ofResults <$> g.members.mapM (Member.reopen · pid)) ∧
    g.start = verdict <$> (g.members.filter Member.isOpen).mapM Member.start ∧
    g.stop = verdict <$> (g.members.filter Member.isOpen).mapM Member.stop ∧
    (∀ results, verdict results = .ok () ↔ ∀ r ∈ results, r = .ok ()) ∧
    (∀ results e, verdict results = .error e ↔
      ∃ before after, results = before ++ .error e :: after ∧ ∀ r ∈ before, r = .ok ()) ∧
    (∀ d r, CanReturn (g.drive d) r → r.2.size = g.size ∧ r.2.kinds = g.kinds ∧
      r.2.opened = (r.2.members.filter Member.isOpen).length ∧
      (d = .start ∨ d = .stop → r.2 = g)) ∧
    Member.KindFixed Counter ∧
    ∀ (counters : List Counter) (pid : Pid) (k : Kernel),
      let opening := Group.openHere ⟨counters⟩ k
      let moving := Group.reopen ⟨counters⟩ pid k
      calls opening.trace = k.openCalls 0 (closedKinds counters) 0 ∧
      (∀ i c, counters[i]? = some c → ∃ c', opening.value.2.members[i]? = some c' ∧
        (c'.isOpen ↔ c.isOpen ∨
          ∃ fd, k.openAt (closedKinds (counters.take i)).length = .done fd) ∧
        (c.isOpen → c' = c)) ∧
      calls moving.trace = (counters.zipIdx.flatMap fun p =>
        closeCalls p.1.binding.fd.toList ++ k.openCalls pid [p.1.kind] p.2) ∧
      ∀ i c, counters[i]? = some c → ∃ c', moving.value.2.members[i]? = some c' ∧
        (c'.isOpen ↔ ∃ fd, k.openAt i = .done fd) := by
  refine ⟨?_, fun pid => ?_, visitOpen_eq_mapM _ _, visitOpen_eq_mapM _ _,
    fun results => verdict_eq_ok_iff, fun results e => verdict_eq_error_iff, fun d r h => ?_,
    Counter.kindFixed, fun counters pid k => ⟨?_, fun i c hc => ?_, ?_, fun i c hc => ?_⟩⟩
  · rw [Group.openHere, visit_eq_mapM, bind_map_left]
    exact bind_pure_comp _ _
  · rw [Group.reopen, visit_eq_mapM, bind_map_left]
    exact bind_pure_comp _ _
  · have hkinds : r.2.kinds = g.kinds := kinds_drive hfixed h
    have hsize : r.2.kinds.length = g.kinds.length := congrArg _ hkinds
    rw [kinds, kinds, List.length_map, List.length_map] at hsize
    exact ⟨hsize, hkinds, List.countP_eq_length_filter, fun hd => group_of_drive hd h⟩
  · rw [openHere_run]
    exact k.calls_openings .caller (closedKinds counters) 0
  · rw [openHere_run]
    refine ⟨_, k.getElem?_openedAmong 0 hc, ?_⟩
    rw [Nat.zero_add]
    by_cases hopen : c.isOpen
    · rw [if_pos hopen]
      exact ⟨iff_of_true hopen (.inl hopen), fun _ => rfl⟩
    · rw [if_neg hopen, k.isOpen_counterAt]
      exact ⟨(or_iff_right hopen).symm, fun h => absurd h hopen⟩
  · rw [reopen_run]
    exact k.calls_moves pid counters 0
  · rw [reopen_run]
    have hkind : (counters.map Counter.kind)[i]? = some c.kind := by
      rw [List.getElem?_map, hc, Option.map_some]
    exact ⟨_, k.getElem?_battery hkind, k.isOpen_counterAt _ _ i⟩

/-- Three rehearsed members, of which the first refuses to be opened and the second is open, and
three counters, of which the second is open; the kernel refuses its second request. -/
theorem drive_exact_past_refusals :
    let group : Group Understudy := ⟨[
      { index := 0, kind := .cycles }, { index := 1, kind := .bpu, isOpen := true },
      { index := 2, kind := .cycles }]⟩
    let stage : Stage := {
      parts := [{ opens := [some .notOpen] }, {}, { stops := [some .notOpen] }] }
    let opening := (group.openHere : Rehearsal _).run stage
    let stopping := (opening.1.2.stop : Rehearsal _).run opening.2
    let counters : List Counter :=
      [.quiet .cycles, ⟨{ kind := .bpu, held := some ⟨9, .caller⟩ }⟩, .quiet .l1d]
    let k : Kernel := {
      script := { counters := [.done (), .failed .accessDenied] }
      descriptor := (· + 20)
      newPid := fun n => n }
    let moved := (Group.reopen ⟨counters⟩ 7 k).value.2
    Member.KindFixed Understudy ∧
      group.openHere = ofResults <$> group.members.mapM (Member.openHere (m := Rehearsal)) ∧
      opening.1.1 = .error .notOpen ∧ opening.1.2.kinds = group.kinds ∧ opening.1.2.opened = 2 ∧
      stopping.1 = .error .notOpen ∧
      stopping.2.calls = [.openHere 0, .openHere 1, .openHere 2, .stop 1, .stop 2] ∧
      calls (Group.openHere ⟨counters⟩ k).trace = k.openCalls 0 [.cycles, .l1d] 0 ∧
      moved.members.map Counter.isOpen = [true, false, true] := by
  intro group stage opening stopping counters k moved
  obtain ⟨hopen, -, -, -, -, -, hkeeps, -, hcounters⟩ := drive_exact Understudy.kindFixed group
  obtain ⟨hasked, -⟩ := hcounters counters 7 k
  have hreturn : CanReturn (group.drive .openHere : Rehearsal _) opening.1 :=
    Rehearsal.canReturn_run _ stage
  obtain ⟨-, hkinds, -, -⟩ := hkeeps .openHere opening.1 hreturn
  exact ⟨Understudy.kindFixed, hopen, rfl, hkinds, rfl, rfl, rfl, hasked, rfl⟩

end Group

end TrialMeter
