import Mathlib.Data.List.Induction
import TrialMeter.Proofs.Group.Driving

/-!
# Forming a group and finding its members

Members of different kinds form a group, all of them and in their order. When kinds repeat, the
group is refused on account of the first member whose kind is taken. Driving a group gives no member
another kind, so its members stay of different kinds, and to ask for a kind is, at any time, to ask
the one member of that kind, or nobody.

## Main definitions

* `Group.driveAll`: operations on a group one after another.

## Main results

* `Group.distinct_or_repeat`: kinds are different, or there is a first one that is taken.
* `Group.ofMembers_eq_ok_iff`, `Group.ofMembers_eq_error_iff`: which members form a group.
* `Group.kinds_driveAll`: the kinds stay.
* `Group.formed_iff_distinct`: groups from their forming on.
-/

namespace TrialMeter.Group

open MonadAttach (CanReturn)

section Forming

variable {μ : Type} {m : Type → Type} [Member μ m]

/-- Some members are of different kinds, or there is a first one whose kind is taken. -/
theorem distinct_or_repeat (members : List μ) :
    (members.map Member.kind).Nodup ∨ ∃ before x after, members = before ++ x :: after ∧
      (before.map Member.kind).Nodup ∧ Member.kind x ∈ before.map Member.kind := by
  induction members using List.reverseRecOn with
  | nil => exact .inl List.nodup_nil
  | append_singleton members x ih =>
    obtain hnodup | ⟨before, y, after, rfl, hbefore, hy⟩ := ih
    · by_cases hx : Member.kind x ∈ members.map Member.kind
      · exact .inr ⟨members, x, [], rfl, hnodup, hx⟩
      · refine .inl ?_
        rw [List.map_append, List.map_singleton, ← List.concat_eq_append]
        exact hnodup.concat hx
    · exact .inr ⟨before, y, after ++ [x], by rw [List.append_assoc, List.cons_append], hbefore, hy⟩

/-- The first member whose kind is taken is where the members are split. -/
theorem takeDistinct_of_repeat {before : List μ} {x : μ} (after : List μ)
    (hbefore : (before.map Member.kind).Nodup) (hx : Member.kind x ∈ before.map Member.kind) :
    takeDistinct [] (before ++ x :: after) = (before, x :: after) := by
  obtain ⟨y, hy, hkind⟩ := List.mem_map.mp hx
  have htaken : before.any fun g => Member.kind g = Member.kind x :=
    List.any_eq_true.mpr ⟨y, hy, decide_eq_true hkind⟩
  have hsplit : takeDistinct [] (before ++ x :: after) =
      takeDistinct ([] ++ before) (x :: after) := takeDistinct_append_of_nodup (x :: after) hbefore
  rwa [List.nil_append, takeDistinct, if_pos htaken] at hsplit

theorem ofMembers_of_repeat {before : List μ} {x : μ} (after : List μ)
    (hbefore : (before.map Member.kind).Nodup) (hx : Member.kind x ∈ before.map Member.kind) :
    ofMembers (before ++ x :: after) = .error (.duplicateKind (Member.kind x)) := by
  rw [ofMembers, takeDistinct_of_repeat after hbefore hx]

/-- Members form a group just when their kinds are different, and then it has all of them. -/
theorem ofMembers_eq_ok_iff {members : List μ} {g : Group μ} :
    ofMembers members = .ok g ↔ (members.map Member.kind).Nodup ∧ g = ⟨members⟩ := by
  refine ⟨fun h => ?_, fun ⟨hnodup, hg⟩ => hg ▸ ofMembers_of_nodup hnodup⟩
  obtain hnodup | ⟨before, x, after, rfl, hbefore, hx⟩ := distinct_or_repeat members
  · rw [ofMembers_of_nodup hnodup] at h
    exact ⟨hnodup, (Except.ok.inj h).symm⟩
  · rw [ofMembers_of_repeat after hbefore hx] at h
    exact absurd h nofun

/-- Members are refused just when a kind repeats, on account of the first one that is taken. -/
theorem ofMembers_eq_error_iff {members : List μ} {e : Error} :
    ofMembers members = .error e ↔ ∃ before x after, members = before ++ x :: after ∧
      (before.map Member.kind).Nodup ∧ Member.kind x ∈ before.map Member.kind ∧
      e = .duplicateKind (Member.kind x) := by
  refine ⟨fun h => ?_, fun ⟨before, x, after, hmembers, hbefore, hx, he⟩ => ?_⟩
  · obtain hnodup | ⟨before, x, after, rfl, hbefore, hx⟩ := distinct_or_repeat members
    · rw [ofMembers_of_nodup hnodup] at h
      exact absurd h nofun
    · rw [ofMembers_of_repeat after hbefore hx] at h
      exact ⟨before, x, after, rfl, hbefore, hx, (Except.error.inj h).symm⟩
  · rw [hmembers, he]
    exact ofMembers_of_repeat after hbefore hx

end Forming

section Driving

variable {μ : Type} {m : Type → Type} [Monad m] [Member μ m]

/-- Operations on a group one after another. What each of them reports is left aside. -/
def driveAll (g : Group μ) : List Drive → m (Group μ)
  | [] => return g
  | d :: rest => do
    let (_, g) ← g.drive d
    g.driveAll rest

variable [LawfulMonad m] [MonadAttach m] [LawfulMonadAttach m]

/-- Any operations on a group keep the kinds of its members. -/
theorem kinds_driveAll (hfixed : Member.KindFixed μ) {g g' : Group μ} {drives : List Drive}
    (h : CanReturn (g.driveAll drives) g') : g'.kinds = g.kinds := by
  induction drives generalizing g with
  | nil => rw [LawfulMonadAttach.eq_of_canReturn_pure h]
  | cons d drives ih =>
    obtain ⟨r, hr, hrest⟩ := LawfulMonadAttach.canReturn_bind_imp' h
    rw [ih hrest, kinds_drive hfixed hr]

end Driving

/-! ### Counters -/

/-- Counters that may be open form the same groups; only the refused ones are given back. -/
theorem value_ofCounters (counters : List Counter) (k : Kernel) :
    ((ofCounters counters).run k).value = ofMembers counters := by
  rw [ofCounters, ofMembers]
  obtain ⟨grouped, _ | ⟨c, rest⟩⟩ := takeDistinct [] counters
  · rfl
  · rfl

theorem kinds_map_quiet (kinds : List Kind) :
    (kinds.map Counter.quiet).map Member.kind = kinds := by
  rw [List.map_map]
  exact List.map_id kinds

theorem quiet_eq_ok_iff {kinds : List Kind} {g : Group Counter} :
    quiet kinds = .ok g ↔ kinds.Nodup ∧ g = ⟨kinds.map Counter.quiet⟩ := by
  rw [quiet, ofMembers_eq_ok_iff, kinds_map_quiet]

/-- Kinds are refused just when one repeats, on account of the first one that is taken. -/
theorem quiet_eq_error_iff {kinds : List Kind} {e : Error} :
    quiet kinds = .error e ↔ ∃ before kind after, kinds = before ++ kind :: after ∧
      before.Nodup ∧ kind ∈ before ∧ e = .duplicateKind kind := by
  rw [quiet, ofMembers_eq_error_iff]
  refine ⟨fun ⟨before, c, after, hkinds, hbefore, hc, he⟩ => ?_,
    fun ⟨before, kind, after, hkinds, hbefore, hkind, he⟩ => ?_⟩
  · refine ⟨before.map Member.kind, Member.kind c, after.map Member.kind, ?_, hbefore, hc, he⟩
    rw [← List.map_cons, ← List.map_append, ← hkinds, kinds_map_quiet]
  · refine ⟨before.map Counter.quiet, Counter.quiet kind, after.map Counter.quiet, ?_, ?_, ?_, he⟩
    · rw [hkinds, List.map_append, List.map_cons]
    · rwa [kinds_map_quiet]
    · rwa [kinds_map_quiet]

/-- A group that is opened as it is formed is the group that is formed closed and then opened. -/
theorem value_create (kinds : List Kind) (k : Kernel) :
    ((create kinds).run k).value = (quiet kinds).map fun g => (g.openHere k).value.2 := by
  unfold create
  cases quiet kinds with
  | error e => rfl
  | ok g =>
    rw [Attempt.mk_ok, pure_bind]
    rcases hopen : g.openHere k with ⟨⟨e | done, opened⟩, k', trace⟩
    · rw [Meter.run_lift hopen rfl, Except.map, hopen]
      rfl
    · rw [Meter.run_lift hopen rfl, Except.map, hopen]

section Lookup

variable {μ : Type} {m : Type → Type} [Monad m] [LawfulMonad m] [MonadAttach m]
  [LawfulMonadAttach m] [Member μ m]

/-- **Groups from their forming on.** Members form a group just when their kinds are different; the
group has them all, in order. When kinds repeat, the first one that is taken is refused. After any
operations on such a group, its kinds are the ones that it was formed with, the member that is found
for a kind is the only one of that kind, what is retrieved is its count, and for a kind that the
group has not, nobody is asked and the count is zero. Closed counters form a group just when their
kinds are different, counters that may be open just when they do so as members of any sort, and a
group that is opened as it is formed is the closed one after its opening. -/
theorem formed_iff_distinct (hfixed : Member.KindFixed μ) :
    (∀ (members : List μ) (g : Group μ), ofMembers members = .ok g ↔
      (members.map Member.kind).Nodup ∧ g = ⟨members⟩) ∧
    (∀ (members : List μ) (e : Error), ofMembers members = .error e ↔
      ∃ before x after, members = before ++ x :: after ∧ (before.map Member.kind).Nodup ∧
        Member.kind x ∈ before.map Member.kind ∧ e = .duplicateKind (Member.kind x)) ∧
    (∀ (members : List μ) (g g' : Group μ) (drives : List Drive), ofMembers members = .ok g →
      CanReturn (g.driveAll drives) g' →
        g'.kinds = members.map Member.kind ∧ g'.kinds.Nodup ∧
        (∀ kind x, g'.get kind = some x ↔
          x ∈ g'.members ∧ Member.kind x = kind ∧ ∀ y ∈ g'.members, Member.kind y = kind → y = x) ∧
        (∀ kind, g'.get kind = none ↔ kind ∉ g'.kinds) ∧
        (∀ x ∈ g'.members, g'.retrieve (Member.kind x) = Member.retrieve x) ∧
        ∀ kind ∉ g'.kinds, g'.retrieve kind = pure 0) ∧
    Member.KindFixed Counter ∧
    (∀ (kinds : List Kind) (g : Group Counter), quiet kinds = .ok g ↔
      kinds.Nodup ∧ g = ⟨kinds.map Counter.quiet⟩) ∧
    (∀ (kinds : List Kind) (e : Error), quiet kinds = .error e ↔
      ∃ before kind after, kinds = before ++ kind :: after ∧ before.Nodup ∧ kind ∈ before ∧
        e = .duplicateKind kind) ∧
    (∀ (kinds : List Kind) (k : Kernel),
      ((create kinds).run k).value = (quiet kinds).map fun g => (g.openHere k).value.2) ∧
    ∀ (counters : List Counter) (k : Kernel),
      ((ofCounters counters).run k).value = ofMembers counters := by
  refine ⟨fun members g => ofMembers_eq_ok_iff, fun members e => ofMembers_eq_error_iff,
    fun members g g' drives hg hg' => ?_, Counter.kindFixed, fun kinds g => quiet_eq_ok_iff,
    fun kinds e => quiet_eq_error_iff, value_create, value_ofCounters⟩
  obtain ⟨hnodup, rfl⟩ := ofMembers_eq_ok_iff.mp hg
  have hkinds : g'.kinds = members.map Member.kind := kinds_driveAll hfixed hg'
  have hn : g'.kinds.Nodup := hkinds ▸ hnodup
  refine ⟨hkinds, hn, fun kind x => ⟨fun h => ?_, fun ⟨hx, hkind, _⟩ => ?_⟩,
    fun kind => get_eq_none_iff, fun x => retrieve_kind_of_mem hn, fun kind => retrieve_of_notMem⟩
  · obtain ⟨hx, hkind⟩ := (get_eq_some_iff hn).mp h
    refine ⟨hx, hkind, fun y hy hkind' => ?_⟩
    have hy' : g'.get kind = some y := (get_eq_some_iff hn).mpr ⟨hy, hkind'⟩
    exact Option.some.inj (hy'.symm.trans h)
  · exact (get_eq_some_iff hn).mpr ⟨hx, hkind⟩

/-- Three rehearsed members, of which two share an event and differ in the domain; they form a
group, which is opened and moved. A fourth one of a kind that is taken would be refused. -/
theorem formed_iff_distinct_by_domain :
    let members : List Understudy := [
      { index := 0, kind := .bpu, value := 5 }, { index := 1, kind := .cycles, value := 6 },
      { index := 2, kind := .kernelCycles, value := 7 }]
    let last : Understudy := { index := 3, kind := .cycles }
    let drives : List Drive := [.openHere, .reopen 7]
    let stage : Stage := { parts := [{}, { reopens := [some .notOpen] }, {}] }
    let run := (Group.driveAll ⟨members⟩ drives : Rehearsal _).run stage
    let third : Understudy := { index := 2, kind := .kernelCycles, isOpen := true, value := 7 }
    Member.KindFixed Understudy ∧
      ofMembers members = .ok ⟨members⟩ ∧
      ofMembers (members ++ last :: members) = .error (.duplicateKind .cycles) ∧
      CanReturn (Group.driveAll ⟨members⟩ drives : Rehearsal _) run.1 ∧
      run.1.kinds = [.bpu, .cycles, .kernelCycles] ∧
      third ∈ run.1.members ∧ run.1.retrieve .kernelCycles = third.retrieve ∧
      run.1.retrieve .node = (pure 0 : Rehearsal _) := by
  intro members last drives stage run third
  obtain ⟨hok, herror, hdriven, -⟩ := formed_iff_distinct Understudy.kindFixed
  have hform : ofMembers members = .ok ⟨members⟩ := (hok members _).mpr ⟨by decide, rfl⟩
  have hrefuse : ofMembers (members ++ last :: members) = .error (.duplicateKind .cycles) :=
    (herror _ _).mpr ⟨members, last, members, rfl, by decide, by decide, rfl⟩
  have hreturn : CanReturn (Group.driveAll ⟨members⟩ drives : Rehearsal _) run.1 :=
    Rehearsal.canReturn_run _ stage
  have hthird : third ∈ run.1.members := List.mem_of_getElem? (i := 2) rfl
  obtain ⟨hkinds, -, -, -, hretrieve, hnobody⟩ := hdriven members _ run.1 drives hform hreturn
  exact ⟨Understudy.kindFixed, hform, hrefuse, hreturn, hkinds, hthird, hretrieve third hthird,
    hnobody .node (hkinds ▸ by decide)⟩

end Lookup

end TrialMeter.Group
