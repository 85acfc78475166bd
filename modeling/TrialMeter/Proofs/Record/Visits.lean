import TrialMeter.Group.Rehearsal
import TrialMeter.Proofs.Event.Attributes
import TrialMeter.Proofs.Group.Distinct
import TrialMeter.Proofs.Record.Reading

/-!
# The members that a record is read from

A group may have any members, in any order. To read it into a record is to ask those members for
their counts that are of a standard kind, in the order of the standard kinds and once each, and
nobody else. The count of a kind in the record is that of the member of the kind, and zero when the
group has none. So the order of the members leaves no mark on the record.

## Main definitions

* `Record.visited`: the members that are asked.
* `Record.valueOf`: the count of a kind among those that members gave.
* `Record.ofValues`: the record of what was given.

## Main results

* `Group.mapM_retrieve_eq`: a pass over kinds is a pass over the members of these kinds.
* `Record.ofGroup_visits`: reading a group into a record.
-/

namespace TrialMeter

variable {μ : Type} {m : Type → Type} [Member μ m]

namespace Record

/-- The members of the standard kinds, in the order of these. -/
def visited (g : Group μ) : List μ := Kind.standard.filterMap g.get

/-- The count of a kind when members gave the given values, and zero when none is of the kind. -/
def valueOf (members : List μ) (values : List UInt64) (kind : Kind) : UInt64 :=
  (((members.map Member.kind).zip values).lookup kind).getD 0

/-- The record of the values that members gave. -/
def ofValues (name : String) (time : Float) (members : List μ) (values : List UInt64) : Record :=
  ofCounts name time (Kind.standard.map (valueOf members values))

theorem valueOf_cons (x : μ) (members : List μ) (v : UInt64) (values : List UInt64) (kind : Kind) :
    valueOf (x :: members) (v :: values) kind =
      if kind = Member.kind x then v else valueOf members values kind := by
  rw [valueOf, List.map_cons, List.zip_cons_cons, List.lookup_cons]
  by_cases h : kind = Member.kind x
  · rw [if_pos h, beq_iff_eq.mpr h, Option.getD_some]
  · rw [if_neg h, beq_false_of_ne h]
    rfl

theorem valueOf_of_notMem {members : List μ} {kind : Kind}
    (h : kind ∉ members.map Member.kind) (values : List UInt64) :
    valueOf members values kind = 0 := by
  induction members generalizing values with
  | nil => rfl
  | cons x members ih =>
    obtain ⟨hne, hnot⟩ := List.ne_and_not_mem_of_not_mem_cons h
    cases values with
    | nil => rfl
    | cons v values => rw [valueOf_cons, if_neg hne, ih hnot]

/-- Among members of different kinds, the count of a kind is what the member of the kind gave. -/
theorem valueOf_kind {members : List μ} (hn : (members.map Member.kind).Nodup) {j : ℕ} {x : μ}
    (hx : members[j]? = some x) {values : List UInt64} {v : UInt64} (hv : values[j]? = some v) :
    valueOf members values (Member.kind x) = v := by
  induction members generalizing j values with
  | nil => exact absurd hx nofun
  | cons y members ih =>
    obtain ⟨hnot, hn⟩ := List.nodup_cons.mp hn
    cases values with
    | nil => exact absurd hv nofun
    | cons w values =>
      rw [valueOf_cons]
      cases j with
      | zero =>
        obtain rfl : y = x := Option.some.inj hx
        rw [if_pos rfl]
        exact Option.some.inj hv
      | succ j =>
        rw [List.getElem?_cons_succ] at hx hv
        have hmem : Member.kind x ∈ members.map Member.kind :=
          List.mem_map_of_mem (List.mem_of_getElem? hx)
        have hne : Member.kind x ≠ Member.kind y := fun h => hnot (h ▸ hmem)
        rw [if_neg hne]
        exact ih hn hx hv

end Record

namespace Group

variable (g : Group μ)

/-- The members that are found for some kinds are of those among the kinds that the group has. -/
theorem kinds_filterMap_get (kinds : List Kind) :
    (kinds.filterMap g.get).map Member.kind = kinds.filter (· ∈ g.kinds) := by
  induction kinds with
  | nil => rfl
  | cons kind kinds ih =>
    cases hget : g.get kind with
    | some x =>
      obtain ⟨hmem, rfl⟩ := mem_of_get hget
      have hkind : Member.kind x ∈ g.kinds := List.mem_map_of_mem hmem
      rw [List.filterMap_cons_some hget, List.map_cons, ih,
        List.filter_cons_of_pos (by rwa [decide_eq_true_eq])]
    | none =>
      have hkind : kind ∉ g.kinds := get_eq_none_iff.mp hget
      rw [List.filterMap_cons_none hget, ih,
        List.filter_cons_of_neg (by rwa [decide_eq_true_eq])]

theorem mem_kinds_filterMap_get {kinds : List Kind} {kind : Kind} :
    kind ∈ (kinds.filterMap g.get).map Member.kind ↔ kind ∈ kinds ∧ kind ∈ g.kinds := by
  rw [kinds_filterMap_get, List.mem_filter, decide_eq_true_eq]

variable [Monad m] [LawfulMonad m]

/-- To retrieve different kinds in a pass is to ask the members of these kinds in a pass. -/
theorem mapM_retrieve_eq {kinds : List Kind} (hn : kinds.Nodup) :
    kinds.mapM g.retrieve =
      (fun values => kinds.map (Record.valueOf (kinds.filterMap g.get) values)) <$>
        (kinds.filterMap g.get).mapM Member.retrieve := by
  induction kinds with
  | nil => rw [List.mapM_nil, List.filterMap_nil, List.mapM_nil, map_pure]; rfl
  | cons kind kinds ih =>
    obtain ⟨hnot, hn⟩ := List.nodup_cons.mp hn
    rw [List.mapM_cons, ih hn, retrieve]
    cases hget : g.get kind with
    | some x =>
      obtain ⟨-, rfl⟩ := mem_of_get hget
      have hothers : ∀ v values, (Member.kind x :: kinds).map
          (Record.valueOf (x :: kinds.filterMap g.get) (v :: values)) =
            v :: kinds.map (Record.valueOf (kinds.filterMap g.get) values) := by
        intro v values
        rw [List.map_cons, Record.valueOf_cons, if_pos rfl]
        refine congrArg _ (List.map_congr_left fun kind hkind => ?_)
        have hne : kind ≠ Member.kind x := fun h => hnot (h ▸ hkind)
        rw [Record.valueOf_cons, if_neg hne]
      rw [List.filterMap_cons_some hget, List.mapM_cons]
      simp only [map_bind, map_pure, bind_map_left, hothers]
    | none =>
      have hnobody : kind ∉ (kinds.filterMap g.get).map Member.kind :=
        fun h => hnot (g.mem_kinds_filterMap_get.mp h).1
      rw [List.filterMap_cons_none hget, pure_bind, bind_map_left, map_eq_pure_bind]
      simp only [List.map_cons, Record.valueOf_of_notMem hnobody]

end Group

namespace Record

theorem nodup_kinds_visited (g : Group μ) : ((visited g).map Member.kind).Nodup := by
  rw [visited, Group.kinds_filterMap_get]
  exact Kind.nodup_standard.filter _

/-- In a group of different kinds, the members of the standard kinds are all visited, each once. -/
theorem visited_perm {g : Group μ} (hn : g.kinds.Nodup) :
    (visited g).Perm (g.members.filter (Member.kind · ∈ Kind.standard)) := by
  refine (List.perm_ext_iff_of_nodup (nodup_kinds_visited g).of_map
    (hn.of_map.filter _)).mpr fun x => ?_
  rw [visited, List.mem_filterMap, List.mem_filter, decide_eq_true_eq]
  simp only [Group.get_eq_some_iff hn]
  exact ⟨fun ⟨kind, hkind, hx, h⟩ => ⟨hx, h ▸ hkind⟩, fun ⟨hx, h⟩ => ⟨_, h, hx, rfl⟩⟩

/-- The counts of the record are what the visited members gave. -/
theorem getElem?_counters_ofValues (name : String) (time : Float) (members : List μ)
    (values : List UInt64) {i : ℕ} {kind : Kind} (h : Kind.standard[i]? = some kind) :
    (ofValues name time members values).counters[i]? = some (valueOf members values kind) := by
  rw [ofValues, counters_ofCounts name time (List.length_map _), List.getElem?_map, h,
    Option.map_some]

variable [Monad m] [LawfulMonad m]

/-- **Reading a group into a record.** The members of the standard kinds are asked, in the order of
these kinds, and no others. The record keeps the name and the time, and its counts are, in the order
of the standard kinds, what the member of the kind gave, or zero when the group has none. When the
members are of different kinds, as in every group that was formed, those that are asked are all
members of a standard kind, each once, and another order of the members gives the same record by the
same calls. -/
theorem ofGroup_visits (name : String) (time : Float) (g : Group μ) :
    ofGroup name time g = ofValues name time (visited g) <$> (visited g).mapM Member.retrieve ∧
    (visited g).map Member.kind = Kind.standard.filter (· ∈ g.kinds) ∧
    (∀ values, values.length = (visited g).length →
      let r := ofValues name time (visited g) values
      r.name = name ∧ r.time = time ∧ r.counters.length = Kind.standard.length ∧
        ∀ (i : ℕ) kind, Kind.standard[i]? = some kind →
          match g.get kind with
          | some x => Member.kind x = kind ∧
            ∃ j : ℕ, (visited g)[j]? = some x ∧ r.counters[i]? = values[j]?
          | none => r.counters[i]? = some 0) ∧
    (g.kinds.Nodup →
      (visited g).Perm (g.members.filter (Member.kind · ∈ Kind.standard)) ∧
      ∀ g' : Group μ, g.members.Perm g'.members → ofGroup name time g = ofGroup name time g') := by
  refine ⟨?_, Group.kinds_filterMap_get g _, fun values hlength => ?_,
    fun hn => ⟨visited_perm hn, fun g' hperm => ?_⟩⟩
  · rw [ofGroup_eq_mapM, Group.mapM_retrieve_eq g Kind.nodup_standard, Functor.map_map]
    rfl
  · refine ⟨ofCounts_name .., ofCounts_time .., ?_, fun i kind hi => ?_⟩
    · rw [ofValues, counters_ofCounts name time (List.length_map _), List.length_map]
    · rw [getElem?_counters_ofValues name time _ values hi]
      cases hget : g.get kind with
      | some x =>
        obtain ⟨-, hkind⟩ := Group.mem_of_get hget
        have hx : x ∈ visited g :=
          List.mem_filterMap.mpr ⟨kind, List.mem_of_getElem? hi, hget⟩
        obtain ⟨j, hj, hxj⟩ := List.mem_iff_getElem.mp hx
        have hxj : (visited g)[j]? = some x := List.getElem?_eq_some_iff.mpr ⟨hj, hxj⟩
        have hvj : values[j]? = some (values[j]) := List.getElem?_eq_getElem (hlength ▸ hj)
        refine ⟨hkind, j, hxj, ?_⟩
        rw [hvj, ← hkind, valueOf_kind (nodup_kinds_visited g) hxj hvj]
      | none =>
        have hnot : kind ∉ (visited g).map Member.kind :=
          fun h => Group.get_eq_none_iff.mp hget (g.mem_kinds_filterMap_get.mp h).2
        rw [valueOf_of_notMem hnot]
  · rw [ofGroup_eq_mapM, ofGroup_eq_mapM]
    have hretrieve : g.retrieve = g'.retrieve := by
      funext kind
      rw [Group.retrieve, Group.retrieve, Group.get_of_perm hn hperm]
    rw [hretrieve]

/-- Of three rehearsed members, one is of no standard kind and the others are not in the order of
these kinds. -/
theorem ofGroup_visits_standard_order :
    let first : Understudy := { index := 0, kind := .bpu, value := 5 }
    let second : Understudy := { index := 1, kind := .kernelCycles, value := 9 }
    let third : Understudy := { index := 2, kind := .cycles, value := 6 }
    let group : Group Understudy := ⟨[first, second, third]⟩
    let other : Group Understudy := ⟨[third, second, first]⟩
    let r := ofValues "trial" 2.0 [third, first] [6, 5]
    group.kinds.Nodup ∧ group.members.Perm other.members ∧
      visited group = [third, first] ∧
      ofGroup "trial" 2.0 group =
        ofValues "trial" 2.0 [third, first] <$> [third, first].mapM Understudy.retrieve ∧
      ofGroup "trial" 2.0 group = (ofGroup "trial" 2.0 other : Rehearsal _) ∧
      (∃ j : ℕ, [third, first][j]? = some first ∧ r.counters[13]? = [6, 5][j]?) ∧
      r.counters = [6, 0, 0, 0, 0, 0, 0, 0, 0, 0, 0, 0, 0, 5] := by
  intro first second third group other r
  have hvisited : visited group = [third, first] := rfl
  have hn : group.kinds.Nodup := by decide
  have hperm : group.members.Perm other.members := List.reverse_perm other.members
  obtain ⟨hpass, -, hcounts, hdistinct⟩ := ofGroup_visits "trial" 2.0 group
  rw [hvisited] at hpass hcounts
  obtain ⟨-, -, -, hcounters⟩ := hcounts [6, 5] rfl
  obtain ⟨-, hbpu⟩ := hcounters 13 .bpu rfl
  obtain ⟨-, horder⟩ := hdistinct hn
  exact ⟨hn, hperm, hvisited, hpass, horder other hperm, hbpu, rfl⟩

end Record

end TrialMeter
