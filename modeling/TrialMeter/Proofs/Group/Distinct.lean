import Mathlib.Data.List.Nodup
import TrialMeter.Group.Counters

/-!
# Groups of different kinds

A group is made of members one after another, and the first member whose kind is taken ends the
making. So no member is lost on the way, members of different kinds all get into the group, and in
such a group every member is found by its kind.

## Main results

* `Group.takeDistinct_append`, `Group.members_of_ofMembers`: no member is lost.
* `Group.ofMembers_of_nodup`: members of different kinds form a group.
* `Group.get_kind_of_mem`, `Group.get_eq_some_iff`, `Group.retrieve_kind_of_mem`: a member is found
  by its kind.
-/

namespace TrialMeter.Group

variable {μ : Type} {m : Type → Type} [Member μ m]

/-- Splitting members at the first repeated kind loses none of them. -/
theorem takeDistinct_append (grouped members : List μ) :
    (takeDistinct grouped members).1 ++ (takeDistinct grouped members).2 =
      grouped ++ members := by
  induction members generalizing grouped with
  | nil => rfl
  | cons x members ih =>
    rw [takeDistinct]
    split
    · rfl
    · rw [ih, List.append_assoc, List.singleton_append]

/-- A group has the members that it is made of. -/
theorem members_of_ofMembers {members : List μ} {g : Group μ} (h : ofMembers members = .ok g) :
    g.members = members := by
  have happend := takeDistinct_append [] members
  unfold ofMembers at h
  split at h
  · rename_i grouped heq
    obtain rfl : ⟨grouped⟩ = g := by simpa using h
    simpa [heq] using happend
  · exact absurd h nofun

/-- Members of different kinds are taken one after another. -/
theorem takeDistinct_append_of_nodup {grouped members : List μ} (rest : List μ)
    (h : ((grouped ++ members).map Member.kind).Nodup) :
    takeDistinct grouped (members ++ rest) = takeDistinct (grouped ++ members) rest := by
  induction members generalizing grouped with
  | nil => rw [List.nil_append, List.append_nil]
  | cons x members ih =>
    have happend : grouped ++ x :: members = grouped ++ [x] ++ members := by
      rw [List.append_assoc, List.singleton_append]
    have hfirst : ¬ grouped.any fun g => Member.kind g = Member.kind x := by
      intro hany
      obtain ⟨y, hy, hkind⟩ := List.any_eq_true.mp hany
      rw [List.map_append, List.map_cons] at h
      refine (List.disjoint_of_nodup_append h) (List.mem_map_of_mem hy) ?_
      rw [of_decide_eq_true hkind]
      exact List.mem_cons_self
    rw [List.cons_append, takeDistinct, if_neg hfirst, happend]
    exact ih (happend ▸ h)

theorem takeDistinct_of_nodup {grouped members : List μ}
    (h : ((grouped ++ members).map Member.kind).Nodup) :
    takeDistinct grouped members = (grouped ++ members, []) := by
  have hall := takeDistinct_append_of_nodup [] h
  rwa [List.append_nil, takeDistinct] at hall

theorem ofMembers_of_nodup {members : List μ} (h : (members.map Member.kind).Nodup) :
    ofMembers members = .ok ⟨members⟩ := by
  have hsplit : takeDistinct [] members = (members, []) := takeDistinct_of_nodup h
  rw [ofMembers, hsplit]

/-- In a group of different kinds, every member is the one that is found by its kind. -/
theorem get_kind_of_mem {g : Group μ} (hn : g.kinds.Nodup) {x : μ} (h : x ∈ g.members) :
    g.get (Member.kind x) = some x := by
  obtain ⟨members⟩ := g
  rw [get]
  induction members with
  | nil => exact absurd h List.not_mem_nil
  | cons y members ih =>
    obtain ⟨hnot, hn'⟩ := List.nodup_cons.mp hn
    rcases List.mem_cons.mp h with rfl | h
    · exact List.find?_cons_of_pos (decide_eq_true rfl)
    · have hne : Member.kind y ≠ Member.kind x := by
        intro heq
        exact hnot (heq ▸ List.mem_map_of_mem h)
      rw [List.find?_cons_of_neg (by simpa using hne)]
      exact ih hn' h

/-- The member that is found for a kind is one of the group and of this kind. -/
theorem mem_of_get {g : Group μ} {kind : Kind} {x : μ} (h : g.get kind = some x) :
    x ∈ g.members ∧ Member.kind x = kind := by
  have hkind : decide (Member.kind x = kind) = true :=
    List.find?_some (p := fun x => Member.kind x = kind) h
  exact ⟨List.mem_of_find?_eq_some h, of_decide_eq_true hkind⟩

/-- In a group of different kinds, the member of a kind is the one that is found. -/
theorem get_eq_some_iff {g : Group μ} (hn : g.kinds.Nodup) {kind : Kind} {x : μ} :
    g.get kind = some x ↔ x ∈ g.members ∧ Member.kind x = kind :=
  ⟨mem_of_get, fun ⟨hmem, hkind⟩ => hkind ▸ get_kind_of_mem hn hmem⟩

theorem get_eq_none_iff {g : Group μ} {kind : Kind} : g.get kind = none ↔ kind ∉ g.kinds := by
  rw [get, List.find?_eq_none, kinds, List.mem_map]
  simp only [decide_eq_true_eq, not_exists, not_and]

/-- The order of the members does not matter for what is found in a group of different kinds. -/
theorem get_of_perm {g g' : Group μ} (hn : g.kinds.Nodup) (h : g.members.Perm g'.members) :
    g.get = g'.get := by
  have hn' : g'.kinds.Nodup := (h.map Member.kind).nodup_iff.mp hn
  funext kind
  refine Option.ext fun x => ?_
  rw [get_eq_some_iff hn, get_eq_some_iff hn', h.mem_iff]

/-- What is retrieved from a group of different kinds is the value of the member of the kind. -/
theorem retrieve_kind_of_mem [Monad m] {g : Group μ} (hn : g.kinds.Nodup) {x : μ}
    (h : x ∈ g.members) : g.retrieve (Member.kind x) = Member.retrieve x := by
  rw [retrieve, get_kind_of_mem hn h]

theorem retrieve_of_notMem [Monad m] {g : Group μ} {kind : Kind} (h : kind ∉ g.kinds) :
    g.retrieve kind = pure 0 := by
  rw [retrieve, get_eq_none_iff.mpr h]

/-- Counters of different kinds are kept open as a group. -/
theorem ofCounters_of_nodup {counters : List Counter} (h : (counters.map Counter.kind).Nodup) :
    ofCounters counters = pure ⟨counters⟩ := by
  have hsplit : takeDistinct [] counters = (counters, []) := takeDistinct_of_nodup h
  rw [ofCounters, hsplit]

theorem quiet_of_nodup {kinds : List Kind} (h : kinds.Nodup) :
    quiet kinds = .ok ⟨kinds.map Counter.quiet⟩ := by
  refine ofMembers_of_nodup ?_
  rw [List.map_map]
  exact (List.map_id kinds).symm ▸ h

end TrialMeter.Group
