import Mathlib.Algebra.Order.Group.Multiset
import TrialMeter.Proofs.Group.Distinct
import TrialMeter.Proofs.Ownership.Ledger

/-!
# Descriptors of counters

A binding owns the descriptor that it holds, and so do the counters and groups that are made of
bindings. Every statement here starts from the descriptors of some bindings beside a frame `rest` of
descriptors that belong elsewhere, and ends with the descriptors of the bindings that are left
beside the same frame: whatever is opened, refused, moved or given back, a binding that stays
accounts for its descriptor and no other descriptor is touched.

## Main definitions

* `owned`: the descriptors of some bindings.
* `Owns`: an attempt ends with the descriptors of what it makes, or with none when it fails.

## Main results

* `Binding.passes_openFor`, `Binding.passes_release`, `Binding.passes_reopenFor`: one binding.
* `Group.passes_visit`: one operation on every member of a group.
* `Group.passes_ofCounters`: counters that form a group, or are given up.
-/

namespace TrialMeter

open Audit (preserves_of_within)

/-- The descriptors that some bindings hold. -/
def owned (bindings : List Binding) : Multiset Fd := (bindings.filterMap Binding.fd : List Fd)

theorem owned_append (bs bs' : List Binding) : owned (bs ++ bs') = owned bs + owned bs' := by
  simp only [owned, List.filterMap_append, Multiset.coe_add]

theorem owned_of_none {b : Binding} (h : b.held = none) : owned [b] = 0 := by
  simp [owned, Binding.fd, h]

theorem owned_of_some {b : Binding} {d : Descriptor} (h : b.held = some d) :
    owned [b] = {d.fd} := by
  simp [owned, Binding.fd, h]

theorem mem_owned {b : Binding} {bs : List Binding} {fd : Fd} (hb : b ∈ bs) (hfd : fd ∈ b.fd) :
    fd ∈ owned bs :=
  Multiset.mem_coe.mpr (List.mem_filterMap.mpr ⟨b, hb, hfd⟩)

/-- The descriptors that some counters hold. -/
def ownedBy (counters : List Counter) : Multiset Fd := owned (counters.map Counter.binding)

theorem ownedBy_append (cs cs' : List Counter) :
    ownedBy (cs ++ cs') = ownedBy cs + ownedBy cs' := by
  simp only [ownedBy, List.map_append, owned_append]

theorem ownedBy_cons (c : Counter) (cs : List Counter) :
    ownedBy (c :: cs) = owned [c.binding] + ownedBy cs :=
  ownedBy_append [c] cs

/-- An attempt ends with the descriptors of what it makes, beside a frame; when it fails, nothing is
left but the frame. -/
def Owns {α ε : Type} (own : α → Multiset Fd) (rest : Multiset Fd) :
    Except ε α → Multiset Fd → Prop
  | .ok a, held => held = own a + rest
  | .error _, held => held = rest

variable {rest : Multiset Fd}

/-- An entry that the ledger lets pass and that leaves it as it is. -/
abbrev LeavesLedger (held : Multiset Fd) (e : Entry) : Prop := ledger.step held e = some held

/-- Requests on a descriptor that is held leave the ledger as it is. -/
theorem Binding.serves_leavesLedger {b : Binding} {held : Multiset Fd}
    (h : ∀ fd ∈ b.fd, fd ∈ held) : b.Serves (LeavesLedger held) :=
  fun fd hfd => ⟨fun _ _ => if_pos (h fd hfd), fun _ => if_pos (h fd hfd)⟩

theorem Binding.serves_owned (b : Binding) : b.Serves (LeavesLedger (owned [b] + rest)) :=
  serves_leavesLedger fun _ hfd =>
    Multiset.mem_add.mpr (.inl (mem_owned List.mem_cons_self hfd))

theorem Group.serves_owned (g : Group Counter) :
    g.Serves (LeavesLedger (ownedBy g.members + rest)) :=
  fun _ hc => Binding.serves_leavesLedger fun _ hfd =>
    Multiset.mem_add.mpr (.inl (mem_owned (List.mem_map_of_mem hc) hfd))

/-! ### Requests -/

theorem passes_openCounter {held : Multiset Fd} (attr : Attr) (pid : Pid) :
    ledger.Passes held (Meter.openCounter attr pid) fun
      | .done fd, held' => held' = fd ::ₘ held
      | .failed _, held' => held' = held := by
  intro k
  unfold Meter.openCounter
  split
  · exact ⟨_, rfl, rfl⟩
  · exact ⟨_, rfl, rfl⟩

theorem passes_close {held : Multiset Fd} (fd : Fd) :
    ledger.Passes ({fd} + held) (Meter.close fd) fun _ held' => held' = held := by
  have hstep : ledger.step ({fd} + held) (.close fd) = some held := by simp [ledger]
  exact .tell hstep rfl

theorem preserves_log {held : Multiset Fd} {level : Log.Level} {target : Log.Target}
    {message : String} : ledger.Preserves held (Meter.log level target message) :=
  .tell rfl rfl

/-! ### Bindings -/

namespace Binding

/-- A binding that could not be opened holds nothing. -/
theorem passes_openFor (b : Binding) (subject : Subject) :
    ledger.Passes (owned [b] + rest) (b.openFor subject) fun r held =>
      held = owned [r.2] + rest ∧ ∀ e, r.1 = .error e → r.2.held = none := by
  unfold openFor
  cases hb : b.held with
  | some d => exact .pure ⟨rfl, nofun⟩
  | none =>
    rw [owned_of_none hb, zero_add]
    refine (passes_openCounter _ _).bind fun reply held h => ?_
    cases reply with
    | done fd =>
      subst h
      refine preserves_log.bind fun _ => .pure ⟨?_, nofun⟩
      rw [owned_of_some rfl, Multiset.singleton_add]
    | failed errno =>
      subst h
      exact .pure ⟨by rw [owned_of_none hb, zero_add], fun _ _ => hb⟩

theorem passes_release (b : Binding) :
    ledger.Passes (owned [b] + rest) b.release fun b' held => b'.held = none ∧ held = rest := by
  unfold release
  cases hb : b.held with
  | none =>
    rw [owned_of_none hb, zero_add]
    exact .pure ⟨hb, rfl⟩
  | some d =>
    rw [owned_of_some hb]
    exact (passes_close d.fd).bind fun _ _ h => .pure ⟨rfl, h⟩

theorem passes_reopenFor (b : Binding) (subject : Subject) :
    ledger.Passes (owned [b] + rest) (b.reopenFor subject) fun r held =>
      held = owned [r.2] + rest := by
  refine b.passes_release.bind fun b' held h => ?_
  have hheld : held = owned [b'] + rest := by rw [owned_of_none h.1, zero_add, h.2]
  rw [hheld]
  exact (b'.passes_openFor subject).mono fun _ _ h => h.1

end Binding

/-! ### Counters -/

namespace Counter

theorem passes_openHere (c : Counter) :
    ledger.Passes (owned [c.binding] + rest) c.openHere fun r held =>
      held = owned [r.2.binding] + rest :=
  ((c.binding.passes_openFor .caller).mono fun _ _ h => h.1).map

theorem passes_reopen (c : Counter) (pid : Pid) :
    ledger.Passes (owned [c.binding] + rest) (c.reopen pid) fun r held =>
      held = owned [r.2.binding] + rest :=
  (c.binding.passes_reopenFor (.process pid)).map

theorem passes_openHere_quiet (kind : Kind) :
    ledger.Passes rest (quiet kind).openHere fun r held =>
      held = owned [r.2.binding] + rest := by
  have h : ledger.Passes (owned [(quiet kind).binding] + rest) _ _ :=
    (quiet kind).passes_openHere
  rwa [owned_of_none rfl, zero_add] at h

theorem passes_reopen_quiet (kind : Kind) (pid : Pid) :
    ledger.Passes rest ((quiet kind).reopen pid) fun r held =>
      held = owned [r.2.binding] + rest := by
  have h : ledger.Passes (owned [(quiet kind).binding] + rest) _ _ :=
    (quiet kind).passes_reopen pid
  rwa [owned_of_none rfl, zero_add] at h

theorem passes_reopenHere (c : Counter) :
    ledger.Passes (owned [c.binding] + rest) c.reopenHere fun r held =>
      held = owned [r.2.binding] + rest :=
  (c.binding.passes_reopenFor .caller).map

theorem passes_release (c : Counter) :
    ledger.Passes (owned [c.binding] + rest) c.release fun _ held => held = rest :=
  (c.binding.passes_release.mono fun _ _ h => h.2).map

end Counter

/-- A binding that was closed before it was opened is all that an attempt to open it leaves. -/
theorem Binding.passes_openFor_of_none {b : Binding} (hb : b.held = none) (subject : Subject) :
    ledger.Passes rest (b.openFor subject) fun r =>
      Owns (fun b => owned [b]) rest (r.1.map fun _ => r.2) := by
  have hopen : ledger.Passes (owned [b] + rest) (b.openFor subject) _ := b.passes_openFor subject
  rw [owned_of_none hb, zero_add] at hopen
  refine hopen.mono fun r held h => ?_
  obtain ⟨result, b'⟩ := r
  cases result with
  | ok fd => exact h.1
  | error e =>
    rw [owned_of_none (h.2 e rfl), zero_add] at h
    exact h.1

/-- A counter that could not be made leaves nothing open. -/
theorem Counter.passes_create (kind : Kind) :
    ledger.Passes rest (create kind).run (Owns (fun c => owned [c.binding]) rest) := by
  unfold create openHere Attempt.insist
  rw [ExceptT.run_mk, bind_map_left]
  refine (Binding.passes_openFor_of_none rfl _).bind fun r held h => .pure ?_
  obtain ⟨result, b⟩ := r
  cases result with
  | ok fd => exact h
  | error e => exact h

theorem Builder.passes_finish (b : Builder) :
    ledger.Passes rest b.finish.run (Owns (fun binding => owned [binding]) rest) :=
  (Binding.passes_openFor_of_none rfl _).bind fun _ _ h => .pure h

/-! ### Groups -/

namespace Group

theorem passes_visit {act : Counter → Meter (Except Error Unit × Counter)}
    (hact : ∀ c rest, ledger.Passes (owned [c.binding] + rest) (act c) fun r held =>
      held = owned [r.2.binding] + rest) (members : List Counter) :
    ledger.Passes (ownedBy members + rest) (visit act members) fun r held =>
      held = ownedBy r.2 + rest := by
  induction members generalizing rest with
  | nil => exact .pure rfl
  | cons c members ih =>
    rw [ownedBy_cons, add_assoc, visit]
    refine (hact c _).bind fun r held h => ?_
    rw [h, add_left_comm]
    refine ih.bind fun rs held h => .pure ?_
    rw [h, ownedBy_cons, add_assoc, add_left_comm]

theorem passes_openHere (g : Group Counter) :
    ledger.Passes (ownedBy g.members + rest) g.openHere fun r held =>
      held = ownedBy r.2.members + rest :=
  (passes_visit (fun c _ => c.passes_openHere) g.members).bind fun _ _ h => .pure h

theorem passes_reopen (g : Group Counter) (pid : Pid) :
    ledger.Passes (ownedBy g.members + rest) (g.reopen pid) fun r held =>
      held = ownedBy r.2.members + rest :=
  (passes_visit (fun c _ => c.passes_reopen pid) g.members).bind fun _ _ h => .pure h

theorem passes_drive (g : Group Counter) (d : Drive) :
    ledger.Passes (ownedBy g.members + rest) (g.drive d) fun r held =>
      held = ownedBy r.2.members + rest := by
  cases d with
  | openHere => exact g.passes_openHere
  | reopen pid => exact g.passes_reopen pid
  | start => exact (preserves_of_within (within_start g.serves_owned)).bind fun _ => .pure rfl
  | stop => exact (preserves_of_within (within_stop g.serves_owned)).bind fun _ => .pure rfl

theorem passes_releaseAll (counters : List Counter) :
    ledger.Passes (ownedBy counters + rest) (releaseAll counters) fun _ held => held = rest := by
  induction counters with
  | nil => exact .pure (zero_add rest)
  | cons c counters ih =>
    rw [ownedBy_cons, add_assoc, releaseAll]
    exact c.passes_release.bind fun _ _ h => h ▸ ih

theorem passes_release (g : Group Counter) :
    ledger.Passes (ownedBy g.members + rest) g.release fun _ held => held = rest :=
  passes_releaseAll g.members

/-- Counters that form no group are given up, all of them. -/
theorem passes_ofCounters (counters : List Counter) :
    ledger.Passes (ownedBy counters + rest) (ofCounters counters).run
      (Owns (fun g => ownedBy g.members) rest) := by
  have happend := takeDistinct_append [] counters
  rw [List.nil_append] at happend
  unfold ofCounters
  split
  · rename_i grouped heq
    rw [heq, List.append_nil] at happend
    rw [← happend]
    exact .pure rfl
  · rename_i grouped c others heq
    rw [heq] at happend
    rw [← happend, ownedBy_append, add_comm (ownedBy grouped), add_assoc]
    refine (passes_releaseAll (c :: others)).liftBind fun _ held h => ?_
    rw [h]
    exact (passes_releaseAll grouped).liftBind fun _ _ h => .pure h

/-- A quiet group holds no descriptor. -/
theorem ownedBy_of_quiet {kinds : List Kind} {g : Group Counter} (h : quiet kinds = .ok g) :
    ownedBy g.members = 0 := by
  rw [members_of_ofMembers h]
  simp [ownedBy, owned, List.map_map, Function.comp_def, Counter.quiet, Binding.fd,
    List.filterMap_map]

theorem passes_quiet (kinds : List Kind) :
    ledger.Passes rest (ExceptT.mk (pure (quiet kinds)) : Attempt (Group Counter)).run
      (Owns (fun g => ownedBy g.members) rest) := by
  refine .pure ?_
  cases h : quiet kinds with
  | ok g => rw [Owns, ownedBy_of_quiet h, zero_add]
  | error e => rfl

theorem passes_create (kinds : List Kind) :
    ledger.Passes rest (create kinds).run (Owns (fun g => ownedBy g.members) rest) := by
  refine (passes_quiet kinds).exceptBind (fun g held h => ?_) fun _ _ h => h
  rw [Owns] at h
  rw [h]
  refine g.passes_openHere.liftBind fun r held h => ?_
  obtain ⟨result, g'⟩ := r
  cases result with
  | ok u => exact .pure h
  | error e => exact preserves_log.liftBind fun _ => .pure h

end Group

end TrialMeter
