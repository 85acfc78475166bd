import TrialMeter.Proofs.Group.Distinct
import TrialMeter.Proofs.Kernel.Exact
import TrialMeter.Proofs.Trace.Calls
import TrialMeter.Proofs.Trace.Footprint

/-!
# The phases of a trial

A trial of the full battery goes through phases in which every counter is visited in order: the
counters are opened, those that were granted are started, stopped and read, and their descriptors
are given back. This file gives the calls of each phase as a list that depends on the answers of the
kernel, and proves that the phase makes exactly these calls. A phase begins at the position where
the one before it stopped, so the calls of a whole trial are the calls of its phases joined.

## Main definitions

* `Kernel.openCalls`, `Kernel.startCalls`, `Kernel.stopCalls`, `Kernel.readCalls`, `closeCalls`: the
  calls of a phase.
* `Kernel.battery`: the counters of a battery as the kernel granted them.
* `Kernel.resultAt`, `Kernel.countAt`: what a counter of the battery is read as.

## Main results

* `Trial.does_openEach`, `Group.does_openHere`, `Group.does_reopen`: the three ways to open a
  battery.
* `Trial.does_startCounters`, `Trial.does_stopCounters`, `Record.does_ofGroup`,
  `Group.does_release`: the other phases.
-/

namespace TrialMeter

open Meter (Does)

/-- What a read that delivers all or nothing stands for. -/
def Delivery.result : Delivery → Except Error UInt64
  | full value => .ok value
  | short _ => .error (.reading (.other "short read from counter descriptor"))
  | failed errno => .error (.reading (.os errno))

/-- The line in which a counter tells why it reads as zero. -/
def Kind.zeroLine (kind : Kind) (e : Error) : Log.Line :=
  ⟨.debug, .counter, kind.text ++ " reads as zero: " ++ e.message⟩

/-- A counter that is read tells nothing, and one that cannot be read tells why, once. -/
def Kind.zeroLines (kind : Kind) : Except Error UInt64 → List Log.Line
  | .ok _ => []
  | .error e => [kind.zeroLine e]

namespace Kernel

variable (k : Kernel)

/-- The descriptors that answer `n` requests for counters, from the one on that follows `i` others.
-/
def descriptors (i n : ℕ) : List Fd := (List.range' i n).filterMap k.fdAt

/-- A counter that was asked for after `i` others. -/
def counterAt (subject : Subject) (kind : Kind) (i : ℕ) : Counter :=
  ⟨{ kind, held := (k.fdAt i).map fun fd => ⟨fd, subject⟩ }⟩

/-- Counters of some kinds that were asked for in order, the first one after `i` others. -/
def battery (subject : Subject) (kinds : List Kind) (i : ℕ) : List Counter :=
  (kinds.zipIdx i).map fun p => k.counterAt subject p.1 p.2

/-- The requests for counters of some kinds, in order. -/
def openCalls (pid : Pid) (kinds : List Kind) (i : ℕ) : List Entry :=
  (kinds.zipIdx i).map fun p => .counter p.1.attr pid (-1) (-1) closeOnExec (k.openAt p.2)

/-- A counter is set to zero, and enabled if that was done. -/
def startCalls : List Fd → ℕ → List Entry
  | [], _ => []
  | fd :: rest, j =>
    match k.controlAt j with
    | .done () =>
      [.control fd .reset 0 (.done ()), .control fd .enable 0 (k.controlAt (j + 1))] ++
        startCalls rest (j + 2)
    | .failed e => .control fd .reset 0 (.failed e) :: startCalls rest (j + 1)

/-- Each counter is disabled once. -/
def stopCalls (fds : List Fd) (j : ℕ) : List Entry :=
  (fds.zipIdx j).map fun p => .control p.1 .disable 0 (k.controlAt p.2)

/-- Each counter is read once. -/
def readCalls (fds : List Fd) (i : ℕ) : List Entry :=
  (fds.zipIdx i).map fun p => .read p.1 8 (k.readAt p.2)

end Kernel

/-- The descriptors of the open ones among some counters, in order. -/
def openFds (counters : List Counter) : List Fd := counters.filterMap fun c => c.binding.fd

/-- Each descriptor is given back once. -/
def closeCalls (fds : List Fd) : List Entry := fds.map .close

namespace Kernel

variable (k : Kernel)

/-- What the counter that was asked for after `i` others is read as, in a battery that is the first
to be opened and to be read. A counter that was refused is not read, so its place among the reads is
the number of grants before it. -/
def resultAt (i : ℕ) : Except Error UInt64 :=
  match k.fdAt i with
  | some _ => (k.readAt (k.grants i)).result
  | none => .error .notOpen

/-- The count of the counter that was asked for after `i` others. -/
def countAt (i : ℕ) : UInt64 := (k.resultAt i).toOption.getD 0

/-- The counts of `n` counters, the first of which was asked for after `i` others. -/
def counts (i n : ℕ) : List UInt64 := (List.range' i n).map k.countAt

/-- What is left when a counter is read: the read of its descriptor, and the line that it reads as
zero. -/
def readoutAt (kind : Kind) (i : ℕ) : List Entry :=
  ((k.fdAt i).map fun fd => .read fd 8 (k.readAt (k.grants i))).toList ++
    (kind.zeroLines (k.resultAt i)).map .log

/-- What is left when counters of some kinds are read in order. -/
def readout (kinds : List Kind) (i : ℕ) : List Entry :=
  (kinds.zipIdx i).flatMap fun p => k.readoutAt p.1 p.2

/-- The lines in which counters of some kinds tell that they read as zero. -/
def zeroLines (kinds : List Kind) (i : ℕ) : List Log.Line :=
  (kinds.zipIdx i).flatMap fun p => p.1.zeroLines (k.resultAt p.2)

end Kernel

variable {k : Kernel} {u : Spent}

/-! ### Opening -/

theorem Binding.does_openFor (kind : Kind) (subject : Subject) :
    (Binding.openFor { kind } subject).Does k u
      (· = ((k.openAt u.counters).result (.opening kind.text subject),
        (k.counterAt subject kind u.counters).binding))
      { u with counters := u.counters + 1 } (k.openCalls subject.pid [kind] u.counters) := by
  refine (Meter.does_openCounter kind.attr subject.pid).bindPure fun reply hreply => ?_
  cases reply with
  | done fd =>
    refine (Does.log (by decide)).bindPure fun _ _ => .pure ?_
    simp only [Kernel.counterAt, Kernel.fdAt, ← hreply, Option.map_some, Reply.result]
  | failed errno =>
    refine .pure ?_
    simp only [Kernel.counterAt, Kernel.fdAt, ← hreply, Option.map_none, Reply.result]

namespace Counter

theorem does_openHere (kind : Kind) :
    (quiet kind).openHere.Does k u (fun r => r.2 = k.counterAt .caller kind u.counters)
      { u with counters := u.counters + 1 } (k.openCalls 0 [kind] u.counters) :=
  (Binding.does_openFor kind .caller).map fun _ h => congrArg (fun r => Counter.mk r.2) h

theorem does_reopen (kind : Kind) (pid : Pid) :
    ((quiet kind).reopen pid).Does k u (fun r => r.2 = k.counterAt (.process pid) kind u.counters)
      { u with counters := u.counters + 1 } (k.openCalls pid [kind] u.counters) :=
  (Binding.does_openFor kind (.process pid)).map fun _ h => congrArg (fun r => Counter.mk r.2) h

end Counter

theorem openFds_cons (c : Counter) (cs : List Counter) :
    openFds (c :: cs) = c.binding.fd.toList ++ openFds cs := by
  rw [openFds, List.filterMap_cons]
  cases c.binding.fd with
  | none => rfl
  | some fd => rfl

namespace Kernel

theorem battery_cons (subject : Subject) (kind : Kind) (kinds : List Kind) (i : ℕ) :
    k.battery subject (kind :: kinds) i =
      k.counterAt subject kind i :: k.battery subject kinds (i + 1) := rfl

theorem openCalls_cons (pid : Pid) (kind : Kind) (kinds : List Kind) (i : ℕ) :
    k.openCalls pid (kind :: kinds) i = k.openCalls pid [kind] i ++ k.openCalls pid kinds (i + 1) :=
  rfl

theorem descriptors_succ (i n : ℕ) :
    k.descriptors i (n + 1) = (k.fdAt i).toList ++ k.descriptors (i + 1) n := by
  rw [descriptors, List.range'_succ, List.filterMap_cons]
  cases k.fdAt i with
  | none => rfl
  | some fd => rfl

theorem fd_counterAt (subject : Subject) (kind : Kind) (i : ℕ) :
    (k.counterAt subject kind i).binding.fd = k.fdAt i := by
  simp [Binding.fd, counterAt, Function.comp_def]

/-- The open counters of a battery are those that were granted. -/
theorem openFds_battery (subject : Subject) (kinds : List Kind) (i : ℕ) :
    openFds (k.battery subject kinds i) = k.descriptors i kinds.length := by
  induction kinds generalizing i with
  | nil => rfl
  | cons kind kinds ih =>
    rw [battery_cons, openFds_cons, fd_counterAt, ih, List.length_cons, descriptors_succ]

theorem kinds_battery (subject : Subject) (kinds : List Kind) (i : ℕ) :
    (k.battery subject kinds i).map Counter.kind = kinds := by
  induction kinds generalizing i with
  | nil => rfl
  | cons kind kinds ih => rw [battery_cons, List.map_cons, ih]; rfl

end Kernel

/-- Members that are opened one after another. -/
theorem Group.does_visit {act : Counter → Meter (Except Error Unit × Counter)} (subject : Subject)
    (hact : ∀ kind u, (act (Counter.quiet kind)).Does k u
      (fun r => r.2 = k.counterAt subject kind u.counters) { u with counters := u.counters + 1 }
      (k.openCalls subject.pid [kind] u.counters)) (kinds : List Kind) :
    (visit act (kinds.map Counter.quiet)).Does k u
      (fun r => r.2 = k.battery subject kinds u.counters)
      { u with counters := u.counters + kinds.length }
      (k.openCalls subject.pid kinds u.counters) := by
  induction kinds generalizing u with
  | nil => exact .pure rfl
  | cons kind kinds ih =>
    rw [add_length_cons, Kernel.openCalls_cons]
    refine (hact kind u).bind fun r hr => ih.bindPure fun rs hrs => .pure ?_
    rw [hr, hrs, Kernel.battery_cons]

theorem Group.does_openHere (kinds : List Kind) :
    (Group.openHere ⟨kinds.map Counter.quiet⟩).Does k u
      (fun r => r.2 = ⟨k.battery .caller kinds u.counters⟩)
      { u with counters := u.counters + kinds.length } (k.openCalls 0 kinds u.counters) :=
  (does_visit .caller (fun kind _ => Counter.does_openHere kind) kinds).bindPure fun _ h =>
    .pure (congrArg Group.mk h)

theorem Group.does_reopen (kinds : List Kind) (pid : Pid) :
    (Group.reopen ⟨kinds.map Counter.quiet⟩ pid).Does k u
      (fun r => r.2 = ⟨k.battery (.process pid) kinds u.counters⟩)
      { u with counters := u.counters + kinds.length } (k.openCalls pid kinds u.counters) :=
  (does_visit (.process pid) (fun kind _ => Counter.does_reopen kind pid) kinds).bindPure
    fun _ h => .pure (congrArg Group.mk h)

namespace Trial

theorem does_warnRefused (what : String) (r : Except Error Unit) :
    (warnRefused what r).Does k u (fun _ => True) u [] := by
  cases r with
  | ok u => exact .pure trivial
  | error e => exact .log (by decide)

theorem does_openEach (kinds : List Kind) :
    (openEach kinds).Does k u (· = k.battery .caller kinds u.counters)
      { u with counters := u.counters + kinds.length } (k.openCalls 0 kinds u.counters) := by
  induction kinds generalizing u with
  | nil => exact .pure rfl
  | cons kind kinds ih =>
    rw [add_length_cons, Kernel.openCalls_cons]
    refine (Counter.does_openHere kind).bind fun r hr => ?_
    refine ((does_warnRefused _ r.1).bind fun _ _ => ih.bindPure fun cs hcs => .pure ?_)
    rw [hr, hcs, Kernel.battery_cons]

end Trial

/-! ### Starting and stopping -/

namespace Binding

variable {b : Binding} {d : Descriptor}

theorem does_control (fd : Fd) (request : Control) :
    (control fd request).run.Does k u (· = (k.controlAt u.controls).result .controlling)
      { u with controls := u.controls + 1 } [.control fd request 0 (k.controlAt u.controls)] :=
  .ofReply (Meter.does_control fd request)

theorem does_start (h : b.held = some d) :
    b.start.run.Does k u (fun _ => True)
      { u with controls := (k.startCalls [d.fd] u.controls).length + u.controls }
      (k.startCalls [d.fd] u.controls) := by
  have hreset := does_control (k := k) (u := u) d.fd .reset
  rw [start, requireFd_of_some h, pure_bind, Nat.add_comm]
  unfold Kernel.startCalls
  cases hreply : k.controlAt u.controls with
  | done grant =>
    rw [hreply] at hreset
    exact hreset.ok ((does_control d.fd .enable).mono fun _ _ => trivial)
  | failed errno =>
    rw [hreply] at hreset
    exact hreset.stop trivial

theorem does_stop (h : b.held = some d) :
    b.stop.run.Does k u (fun _ => True)
      { u with controls := (k.stopCalls [d.fd] u.controls).length + u.controls }
      (k.stopCalls [d.fd] u.controls) := by
  rw [stop, requireFd_of_some h, pure_bind, Nat.add_comm]
  exact (does_control d.fd .disable).mono fun _ _ => trivial

end Binding

theorem Binding.does_release (b : Binding) :
    b.release.Does k u (fun _ => True) u (closeCalls b.fd.toList) := by
  unfold release fd
  cases b.held with
  | none => exact .pure trivial
  | some d => exact (Does.tell rfl).bindPure fun _ _ => .pure trivial

theorem Counter.does_release (c : Counter) :
    c.release.Does k u (fun _ => True) u (closeCalls c.binding.fd.toList) :=
  c.binding.does_release.map fun _ _ => trivial

namespace Kernel

theorem startCalls_cons (fd : Fd) (fds : List Fd) (j : ℕ) :
    k.startCalls (fd :: fds) j =
      k.startCalls [fd] j ++ k.startCalls fds ((k.startCalls [fd] j).length + j) := by
  rw [Nat.add_comm]
  cases h : k.controlAt j with
  | done grant => simp only [startCalls, h]; rfl
  | failed errno => simp only [startCalls, h]; rfl

theorem stopCalls_cons (fd : Fd) (fds : List Fd) (j : ℕ) :
    k.stopCalls (fd :: fds) j =
      k.stopCalls [fd] j ++ k.stopCalls fds ((k.stopCalls [fd] j).length + j) := by
  rw [Nat.add_comm]
  rfl

end Kernel

namespace Group

variable {calls : List Fd → ℕ → List Entry}

/-- The calls by which one open member after another is controlled. -/
theorem does_visitOpen {act : Counter → Meter (Except Error Unit)} (hnil : ∀ j, calls [] j = [])
    (hcons : ∀ fd fds j, calls (fd :: fds) j =
      calls [fd] j ++ calls fds ((calls [fd] j).length + j))
    (hact : ∀ c d u, c.binding.held = some d → (act c).Does k u (fun _ => True)
      { u with controls := (calls [d.fd] u.controls).length + u.controls }
      (calls [d.fd] u.controls)) (cs : List Counter) :
    (visitOpen act cs).Does k u (fun _ => True)
      { u with controls := (calls (openFds cs) u.controls).length + u.controls }
      (calls (openFds cs) u.controls) := by
  induction cs generalizing u with
  | nil =>
    rw [openFds, List.filterMap_nil, hnil, List.length_nil, Nat.zero_add]
    exact .pure trivial
  | cons c cs ih =>
    rw [visitOpen, openFds_cons]
    cases h : c.binding.held with
    | none =>
      rw [if_neg (by simp [Member.isOpen, Counter.isOpen, Binding.isOpen, h]), Binding.fd, h]
      exact ih
    | some d =>
      rw [if_pos (by simp [Member.isOpen, Counter.isOpen, Binding.isOpen, h]), Binding.fd, h,
        Option.map_some, Option.toList_some, List.singleton_append, hcons, List.length_append,
        Nat.add_comm (calls [d.fd] u.controls).length, Nat.add_assoc]
      exact (hact c d u h).bind fun _ _ => ih.bindPure fun _ _ => .pure trivial

theorem does_release (g : Group Counter) :
    g.release.Does k u (fun _ => True) u (closeCalls (openFds g.members)) := by
  obtain ⟨cs⟩ := g
  rw [release]
  induction cs with
  | nil => exact .pure trivial
  | cons c cs ih =>
    rw [openFds_cons, closeCalls, List.map_append]
    exact c.does_release.bind fun _ _ => ih

end Group

namespace Trial

theorem does_startCounters (g : Group Counter) :
    (startCounters g).Does k u (fun _ => True)
      { u with controls := (k.startCalls (openFds g.members) u.controls).length + u.controls }
      (k.startCalls (openFds g.members) u.controls) := by
  have hstart := g.members |> Group.does_visitOpen (k := k) (u := u) (fun _ => rfl)
    Kernel.startCalls_cons fun c d u h => Binding.does_start h
  exact hstart.bindPure fun r _ => does_warnRefused _ r

theorem does_stopCounters (g : Group Counter) :
    (stopCounters g).Does k u (fun _ => True)
      { u with controls := (k.stopCalls (openFds g.members) u.controls).length + u.controls }
      (k.stopCalls (openFds g.members) u.controls) := by
  have hstop := g.members |> Group.does_visitOpen (k := k) (u := u) (fun _ => rfl)
    Kernel.stopCalls_cons fun c d u h => Binding.does_stop h
  exact hstop.bindPure fun r _ => does_warnRefused _ r

end Trial

/-! ### Reading -/

theorem Binding.does_read_of_none {b : Binding} (h : b.held = none) :
    b.read.run.Does k u (· = .error .notOpen) u [] := by
  rw [read, requireFd_of_none h]
  exact .pure rfl

theorem Binding.does_read_of_some {b : Binding} {d : Descriptor} (h : b.held = some d) :
    b.read.run.Does k u (· = (k.readAt u.reads).result) { u with reads := u.reads + 1 }
      [.read d.fd 8 (k.readAt u.reads)] := by
  rw [read, requireFd_of_some h, pure_bind]
  refine ((Meter.does_readCounter d.fd).lift fun delivery hdelivery => ?_).congr rfl
    (List.append_nil _)
  rw [← hdelivery]
  cases delivery with
  | full value => exact .pure rfl
  | short bytes => exact .pure rfl
  | failed errno => exact .pure rfl

namespace Counter

variable {c : Counter} {r : Except Error UInt64} {u' : Spent} {es : List Entry}

/-- A counter that cannot be read counts zero and tells why. -/
theorem does_retrieve (h : c.read.run.Does k u (· = r) u' es) :
    c.retrieve.Does k u (· = r.toOption.getD 0) u' (es ++ (c.kind.zeroLines r).map .log) := by
  refine h.bind fun result hresult => ?_
  subst hresult
  cases result with
  | ok value => exact .pure rfl
  | error e => exact (Does.tell rfl).bindPure fun _ _ => .pure rfl

/-- A counter of a battery reads as the kernel answers in its place. -/
theorem does_retrieve_counterAt {subject : Subject} {kind : Kind} {i : ℕ}
    (hi : u.reads = k.grants i) :
    (k.counterAt subject kind i).retrieve.Does k u (· = k.countAt i)
      { u with reads := k.grants (i + 1) } (k.readoutAt kind i) := by
  unfold Kernel.countAt Kernel.readoutAt Kernel.resultAt
  cases h : k.fdAt i with
  | none =>
    have hheld : (k.counterAt subject kind i).binding.held = none := by
      rw [Kernel.counterAt, h, Option.map_none]
    rw [k.grants_succ_of_none h, ← hi]
    exact does_retrieve (Binding.does_read_of_none hheld)
  | some fd =>
    have hheld : (k.counterAt subject kind i).binding.held = some ⟨fd, subject⟩ := by
      rw [Kernel.counterAt, h, Option.map_some]
    rw [k.grants_succ_of_some h, ← hi]
    exact does_retrieve (Binding.does_read_of_some hheld)

end Counter

namespace Group

theorem does_retrieve_battery {g : Group Counter} {subject : Subject} {kinds : List Kind} {i : ℕ}
    (hg : ∀ c ∈ k.battery subject kinds i, g.get c.kind = some c) (hi : u.reads = k.grants i) :
    (kinds.mapM g.retrieve).Does k u (· = k.counts i kinds.length)
      { u with reads := k.grants (i + kinds.length) } (k.readout kinds i) := by
  induction kinds generalizing i u with
  | nil =>
    rw [List.mapM_nil, List.length_nil, Nat.add_zero, ← hi]
    exact .pure rfl
  | cons kind kinds ih =>
    have hfirst : g.retrieve kind = (k.counterAt subject kind i).retrieve := by
      have hget : g.get kind = some (k.counterAt subject kind i) := hg _ List.mem_cons_self
      rw [retrieve, hget]
      rfl
    rw [List.mapM_cons, hfirst, add_length_cons]
    refine (Counter.does_retrieve_counterAt hi).bind fun count hcount => ?_
    refine (ih (fun c hc => hg c (List.mem_cons_of_mem _ hc)) rfl).bindPure fun rest hrest =>
      .pure ?_
    rw [hcount, hrest]
    rfl

end Group

/-- A battery is read into the record of its counts. -/
theorem Record.does_ofGroup {g : Group Counter} {subject : Subject} (name : String) (time : Float)
    (hg : g.members = k.battery subject Kind.standard 0) (hu : u.reads = 0) :
    (Record.ofGroup name time g : Meter Record).Does k u
      (· = Record.ofCounts name time (k.counts 0 14))
      { u with reads := k.grants 14 } (k.readout Kind.standard 0) := by
  have hkinds : g.kinds = Kind.standard := by
    rw [Group.kinds, hg]
    exact Kernel.kinds_battery subject Kind.standard 0
  have hget : ∀ c ∈ k.battery subject Kind.standard 0, g.get c.kind = some c := by
    intro c hc
    refine Group.get_kind_of_mem ?_ (hg ▸ hc)
    rw [hkinds]
    decide
  rw [Record.ofGroup_eq_mapM]
  exact (Group.does_retrieve_battery hget hu).map fun _ h => congrArg _ h

/-! ### Reading the clock -/

section Clock

variable {α : Type} {t : Timestamp} {e : Errno} {source : Source}

theorem Timestamp.does_now (f : Timestamp → α) (h : k.clockAt u.clocks = .done t) :
    (do return f (← Timestamp.now source) : Attempt α).run.Does k u (· = .ok (f t))
      { u with clocks := u.clocks + 1 } [.clock source (.done t)] := by
  have hnow : (Timestamp.now source).run.Does k u (· = .ok t) _ _ :=
    h ▸ Does.ofReply (Meter.does_readClock source)
  exact hnow.ok (.return rfl)

theorem Timestamp.does_now_refused (f : Timestamp → α) (h : k.clockAt u.clocks = .failed e) :
    (do return f (← Timestamp.now source) : Attempt α).run.Does k u
      (· = .error (.clock source (.os e))) { u with clocks := u.clocks + 1 }
      [.clock source (.failed e)] := by
  have hnow : (Timestamp.now source).run.Does k u (· = .error (.clock source (.os e))) _ _ :=
    h ▸ Does.ofReply (Meter.does_readClock source)
  exact hnow.stop rfl

theorem IntervalClock.does_start (c : IntervalClock) :
    c.start.Does k u
      (· = match k.clockAt u.clocks with
        | .done t => (.ok t, { c with startTime := t })
        | .failed e => (.error (.clock c.source (.os e)), c))
      { u with clocks := u.clocks + 1 } [.clock c.source (k.clockAt u.clocks)] :=
  Meter.does_request c.start_after rfl

end Clock

/-! ### Reporting -/

/-- How a stopped battery is reported, and what that leaves: the record of its counts after
`reading`, unless the time has no number. -/
def Kernel.reported (k : Kernel) (r : Resolution) (name : String) (start stop : Timestamp)
    (reading : List Entry) : Except Failure Record × List Entry :=
  match r.between start stop with
  | .ok time => (.ok (.ofCounts name time (k.counts 0 14)), reading)
  | .error f => (.error (.fault f), [])

theorem Trial.does_report {g : Group Counter} {subject : Subject} {s : Settings} {name : String}
    {clock : IntervalClock} (hg : g.members = k.battery subject Kind.standard 0)
    (hu : u.reads = 0) :
    let report := k.reported s.resolution name clock.startTime clock.stopTime
      (k.readout Kind.standard 0)
    (Trial.report s name clock g).run.Does k u (· = report.1)
      { u with reads := if report.1.toBool then k.grants 14 else 0 } report.2 := by
  unfold Kernel.reported Trial.report IntervalClock.elapsed IntervalClock.elapsedTo
  cases s.resolution.between clock.startTime clock.stopTime with
  | error f => exact hu ▸ .pure rfl
  | ok time => exact (Record.does_ofGroup name time hg hu).map fun _ h => congrArg _ h

/-! ### Phases without their log -/

theorem mute_closeCalls (fds : List Fd) : Mute (closeCalls fds) := by
  intro e he
  obtain ⟨fd, -, rfl⟩ := List.mem_map.mp he
  rfl

namespace Kernel

variable (k : Kernel)

theorem mute_startCalls (fds : List Fd) (j : ℕ) : Mute (k.startCalls fds j) := by
  induction fds generalizing j with
  | nil => exact .nil
  | cons fd fds ih =>
    unfold startCalls
    split
    · exact .cons rfl (.cons rfl (ih (j + 2)))
    · exact .cons rfl (ih (j + 1))

theorem mute_stopCalls (fds : List Fd) (j : ℕ) : Mute (k.stopCalls fds j) := by
  intro e he
  obtain ⟨p, -, rfl⟩ := List.mem_map.mp he
  rfl

theorem calls_openCalls (pid : Pid) (kinds : List Kind) (i : ℕ) :
    calls (k.openCalls pid kinds i) = k.openCalls pid kinds i := by
  refine List.filter_eq_self.mpr fun e he => ?_
  obtain ⟨p, -, rfl⟩ := List.mem_map.mp he
  rfl

/-- Without its line, a counter that is read leaves the read of its descriptor. -/
theorem calls_readoutAt (kind : Kind) (i : ℕ) :
    calls (k.readoutAt kind i) = k.readCalls (k.fdAt i).toList (k.grants i) := by
  have hlines : calls ((kind.zeroLines (k.resultAt i)).map .log) = [] := by
    refine List.filter_eq_nil_iff.mpr fun e he => ?_
    obtain ⟨line, -, rfl⟩ := List.mem_map.mp he
    exact Bool.false_ne_true
  rw [readoutAt, calls_append, hlines, List.append_nil]
  cases k.fdAt i with
  | none => rfl
  | some fd => rfl

/-- Without the lines of the counters, a battery that is read leaves one read for each grant. -/
theorem calls_readout (kinds : List Kind) (i : ℕ) :
    calls (k.readout kinds i) = k.readCalls (k.descriptors i kinds.length) (k.grants i) := by
  induction kinds generalizing i with
  | nil => rfl
  | cons kind kinds ih =>
    have hcons : k.readout (kind :: kinds) i = k.readoutAt kind i ++ k.readout kinds (i + 1) := rfl
    rw [hcons, calls_append, ih, calls_readoutAt, List.length_cons, descriptors_succ]
    cases h : k.fdAt i with
    | none =>
      rw [k.grants_succ_of_none h]
      rfl
    | some fd =>
      rw [k.grants_succ_of_some h]
      rfl

variable {r : Resolution} {name : String} {start stop : Timestamp} (reading : List Entry)

theorem calls_reported :
    calls (k.reported r name start stop reading).2 =
      (k.reported r name start stop (calls reading)).2 := by
  unfold reported
  cases r.between start stop with
  | ok time => rfl
  | error f => rfl

/-- The outcome of a report does not depend on what is left when the counters are read. -/
theorem fst_reported (reading' : List Entry) :
    (k.reported r name start stop reading).1 = (k.reported r name start stop reading').1 := by
  unfold reported
  cases r.between start stop with
  | ok time => rfl
  | error f => rfl

end Kernel

end TrialMeter
