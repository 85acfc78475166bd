import TrialMeter.Proofs.Trial.External
import TrialMeter.Proofs.Trial.InProcess

/-!
# What a record tells of a trace

A record of the full battery names no descriptor and no position, so it has to be told from the
trace which answer stands in which place of it. A counter that was refused is not read; so the count
in place `i` is the answer of the read whose number is that of the grants before the request `i`,
and every refusal moves the reads after it by one.

A trial that ends in a record leaves, apart from entries that say nothing about counters or time,
the same entries whatever its kind: three samples of the clock, with the battery opened before the
second and read after the third. What the record tells of the trace is read off this form.

## Main definitions

* `resultIn`: what a counter is read as, told from a trace.
* `Record.Tells`: a record tells what a trace holds.
* `Kernel.Completes`: what is left by a trial that ends in a record.

## Main results

* `Kernel.Completes.tells`: a record tells what its trial has left.
* `Kernel.completes_benchmarked`, `Kernel.completes_programBenchmarked`: the courses that end in a
  record.
-/

namespace TrialMeter

/-- Whether a request was done. -/
def Reply.isDone {α : Type} : Reply α → Bool
  | done _ => true
  | failed _ => false

/-- What the counter that was asked for after `i` others is read as, as a trace tells it: a counter
that was granted has the read whose number is that of the grants before it. -/
def resultIn (trace : List Entry) (i : ℕ) : Except Error UInt64 :=
  let replies := trace.filterMap Entry.openReply?
  let deliveries := trace.filterMap Entry.delivery?
  match replies[i]? with
  | some (.done _) => (deliveries.getD ((replies.take i).countP Reply.isDone) (.short 0)).result
  | _ => .error .notOpen

/-- A record of the full battery tells what a trace holds. -/
structure Record.Tells (r : Record) (resolution : Resolution) (trace : List Entry) : Prop where
  /-- The clock is sampled three times, and the time lies between the last two samples. -/
  time : ∃ first start stop,
    trace.filterMap Entry.clockReply? = [.done first, .done start, .done stop] ∧
      resolution.between start stop = .ok r.time
  /-- A counter is asked for once for each standard kind, in order. -/
  kinds : trace.filterMap Entry.attr? = Kind.standard.map Kind.attr
  /-- There is one read for each grant. -/
  reads : (trace.filterMap Entry.delivery?).length =
    (trace.filterMap Entry.openReply?).countP Reply.isDone
  /-- The counts are what the counters are read as, and zero for those that cannot be read. -/
  counters : r.counters = (List.range 14).map fun i => (resultIn trace i).toOption.getD 0
  /-- Each counter that cannot be read says so once, and no other counter speaks. -/
  lines : trace.filterMap Entry.counterLine? =
    Kind.standard.zipIdx.flatMap fun p => p.1.zeroLines (resultIn trace p.2)

/-- What looks at no more than the places of a list gives one value for each place. -/
theorem filterMap_zipIdx_snd {α β : Type} (g : ℕ → β) (l : List α) (i : ℕ) :
    (l.zipIdx i).filterMap (fun p => some (g p.2)) = (List.range' i l.length).map g := by
  have hsnd : (fun p : α × ℕ => g p.2) = g ∘ Prod.snd := rfl
  rw [List.filterMap_eq_map', hsnd, ← List.map_map, List.zipIdx_map_snd]

namespace Kernel

variable (k : Kernel)

theorem filterMap_openCalls {α : Type} (f : Entry → Option α) (pid : Pid) (kinds : List Kind)
    (i : ℕ) :
    (k.openCalls pid kinds i).filterMap f = (kinds.zipIdx i).filterMap fun p =>
      f (.counter p.1.attr pid (-1) (-1) closeOnExec (k.openAt p.2)) := by
  rw [openCalls, List.filterMap_map]
  rfl

theorem openReplies_openCalls (pid : Pid) (kinds : List Kind) (i : ℕ) :
    (k.openCalls pid kinds i).filterMap Entry.openReply? =
      (List.range' i kinds.length).map k.openAt :=
  (k.filterMap_openCalls _ pid kinds i).trans (filterMap_zipIdx_snd k.openAt kinds i)

theorem attrs_openCalls (pid : Pid) (kinds : List Kind) (i : ℕ) :
    (k.openCalls pid kinds i).filterMap Entry.attr? = kinds.map Kind.attr := by
  have hattr : (fun p : Kind × ℕ => p.1.attr) = Kind.attr ∘ Prod.fst := rfl
  calc (k.openCalls pid kinds i).filterMap Entry.attr?
      = (kinds.zipIdx i).filterMap fun p => some p.1.attr := k.filterMap_openCalls _ pid kinds i
    _ = kinds.map Kind.attr := by
      rw [List.filterMap_eq_map', hattr, ← List.map_map, List.zipIdx_map_fst]

theorem openCalls_eq_nil {α : Type} {f : Entry → Option α}
    (hf : ∀ attr pid cpu group flags reply, f (.counter attr pid cpu group flags reply) = none)
    (pid : Pid) (kinds : List Kind) (i : ℕ) : (k.openCalls pid kinds i).filterMap f = [] := by
  rw [filterMap_openCalls]
  exact List.filterMap_eq_nil_iff.mpr fun p _ => hf ..

/-- The reads of a battery deliver the first answers, as many as there are grants. -/
theorem deliveries_readout (kinds : List Kind) (i : ℕ) :
    (k.readout kinds i).filterMap Entry.delivery? =
      (List.range' (k.grants i) (k.descriptors i kinds.length).length).map k.readAt := by
  have hcalls : (calls (k.readout kinds i)).filterMap Entry.delivery? =
      (k.readout kinds i).filterMap Entry.delivery? := by
    rw [calls, List.filterMap_filter]
    refine List.filterMap_congr fun e _ => ?_
    cases e with
    | log line => rfl
    | _ => rfl
  rw [← hcalls, k.calls_readout, readCalls, List.filterMap_map]
  exact filterMap_zipIdx_snd k.readAt _ _

theorem counterLines_readout (kinds : List Kind) (i : ℕ) :
    (k.readout kinds i).filterMap Entry.counterLine? = k.zeroLines kinds i := by
  have hplace : ∀ p : Kind × ℕ, (k.readoutAt p.1 p.2).filterMap Entry.counterLine? =
      p.1.zeroLines (k.resultAt p.2) := by
    intro p
    have hread : ((k.fdAt p.2).map fun fd =>
        Entry.read fd 8 (k.readAt (k.grants p.2))).toList.filterMap Entry.counterLine? = [] := by
      cases k.fdAt p.2 with
      | none => rfl
      | some fd => rfl
    rw [readoutAt, List.filterMap_append, hread, List.nil_append, List.filterMap_map]
    cases k.resultAt p.2 with
    | ok value => rfl
    | error e => rfl
  simp only [readout, List.filterMap_flatMap, hplace, zeroLines]

/-- What is left when counters are read is a read or a line of a counter. -/
theorem mem_readout {kinds : List Kind} {i : ℕ} {e : Entry} (h : e ∈ k.readout kinds i) :
    (∃ fd delivery, e = .read fd 8 delivery) ∨
      ∃ kind : Kind, ∃ err, e = .log (kind.zeroLine err) := by
  obtain ⟨p, -, hp⟩ := List.mem_flatMap.mp h
  rcases List.mem_append.mp hp with hread | hline
  · obtain ⟨fd, -, rfl⟩ := Option.map_eq_some_iff.mp (Option.mem_toList.mp hread)
    exact .inl ⟨fd, _, rfl⟩
  · obtain ⟨line, hmem, rfl⟩ := List.mem_map.mp hline
    cases hresult : k.resultAt p.2 with
    | ok value =>
      rw [hresult] at hmem
      exact absurd hmem List.not_mem_nil
    | error err =>
      rw [hresult] at hmem
      exact .inr ⟨p.1, err, by rw [List.mem_singleton.mp hmem]⟩

theorem readout_eq_nil {α : Type} {f : Entry → Option α}
    (hread : ∀ fd bytes delivery, f (.read fd bytes delivery) = none)
    (hlog : ∀ line, f (.log line) = none) (kinds : List Kind) (i : ℕ) :
    (k.readout kinds i).filterMap f = [] := by
  refine List.filterMap_eq_nil_iff.mpr fun e he => ?_
  rcases k.mem_readout he with ⟨fd, delivery, rfl⟩ | ⟨kind, err, rfl⟩
  · exact hread fd 8 delivery
  · exact hlog _

/-- There are as many descriptors as grants. -/
theorem length_descriptors (n : ℕ) : (k.descriptors 0 n).length = k.grants n := by
  rw [descriptors, List.length_filterMap_eq_countP, grants, List.range_eq_range']
  refine List.countP_congr fun i _ => ?_
  rw [decide_eq_true_eq]
  exact k.isSome_fdAt i

/-- The number of grants is that of the requests that were done. -/
theorem countP_isDone (n : ℕ) : ((List.range n).map k.openAt).countP Reply.isDone = k.grants n := by
  rw [List.countP_map, grants]
  refine List.countP_congr fun i _ => ?_
  rw [decide_eq_true_eq, ← k.isSome_fdAt i, Function.comp_apply, fdAt]
  cases k.openAt i with
  | done fd => exact iff_of_true rfl rfl
  | failed errno => exact iff_of_false Bool.false_ne_true Bool.false_ne_true

/-- Requests only add grants. -/
theorem grants_mono {i j : ℕ} (h : i ≤ j) : k.grants i ≤ k.grants j :=
  (List.range_sublist.mpr h).countP_le

/-! ### A trial that ends in a record -/

/-- What is left between the opening of a battery and its release by a trial that ends in the record
`r`: two samples of the clock, then the battery read, and apart from these only mute entries. -/
inductive Samples (s : Settings) : Record → List Entry → Prop where
  | intro (name : String) {time : Float} {start stop : Timestamp} {between after : List Entry}
    (hbetween : Mute between) (hafter : Mute after)
    (htime : s.resolution.between start stop = .ok time) :
    Samples s (.ofCounts name time (k.counts 0 14))
      ([.clock s.source (.done start)] ++ (between ++ ([.clock s.source (.done stop)] ++
        (after ++ k.readout Kind.standard 0))))

/-- What is left by a trial that ends in the record `r`: a sample of the clock, then the battery
opened, and apart from these and from what is left until its release only mute entries. -/
inductive Completes (s : Settings) : Record → List Entry → Prop where
  | intro (first : Timestamp) (pid : Pid) {r : Record} {before es closing : List Entry}
    (hbefore : Mute before) (hes : k.Samples s r es) (hclosing : Mute closing) :
    Completes s r ([.clock s.source (.done first)] ++ (before ++
      (k.openCalls pid Kind.standard 0 ++ (es ++ closing))))

variable {k} {s : Settings} {r : Record} {es trace : List Entry}

theorem Completes.counters_eq (h : k.Completes s r es) : r.counters = k.counts 0 14 := by
  obtain ⟨-, -, -, ⟨-, -, -, -⟩, -⟩ := h
  refine Record.counters_ofCounts _ _ ?_
  rw [counts, List.length_map, List.length_range']

/-- What is read off a trace with `resultIn` is what the kernel has the counters read as. -/
theorem resultIn_eq {i : ℕ} (hi : i < 14)
    (hopens : trace.filterMap Entry.openReply? = (List.range 14).map k.openAt)
    (hreads : trace.filterMap Entry.delivery? = (List.range (k.grants 14)).map k.readAt) :
    resultIn trace i = k.resultAt i := by
  have hopen : ((List.range 14).map k.openAt)[i]? = some (k.openAt i) := by
    rw [List.getElem?_map, List.getElem?_range hi, Option.map_some]
  have hplace : (((List.range 14).map k.openAt).take i).countP Reply.isDone = k.grants i := by
    rw [← List.map_take, List.take_range, Nat.min_eq_left (Nat.le_of_lt hi), countP_isDone]
  unfold resultIn resultAt fdAt
  rw [hopens, hreads]
  simp only [hopen, hplace]
  cases h : k.openAt i with
  | failed errno => rfl
  | done fd =>
    have hlt : k.grants i < k.grants 14 := by
      have hfd : k.fdAt i = some fd := by rw [fdAt, h]
      have hsucc : k.grants (i + 1) = k.grants i + 1 := k.grants_succ_of_some hfd
      have hmono : k.grants (i + 1) ≤ k.grants 14 := k.grants_mono hi
      omega
    have hread : ((List.range (k.grants 14)).map k.readAt).getD (k.grants i) (.short 0) =
        k.readAt (k.grants i) := by
      rw [List.getD_eq_getElem?_getD, List.getElem?_map, List.getElem?_range hlt]
      rfl
    simp only [hread]

/-- What a trace tells that ends in a record: its samples, its requests and its reads. -/
theorem Completes.filterMap_eq (h : k.Completes s r es)
    (hes : trace.filter Entry.isObserved = es) :
    ∃ first start stop pid, s.resolution.between start stop = .ok r.time ∧
      ∀ {α : Type} {f : Entry → Option α}, Telling f → trace.filterMap f =
        (f (.clock s.source (.done first))).toList ++
          (k.openCalls pid Kind.standard 0).filterMap f ++
          (f (.clock s.source (.done start))).toList ++
          (f (.clock s.source (.done stop))).toList ++
          (k.readout Kind.standard 0).filterMap f := by
  obtain ⟨first, pid, hbefore, hsamples, hclosing⟩ := h
  obtain @⟨name, time, start, stop, between, after, hbetween, hafter, htime⟩ := hsamples
  refine ⟨first, start, stop, pid, ?_, fun {α f} hf => ?_⟩
  · rw [Record.ofCounts_time]
    exact htime
  · have hsingle : ∀ e : Entry, [e].filterMap f = (f e).toList := by
      intro e
      cases hfe : f e with
      | none => exact List.filterMap_cons_none hfe
      | some a => exact List.filterMap_cons_some hfe
    rw [← hf.filterMap_filter, hes]
    simp only [List.filterMap_append, hsingle, hf.filterMap_mute hbefore,
      hf.filterMap_mute hbetween, hf.filterMap_mute hafter, hf.filterMap_mute hclosing,
      List.append_nil, List.nil_append, List.append_assoc]

/-- The record at the end of a course tells what the course holds. -/
theorem Completes.tells (h : k.Completes s r es) (hes : trace.filter Entry.isObserved = es) :
    r.Tells s.resolution trace := by
  obtain ⟨first, start, stop, pid, htime, hcut⟩ := h.filterMap_eq hes
  have hclock : trace.filterMap Entry.clockReply? = [.done first, .done start, .done stop] := by
    rw [hcut telling_clockReply, k.openCalls_eq_nil (fun _ _ _ _ _ _ => rfl),
      k.readout_eq_nil (fun _ _ _ => rfl) (fun _ => rfl)]
    rfl
  have hattr : trace.filterMap Entry.attr? = Kind.standard.map Kind.attr := by
    rw [hcut telling_attr, k.attrs_openCalls,
      k.readout_eq_nil (fun _ _ _ => rfl) (fun _ => rfl)]
    simp only [Entry.attr?, Option.toList_none, List.nil_append, List.append_nil]
  have hopens : trace.filterMap Entry.openReply? = (List.range 14).map k.openAt := by
    rw [hcut telling_openReply, k.openReplies_openCalls,
      k.readout_eq_nil (fun _ _ _ => rfl) (fun _ => rfl), List.range_eq_range']
    simp only [Entry.openReply?, Option.toList_none, List.nil_append, List.append_nil]
    rfl
  have hreads : trace.filterMap Entry.delivery? = (List.range (k.grants 14)).map k.readAt := by
    have hlength : (k.descriptors 0 Kind.standard.length).length = k.grants 14 :=
      k.length_descriptors 14
    have hzero : k.grants 0 = 0 := rfl
    rw [hcut telling_delivery, k.openCalls_eq_nil (fun _ _ _ _ _ _ => rfl),
      k.deliveries_readout, hlength, hzero, List.range_eq_range']
    simp only [Entry.delivery?, Option.toList_none, List.nil_append]
  have hlines : trace.filterMap Entry.counterLine? = k.zeroLines Kind.standard 0 := by
    have hsample : ∀ reply, Entry.counterLine? (.clock s.source reply) = none := fun _ => rfl
    rw [hcut telling_counterLine, k.openCalls_eq_nil (fun _ _ _ _ _ _ => rfl),
      k.counterLines_readout, hsample, hsample, hsample, Option.toList_none, List.append_nil,
      List.append_nil, List.append_nil, List.nil_append]
  have hresult : ∀ i < 14, resultIn trace i = k.resultAt i := fun i hi =>
    resultIn_eq hi hopens hreads
  refine ⟨⟨first, start, stop, hclock, htime⟩, hattr, ?_, ?_, ?_⟩
  · rw [hopens, hreads, countP_isDone, List.length_map, List.length_range]
  · rw [h.counters_eq, counts, ← List.range_eq_range']
    refine List.map_congr_left fun i hi => ?_
    rw [hresult i (List.mem_range.mp hi), countAt]
  · rw [hlines, zeroLines]
    refine List.flatMap_congr fun p hp => ?_
    rw [hresult p.2 (List.snd_lt_of_mem_zipIdx hp)]

theorem reported_ok {resolution : Resolution} {name : String} {start stop : Timestamp}
    {reading : List Entry} (h : (k.reported resolution name start stop reading).1 = .ok r) :
    ∃ time, resolution.between start stop = .ok time ∧ r = .ofCounts name time (k.counts 0 14) ∧
      (k.reported resolution name start stop reading).2 = reading := by
  unfold reported at h ⊢
  cases htime : resolution.between start stop with
  | error fault =>
    rw [htime] at h
    exact absurd h nofun
  | ok time =>
    rw [htime] at h
    exact ⟨time, rfl, (Except.ok.inj h).symm, rfl⟩

theorem samples_sampled {work : Workload}
    (h : (k.sampled s work (k.readout Kind.standard 0)).1 = .ok r) :
    k.Samples s r (k.sampled s work (k.readout Kind.standard 0)).2 := by
  have hwork : Mute [.work work] := .cons rfl .nil
  have hstarts : Mute (k.startCalls (k.descriptors 0 14) 0) := k.mute_startCalls _ _
  have hstops : Mute (k.stopCalls (k.descriptors 0 14)
    (k.startCalls (k.descriptors 0 14) 0).length) := k.mute_stopCalls _ _
  unfold sampled at h ⊢
  cases h₁ : k.clockAt 1 with
  | failed e =>
    rw [h₁] at h
    exact absurd h nofun
  | done start =>
    cases h₂ : k.clockAt 2 with
    | failed e =>
      rw [h₁, h₂] at h
      exact absurd h nofun
    | done stop =>
      rw [h₁, h₂] at h
      obtain ⟨time, htime, rfl, hreading⟩ := reported_ok h
      have hsamples := Samples.intro (k := k) s.name (hstarts.append hwork) hstops htime
      rw [List.append_assoc] at hsamples
      simp only [hreading]
      exact hsamples

theorem samples_watched {program : String} {args : List String} {pid : Pid}
    (h : (k.watched s program args pid (k.readout Kind.standard 0)).1 = .ok r) :
    k.Samples s r (k.watched s program args pid (k.readout Kind.standard 0)).2 := by
  have hstarts : Mute (k.startCalls (k.descriptors 0 14) 0) := k.mute_startCalls _ _
  have hwaits : Mute (k.waitCalls pid 0) := k.mute_waitCalls pid 0
  have hstops : Mute (k.stopCalls (k.descriptors 0 14)
    (k.startCalls (k.descriptors 0 14) 0).length) := k.mute_stopCalls _ _
  unfold watched at h ⊢
  cases h₁ : k.clockAt 1 with
  | failed e =>
    rw [h₁] at h
    exact absurd h nofun
  | done start =>
    cases hwait : k.waited 0 with
    | failed e =>
      rw [h₁, hwait] at h
      exact absurd h nofun
    | done status =>
      cases h₂ : k.clockAt 2 with
      | failed e =>
        rw [h₁, hwait, h₂] at h
        exact absurd h nofun
      | done stop =>
        rw [h₁, hwait, h₂] at h
        obtain ⟨time, htime, rfl, hreading⟩ := reported_ok h
        have hsamples := Samples.intro (k := k) (Child.invocation program args)
          (hstarts.append hwaits) hstops htime
        rw [List.append_assoc] at hsamples
        simp only [hreading]
        exact hsamples

theorem completes_benchmarked {work : Workload}
    (h : (k.benchmarked s work (k.readout Kind.standard 0)).1 = .ok r) :
    k.Completes s r (k.benchmarked s work (k.readout Kind.standard 0)).2 := by
  unfold benchmarked at h ⊢
  cases h₀ : k.clockAt 0 with
  | failed e =>
    rw [h₀] at h
    exact absurd h nofun
  | done first =>
    rw [h₀] at h
    exact .intro first 0 .nil (samples_sampled h) (mute_closeCalls _)

theorem completes_programBenchmarked {program : String} {args : List String}
    (h : (k.programBenchmarked s program args (k.readout Kind.standard 0)).1 = .ok r) :
    k.Completes s r (k.programBenchmarked s program args (k.readout Kind.standard 0)).2 := by
  unfold programBenchmarked at h ⊢
  cases h₀ : k.clockAt 0 with
  | failed e =>
    rw [h₀] at h
    exact absurd h nofun
  | done first =>
    cases hargs : Child.checkArguments (program :: args) with
    | error e =>
      rw [h₀, hargs] at h
      exact absurd h nofun
    | ok checked =>
      cases hattr : k.childAttrAt 0 with
      | failed e =>
        rw [h₀, hargs, hattr] at h
        exact absurd h nofun
      | done set =>
        cases hchild : k.childAt 0 with
        | failed e =>
          rw [h₀, hargs, hattr, hchild] at h
          exact absurd h nofun
        | done pid =>
          rw [h₀, hargs, hattr, hchild] at h
          have hbefore :
              Mute [.childAttr (.done ()), .child program (program :: args) (.done pid)] :=
            .cons rfl (.cons rfl .nil)
          exact .intro first pid hbefore (samples_watched h) (mute_closeCalls _)

end Kernel

end TrialMeter
