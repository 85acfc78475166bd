import Mathlib.Data.List.Nodup
import TrialMeter.Event.Kind
import TrialMeter.Time.Resolution
import TrialMeter.Time.Source

/-!
# What attributes tell

The kernel is told what to count by a family, a configuration word and a word of flags. Different
kinds are told differently: the family and the configuration give the event, and the modes that are
left out give the domain. So the request for a counter can be read back, and no two of the standard
kinds are asked for alike. Names and codes are read back in the same way.

## Main results

* `HardwareEvent.ofName?_name`, `HardwareEvent.getElem?_code`, …: names and codes are read back.
* `CacheEvent.config_bytes`: the three bytes of the configuration of a cache event.
* `Event.eq_of_config`: an event by its family and its configuration.
* `Attr.contains_flags_ofEvent`, `Domain.contains_exclusions`: the flags.
* `Attr.ofEvent_inj`, `Kind.attr_injective`: different kinds are asked for differently.
* `Kind.mem_presetNames_iff`, `Kind.standardIndex?_eq_some_iff`, `Ratio.mem_stepNames_iff`: the
  tables of named constants.
-/

namespace TrialMeter

/-- What can be read back is told apart. -/
theorem injective_of_read {α β : Type} {f : α → β} (read : β → Option α)
    (h : ∀ a, read (f a) = some a) : Function.Injective f := fun a b hab =>
  Option.some.inj ((h a).symm.trans ((congrArg read hab).trans (h b)))

/-! ### Names and codes -/

namespace HardwareEvent

theorem ofName?_name (e : HardwareEvent) : ofName? e.name = some e := by
  cases e <;> decide

/-- The code of an event is its place. -/
theorem getElem?_code (e : HardwareEvent) : all[e.code.toNat]? = some e := by
  cases e <;> rfl

theorem code_injective : Function.Injective code :=
  injective_of_read (fun code => all[code.toNat]?) getElem?_code

theorem name_injective : Function.Injective name := injective_of_read ofName? ofName?_name

end HardwareEvent

namespace SoftwareEvent

theorem ofName?_name (e : SoftwareEvent) : ofName? e.name = some e := by
  cases e <;> decide

/-- The code of an event is its place. -/
theorem getElem?_code (e : SoftwareEvent) : all[e.code.toNat]? = some e := by
  cases e <;> rfl

theorem code_injective : Function.Injective code :=
  injective_of_read (fun code => all[code.toNat]?) getElem?_code

theorem name_injective : Function.Injective name := injective_of_read ofName? ofName?_name

end SoftwareEvent

namespace Cache

theorem ofName?_name (c : Cache) : ofName? c.name = some c := by
  cases c <;> decide

/-- The code of a cache is its place. -/
theorem getElem?_code (c : Cache) : all[c.code.toNat]? = some c := by
  cases c <;> rfl

theorem code_injective : Function.Injective code :=
  injective_of_read (fun code => all[code.toNat]?) getElem?_code

theorem name_injective : Function.Injective name := injective_of_read ofName? ofName?_name

end Cache

namespace CacheOperation

theorem ofName?_name (o : CacheOperation) : ofName? o.name = some o := by
  cases o <;> decide

/-- The code of an operation is its place. -/
theorem getElem?_code (o : CacheOperation) : all[o.code.toNat]? = some o := by
  cases o <;> rfl

theorem code_injective : Function.Injective code :=
  injective_of_read (fun code => all[code.toNat]?) getElem?_code

theorem name_injective : Function.Injective name := injective_of_read ofName? ofName?_name

end CacheOperation

namespace CacheResult

theorem ofName?_name (r : CacheResult) : ofName? r.name = some r := by
  cases r <;> decide

/-- The code of a result is its place. -/
theorem getElem?_code (r : CacheResult) : all[r.code.toNat]? = some r := by
  cases r <;> rfl

theorem code_injective : Function.Injective code :=
  injective_of_read (fun code => all[code.toNat]?) getElem?_code

theorem name_injective : Function.Injective name := injective_of_read ofName? ofName?_name

end CacheResult

theorem Source.ofName?_name (s : Source) : ofName? s.name = some s := by
  cases s <;> decide

namespace Domain

theorem ofText?_text (d : Domain) : ofText? d.text = some d := by
  cases d <;> decide

theorem text_injective : Function.Injective text := injective_of_read ofText? ofText?_text

end Domain

namespace Resolution

theorem ofName?_name (r : Resolution) : ofName? r.name = some r := by
  cases r <;> decide

/-- The symbol of a unit asks for that unit. -/
theorem parse_suffix (r : Resolution) : parse r.suffix = .ok r := by
  cases r <;> rfl

end Resolution

/-! ### Configurations -/

/-- The word of a cache event is made of three bytes. -/
theorem CacheEvent.config_bytes (e : CacheEvent) :
    e.config &&& 0xff = e.cache.code ∧ (e.config >>> 8) &&& 0xff = e.operation.code ∧
      e.config >>> 16 = e.result.code := by
  obtain ⟨cache, operation, result⟩ := e
  cases cache <;> cases operation <;> cases result <;> exact ⟨rfl, rfl, rfl⟩

theorem CacheEvent.config_injective : Function.Injective config := by
  rintro ⟨cache, operation, result⟩ ⟨cache', operation', result'⟩ h
  obtain ⟨hcache, hoperation, hresult⟩ := config_bytes ⟨cache, operation, result⟩
  obtain ⟨hcache', hoperation', hresult'⟩ := config_bytes ⟨cache', operation', result'⟩
  rw [h] at hcache hoperation hresult
  obtain rfl := Cache.code_injective (hcache.symm.trans hcache')
  obtain rfl := CacheOperation.code_injective (hoperation.symm.trans hoperation')
  obtain rfl := CacheResult.code_injective (hresult.symm.trans hresult')
  rfl

namespace Event

/-- The family of an event is read back from its number. -/
theorem ofId_id_family (e : Event) : Family.ofId e.family.id = e.family := by
  cases e <;> rfl

/-- An event is known by its family and its configuration. -/
theorem eq_of_config {a b : Event} (hfamily : a.family = b.family) (hconfig : a.config = b.config) :
    a = b := by
  cases a with
  | hardware a =>
    cases b with
    | hardware b => exact congrArg hardware (HardwareEvent.code_injective hconfig)
    | software b => exact absurd hfamily nofun
    | cache b => exact absurd hfamily nofun
  | software a =>
    cases b with
    | hardware b => exact absurd hfamily nofun
    | software b => exact congrArg software (SoftwareEvent.code_injective hconfig)
    | cache b => exact absurd hfamily nofun
  | cache a =>
    cases b with
    | hardware b => exact absurd hfamily nofun
    | software b => exact absurd hfamily nofun
    | cache b => exact congrArg cache (CacheEvent.config_injective hconfig)

end Event

/-! ### Flags -/

namespace Flags

variable (s t : Flags) (f : Flag)

theorem contains_eq_false : s.contains f = false ↔ s.bits &&& f.bit = 0 :=
  bne_eq_false_iff_eq

theorem contains_union : (s ∪ t).contains f = (s.contains f || t.contains f) := by
  have hbits : (s ∪ t).bits &&& f.bit = s.bits &&& f.bit ||| t.bits &&& f.bit :=
    UInt64.toBitVec_inj.mp BitVec.and_or_distrib_right
  rw [Bool.eq_iff_iff, ← not_iff_not, Bool.not_eq_true, Bool.not_eq_true, Bool.or_eq_false_iff,
    contains_eq_false, contains_eq_false, contains_eq_false, hbits, UInt64.or_eq_zero_iff]

/-- Different flags have different bits. -/
theorem contains_bit (g : Flag) : contains ⟨g.bit⟩ f ↔ f = g := by
  cases f <;> cases g <;> decide

/-- A list of flags gives the set of its members. -/
theorem contains_ofList (flags : List Flag) : (ofList flags).contains f ↔ f ∈ flags := by
  have hfrom (bits : UInt64) : contains ⟨flags.foldl (fun bits f => bits ||| f.bit) bits⟩ f ↔
      contains ⟨bits⟩ f ∨ f ∈ flags := by
    induction flags generalizing bits with
    | nil => exact (or_iff_left List.not_mem_nil).symm
    | cons g flags ih =>
      rw [List.foldl_cons, ih, List.mem_cons, ← or_assoc, ← contains_bit, ← Bool.or_eq_true,
        ← contains_union]
      rfl
  have hnone : ¬contains ⟨0⟩ f := Bool.eq_false_iff.mp ((contains_eq_false _ f).mpr UInt64.zero_and)
  exact (hfrom 0).trans (or_iff_right hnone)

/-- No flag of a word is dropped. -/
theorem contains_ofWord (word : UInt64) : (ofWord word).contains f = contains ⟨word⟩ f := by
  have hall : all.bits &&& f.bit = f.bit := by cases f <;> rfl
  rw [contains, ofWord, UInt64.and_assoc, hall, contains]

end Flags

/-- The modes that a domain leaves out are those it does not observe, except that events that are
not of the processor leave the hypervisor out even when every mode is asked for. -/
theorem Domain.contains_exclusions (d : Domain) (family : Family) :
    ((d.exclusions family).contains .excludeUser ↔ d = .kernel ∨ d = .hypervisor) ∧
    ((d.exclusions family).contains .excludeKernel ↔ d = .user ∨ d = .hypervisor) ∧
    ((d.exclusions family).contains .excludeHypervisor ↔
      d = .user ∨ d = .kernel ∨ d = .everything ∧ family ≠ .hardware) := by
  cases d with
  | everything => cases family <;> simp [exclusions, Flags.contains_ofList]
  | _ => simp [exclusions, Flags.contains_ofList]

namespace Attr

variable (event : Event) (domain : Domain)

theorem familyOf_ofEvent : (ofEvent event domain).familyOf = event.family := event.ofId_id_family

/-- A counter starts disabled and pinned, and leaves out what its domain leaves out. No other flag
is set. -/
theorem contains_flags_ofEvent (f : Flag) : (ofEvent event domain).flags.contains f ↔
    f = .disabled ∨ f = .pinned ∨ (domain.exclusions event.family).contains f := by
  have hflags : (ofEvent event domain).flags =
      .ofWord (Flags.ofList [.disabled, .pinned] ∪ domain.exclusions event.family).bits := rfl
  rw [hflags, Flags.contains_ofWord]
  change (Flags.ofList [.disabled, .pinned] ∪ domain.exclusions event.family).contains f ↔ _
  rw [Flags.contains_union, Bool.or_eq_true, Flags.contains_ofList, List.mem_pair, or_assoc]

/-- The attributes tell the event and the domain. -/
theorem ofEvent_inj {event event' : Event} {domain domain' : Domain} :
    ofEvent event domain = ofEvent event' domain' ↔ event = event' ∧ domain = domain' := by
  constructor
  · intro h
    have hfamily : event.family = event'.family := by
      rw [← familyOf_ofEvent event domain, h, familyOf_ofEvent]
    obtain rfl : event = event' := Event.eq_of_config hfamily (congrArg config h)
    refine ⟨rfl, ?_⟩
    have hflags (f : Flag) (hf : f ≠ .disabled ∧ f ≠ .pinned) :
        (domain.exclusions event.family).contains f ↔
          (domain'.exclusions event.family).contains f := by
      have hleft := contains_flags_ofEvent event domain f
      have hright := contains_flags_ofEvent event domain' f
      rw [h] at hleft
      simpa [hf.1, hf.2] using hleft.symm.trans hright
    obtain ⟨huser, hkernel, -⟩ := domain.contains_exclusions event.family
    obtain ⟨huser', hkernel', -⟩ := domain'.contains_exclusions event.family
    have husers := huser.symm.trans ((hflags .excludeUser (by decide)).trans huser')
    have hkernels := hkernel.symm.trans ((hflags .excludeKernel (by decide)).trans hkernel')
    revert husers hkernels
    cases domain <;> cases domain' <;> decide
  · rintro ⟨rfl, rfl⟩
    rfl

end Attr

/-! ### Kinds -/

/-- What is named once in a table is found there if and only if its value stands by its name. -/
theorem mem_names_iff_lookup {α : Type} [DecidableEq α] {table : List (String × α)}
    (h : (table.map Prod.fst).Nodup) {name : String} {a : α} :
    name ∈ (table.filter fun p => p.2 = a).map Prod.fst ↔ table.lookup name = some a := by
  have hmem : name ∈ (table.filter fun p => p.2 = a).map Prod.fst ↔ (name, a) ∈ table := by
    simp
  rw [hmem]
  induction table with
  | nil => exact iff_of_false List.not_mem_nil nofun
  | cons p table ih =>
    obtain ⟨key, value⟩ := p
    obtain ⟨hkey, hrest⟩ := List.nodup_cons.mp h
    rw [List.mem_cons, Prod.mk.injEq]
    by_cases hname : name = key
    · subst hname
      have hnot : (name, a) ∉ table := fun hmem => hkey (List.mem_map.mpr ⟨(name, a), hmem, rfl⟩)
      rw [List.lookup_cons_self, Option.some_inj]
      simp [hnot, eq_comm]
    · have hne : (name == key) = false := beq_eq_false_iff_ne.mpr hname
      rw [List.lookup_cons, hne]
      simp only [hname, false_and, false_or]
      exact ih hrest (by simp)

namespace Kind

theorem attr_injective : Function.Injective attr := by
  rintro ⟨event, domain⟩ ⟨event', domain'⟩ h
  obtain ⟨rfl, rfl⟩ := Attr.ofEvent_inj.mp h
  rfl

theorem nodup_standard : standard.Nodup := by decide

/-- No two standard kinds are asked for alike. -/
theorem nodup_map_attr_standard : (standard.map attr).Nodup :=
  List.Nodup.map attr_injective nodup_standard

theorem mem_presetNames_iff {k : Kind} {name : String} :
    name ∈ k.presetNames ↔ ofName? name = some k :=
  mem_names_iff_lookup (by decide)

/-- A kind stands at one place among the standard ones, if at any. -/
theorem standardIndex?_eq_some_iff {k : Kind} {i : ℕ} :
    k.standardIndex? = some i ↔ standard[i]? = some k := by
  rw [standardIndex?, List.findIdx?_eq_some_iff_getElem, List.getElem?_eq_some_iff]
  constructor
  · rintro ⟨hi, hk, -⟩
    exact ⟨hi, of_decide_eq_true hk⟩
  · rintro ⟨hi, rfl⟩
    refine ⟨hi, decide_eq_true rfl, fun j hji hj => ?_⟩
    exact Nat.ne_of_lt hji ((nodup_standard.getElem_inj_iff).mp (of_decide_eq_true hj))

end Kind

theorem Ratio.mem_stepNames_iff {r : Ratio} {name : String} :
    name ∈ r.stepNames ↔ step? name = some r :=
  mem_names_iff_lookup (by decide)

end TrialMeter
