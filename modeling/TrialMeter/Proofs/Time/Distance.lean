import Mathlib.Data.Int.Notation
import Mathlib.Tactic.SplitIfs
import TrialMeter.Time.Resolution

/-!
# Distances between timestamps

A distance is worked out on signed 64-bit words: the seconds are subtracted, then the nanoseconds,
and in nanoseconds the seconds are multiplied and the two parts added. Each of these operations may
give a result that no word holds, and the first one that does ends the computation, even where a
later result would fit again. A distance in nanoseconds that is worked out to the end is exact, so
its sign tells which timestamp is the later one, as long as their nanoseconds lie below one second.

## Main definitions

* `Timestamp.Normal`: the nanoseconds lie below one second.
* `Timestamp.sinceEpoch`: the exact number of nanoseconds since the epoch.

## Main results

* `Timestamp.nanosUntil_eq`, `Resolution.between_coarse`: the operations in their order.
* `Timestamp.compare_iff`: the order of timestamps is that of their distances.
* `Resolution.between_faults`: which distances end with a fault, and what the others are.
-/

namespace TrialMeter

namespace Fault

variable {x : ℤ}

theorem narrow_of_fits (h : Fits x) (overflow : Fault) :
    narrow overflow x = .ok (Int64.ofInt x) := if_pos h

theorem narrow_of_not_fits (h : ¬Fits x) (overflow : Fault) : narrow overflow x = .error overflow :=
  if_neg h

theorem toInt_ofInt_of_fits (h : Fits x) : (Int64.ofInt x).toInt = x :=
  Int64.toInt_ofInt_of_le h.1 (Int.lt_add_one_of_le h.2)

end Fault

open Fault (Fits narrow_of_fits narrow_of_not_fits toInt_ofInt_of_fits)

namespace Timestamp

variable (start stop : Timestamp)

/-- The exact number of seconds from `start` to `stop`. -/
def secsBetween : ℤ := stop.secs.toInt - start.secs.toInt

/-- The exact difference of the nanoseconds of `start` and `stop`. -/
def nanosBetween : ℤ := stop.nanos.toInt - start.nanos.toInt

/-- The exact number of nanoseconds since the epoch. -/
def sinceEpoch (t : Timestamp) : ℤ := t.secs.toInt * 1000000000 + t.nanos.toInt

/-- The nanoseconds lie below one second. -/
def Normal (t : Timestamp) : Prop := 0 ≤ t.nanos.toInt ∧ t.nanos.toInt < 1000000000

instance (t : Timestamp) : Decidable t.Normal := inferInstanceAs (Decidable (_ ∧ _))

theorem sinceEpoch_sub_sinceEpoch : stop.sinceEpoch - start.sinceEpoch =
    start.secsBetween stop * 1000000000 + start.nanosBetween stop := by
  unfold sinceEpoch secsBetween nanosBetween
  omega

/-- The operations behind a distance in nanoseconds, one after another. -/
theorem nanosUntil_eq :
    start.nanosUntil stop =
      if ¬(Fits (start.secsBetween stop) ∧ Fits (start.nanosBetween stop)) then
        .error .subtractOverflow
      else if ¬Fits (start.secsBetween stop * 1000000000) then .error .multiplyOverflow
      else if ¬Fits (stop.sinceEpoch - start.sinceEpoch) then .error .addOverflow
      else .ok (Int64.ofInt (stop.sinceEpoch - start.sinceEpoch)) := by
  rw [sinceEpoch_sub_sinceEpoch]
  unfold nanosUntil secsUntil nanosPartUntil
  rw [← secsBetween, ← nanosBetween]
  by_cases hsecs : Fits (start.secsBetween stop)
  · by_cases hnanos : Fits (start.nanosBetween stop)
    · rw [if_neg (not_not_intro ⟨hsecs, hnanos⟩), narrow_of_fits hsecs, narrow_of_fits hnanos]
      simp only [bind, Except.bind, toInt_ofInt_of_fits hsecs, toInt_ofInt_of_fits hnanos]
      by_cases hwhole : Fits (start.secsBetween stop * 1000000000)
      · rw [if_neg (not_not_intro hwhole), narrow_of_fits hwhole]
        simp only [toInt_ofInt_of_fits hwhole, Fault.narrow, ite_not]
      · rw [if_pos hwhole, narrow_of_not_fits hwhole]
    · rw [if_pos fun h => hnanos h.2, narrow_of_fits hsecs, narrow_of_not_fits hnanos]
      rfl
  · rw [if_pos fun h => hsecs h.1, narrow_of_not_fits hsecs]
    rfl

/-- Timestamps whose nanoseconds lie below one second are ordered as their exact numbers of
nanoseconds are. -/
theorem compare_iff {a b : Timestamp} (ha : a.Normal) (hb : b.Normal) :
    (compare a b = .lt ↔ a.sinceEpoch < b.sinceEpoch) ∧
    (compare a b = .eq ↔ a.sinceEpoch = b.sinceEpoch) ∧
    (compare a b = .gt ↔ b.sinceEpoch < a.sinceEpoch) := by
  have horder : compare a b = (compare a.secs b.secs).then (compare a.nanos b.nanos) := rfl
  simp only [horder, Ordering.then_eq_lt, Ordering.then_eq_eq, Ordering.then_eq_gt,
    Std.compare_eq_lt, Std.compare_eq_gt, Std.compare_eq_iff_eq, Int64.lt_iff_toInt_lt,
    ← Int64.toInt_inj]
  unfold Normal at ha hb
  unfold sinceEpoch
  omega

end Timestamp

namespace Resolution

variable {r : Resolution} (start stop : Timestamp)

/-- The operations behind a distance in any unit but nanoseconds. -/
theorem between_coarse (hr : r ≠ .nanoseconds) :
    r.between start stop =
      if Fits (start.secsBetween stop) ∧ Fits (start.nanosBetween stop) then
        .ok (r.ofSeconds (Int64.ofInt (start.secsBetween stop)).toFloat +
          (Int64.ofInt (start.nanosBetween stop)).toFloat / r.nanosPerUnit)
      else .error .subtractOverflow := by
  have hbetween : r.between start stop = (do
      let secs ← start.secsUntil stop
      let nanos ← start.nanosPartUntil stop
      return r.ofSeconds secs.toFloat + nanos.toFloat / r.nanosPerUnit) := by
    cases r with
    | nanoseconds => exact absurd rfl hr
    | _ => rfl
  rw [hbetween, Timestamp.secsUntil, Timestamp.nanosPartUntil, ← Timestamp.secsBetween,
    ← Timestamp.nanosBetween]
  by_cases hsecs : Fits (start.secsBetween stop)
  · rw [narrow_of_fits hsecs]
    by_cases hnanos : Fits (start.nanosBetween stop)
    · rw [narrow_of_fits hnanos, if_pos ⟨hsecs, hnanos⟩]
      rfl
    · rw [narrow_of_not_fits hnanos, if_neg fun h => hnanos h.2]
      rfl
  · rw [narrow_of_not_fits hsecs, if_neg fun h => hsecs h.1]
    rfl

theorem between_nanoseconds :
    nanoseconds.between start stop = (start.nanosUntil stop).map Int64.toFloat := by
  unfold between
  cases start.nanosUntil stop with
  | ok d => rfl
  | error f => rfl

/-- What ends the computation of a distance in any unit but nanoseconds. -/
theorem message_coarse_iff (hr : r ≠ .nanoseconds) (text : String) :
    (r.between start stop).mapError Fault.message = .error text ↔
      text = "attempt to subtract with overflow" ∧
        ¬(Fits (start.secsBetween stop) ∧ Fits (start.nanosBetween stop)) := by
  rw [between_coarse start stop hr]
  split
  · rename_i hfits
    exact iff_of_false nofun fun h => h.2 hfits
  · rename_i hfits
    exact ⟨fun h => ⟨(Except.error.inj h).symm, hfits⟩, fun h => congrArg Except.error h.1.symm⟩

/-- What ends the computation of a distance in nanoseconds: the first operation whose result does
not fit. -/
theorem message_nanoseconds_iff (text : String) :
    (nanoseconds.between start stop).mapError Fault.message = .error text ↔
      text = "attempt to subtract with overflow" ∧
        ¬(Fits (start.secsBetween stop) ∧ Fits (start.nanosBetween stop)) ∨
      text = "attempt to multiply with overflow" ∧
        (Fits (start.secsBetween stop) ∧ Fits (start.nanosBetween stop)) ∧
        ¬Fits (start.secsBetween stop * 1000000000) ∨
      text = "attempt to add with overflow" ∧
        (Fits (start.secsBetween stop) ∧ Fits (start.nanosBetween stop)) ∧
        Fits (start.secsBetween stop * 1000000000) ∧
        ¬Fits (stop.sinceEpoch - start.sinceEpoch) := by
  have hinj (told : String) :
      (Except.error told : Except String Float) = .error text ↔ text = told :=
    ⟨fun h => (Except.error.inj h).symm, fun h => congrArg Except.error h.symm⟩
  rw [between_nanoseconds, start.nanosUntil_eq stop]
  by_cases hparts : Fits (start.secsBetween stop) ∧ Fits (start.nanosBetween stop)
  · by_cases hwhole : Fits (start.secsBetween stop * 1000000000)
    · by_cases htotal : Fits (stop.sinceEpoch - start.sinceEpoch)
      · simp [hparts, hwhole, htotal, Except.map, Except.mapError]
      · simp [hparts, hwhole, htotal, Except.map, Except.mapError, hinj, Fault.message]
    · simp [hparts, hwhole, Except.map, Except.mapError, hinj, Fault.message]
  · simp [hparts, Except.map, Except.mapError, hinj, Fault.message]

/-- The seconds are multiplied before the nanoseconds are added, so a distance that would fit may
not be reached. -/
example : nanoseconds.between ⟨0, 1000000000⟩ ⟨9223372037, 0⟩ = .error .multiplyOverflow := rfl

/-- A distance in nanoseconds that is worked out to the end is exact. -/
theorem exact_of_between_nanoseconds {t : Float} (h : nanoseconds.between start stop = .ok t) :
    ∃ d, start.nanosUntil stop = .ok d ∧ t = d.toFloat ∧
      d.toInt = stop.sinceEpoch - start.sinceEpoch := by
  rw [between_nanoseconds] at h
  cases hd : start.nanosUntil stop with
  | error f =>
    rw [hd] at h
    exact absurd h nofun
  | ok d =>
    rw [hd] at h
    refine ⟨d, rfl, (Except.ok.inj h).symm, ?_⟩
    rw [start.nanosUntil_eq stop] at hd
    split_ifs at hd with hparts hwhole htotal
    obtain rfl := Except.ok.inj hd
    exact toInt_ofInt_of_fits htotal

/-- Timestamps whose nanoseconds lie below one second, and that are not too many seconds apart, have
a distance in every unit. -/
theorem exists_between_of_normal (hstart : start.Normal) (hstop : stop.Normal)
    (hsecs : (start.secsBetween stop).natAbs ≤ 9223372035) (r : Resolution) :
    ∃ t, r.between start stop = .ok t := by
  have hdistance := start.sinceEpoch_sub_sinceEpoch stop
  have hparts : Fits (start.secsBetween stop) ∧ Fits (start.nanosBetween stop) := by
    unfold Timestamp.Normal at hstart hstop
    unfold Fits Timestamp.nanosBetween
    omega
  have hwhole : Fits (start.secsBetween stop * 1000000000) := by
    unfold Fits
    omega
  have htotal : Fits (stop.sinceEpoch - start.sinceEpoch) := by
    unfold Timestamp.Normal at hstart hstop
    unfold Timestamp.nanosBetween at hdistance
    unfold Fits
    omega
  by_cases hr : r = nanoseconds
  · rw [hr, between_nanoseconds, start.nanosUntil_eq stop, if_neg (not_not_intro hparts),
      if_neg (not_not_intro hwhole), if_neg (not_not_intro htotal)]
    exact ⟨_, rfl⟩
  · exact ⟨_, (between_coarse start stop hr).trans (if_pos hparts)⟩

/-- **Which distances can be worked out.** A distance in any unit but nanoseconds ends with a fault
exactly when one of the two differences does not fit in a word. In nanoseconds the product and the
sum have to fit as well, and the fault is that of the first result that does not. What is worked out
to the end in nanoseconds is exact, and its sign is the order of the timestamps if their nanoseconds
lie below one second; such timestamps have a distance in every unit when they are at most
9223372035 seconds apart. -/
theorem between_faults (start stop : Timestamp) :
    let secs : ℤ := stop.secs.toInt - start.secs.toInt
    let nanos : ℤ := stop.nanos.toInt - start.nanos.toInt
    (∀ r ≠ nanoseconds, ∀ text,
      (r.between start stop).mapError Fault.message = .error text ↔
        text = "attempt to subtract with overflow" ∧ ¬(Fits secs ∧ Fits nanos)) ∧
    (∀ text, (nanoseconds.between start stop).mapError Fault.message = .error text ↔
      text = "attempt to subtract with overflow" ∧ ¬(Fits secs ∧ Fits nanos) ∨
      text = "attempt to multiply with overflow" ∧ (Fits secs ∧ Fits nanos) ∧
        ¬Fits (secs * 1000000000) ∨
      text = "attempt to add with overflow" ∧ (Fits secs ∧ Fits nanos) ∧
        Fits (secs * 1000000000) ∧ ¬Fits (secs * 1000000000 + nanos)) ∧
    (∀ t, nanoseconds.between start stop = .ok t → ∃ d, start.nanosUntil stop = .ok d ∧
      t = d.toFloat ∧ d.toInt = (stop.secs.toInt * 1000000000 + stop.nanos.toInt) -
        (start.secs.toInt * 1000000000 + start.nanos.toInt) ∧
      (start.Normal → stop.Normal → (0 < d.toInt ↔ compare start stop = .lt) ∧
        (d.toInt = 0 ↔ compare start stop = .eq) ∧ (d.toInt < 0 ↔ compare start stop = .gt))) ∧
    (start.Normal → stop.Normal → secs.natAbs ≤ 9223372035 →
      ∀ r : Resolution, ∃ t, r.between start stop = .ok t) := by
  intro secs nanos
  refine ⟨fun r hr => message_coarse_iff start stop hr, fun text => ?_, fun t ht => ?_,
    exists_between_of_normal start stop⟩
  · have hsum : stop.sinceEpoch - start.sinceEpoch = secs * 1000000000 + nanos :=
      start.sinceEpoch_sub_sinceEpoch stop
    rw [message_nanoseconds_iff, hsum]
    rfl
  · obtain ⟨d, hd, htime, hexact⟩ := exact_of_between_nanoseconds start stop ht
    refine ⟨d, hd, htime, hexact, fun hstart hstop => ?_⟩
    obtain ⟨hlt, heq, hgt⟩ := Timestamp.compare_iff hstart hstop
    rw [hlt, heq, hgt]
    omega

/-- Two timestamps that are as far apart as every unit allows. -/
theorem between_faults_at_distance :
    let start : Timestamp := ⟨-9223372035, 999999999⟩
    let stop : Timestamp := ⟨0, 0⟩
    start.Normal ∧ stop.Normal ∧ (stop.secs.toInt - start.secs.toInt).natAbs ≤ 9223372035 ∧
      (∀ r : Resolution, ∃ t, r.between start stop = .ok t) ∧ compare start stop = .lt := by
  intro start stop
  obtain ⟨-, -, hexact, hall⟩ := between_faults start stop
  have hstart : start.Normal := by decide
  have hstop : stop.Normal := by decide
  have hsecs : (stop.secs.toInt - start.secs.toInt).natAbs ≤ 9223372035 := by decide
  refine ⟨hstart, hstop, hsecs, hall hstart hstop hsecs, ?_⟩
  obtain ⟨t, ht⟩ := hall hstart hstop hsecs nanoseconds
  obtain ⟨d, hd, -, hdistance, hsign⟩ := hexact t ht
  refine (hsign hstart hstop).1.mp ?_
  rw [hdistance]
  decide

end Resolution

end TrialMeter
