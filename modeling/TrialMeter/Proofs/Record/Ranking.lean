import Mathlib.Data.List.Basic
import TrialMeter.Record.Ranking

/-!
# The ranking of records

Times are compared as floating-point numbers in their total order: by the sign of their words, then
by size, the greater word being the greater number only without the sign. The integer by which
records are sorted says the same. So ranked records rise in time, none is lost or doubled, and
records of one time keep their order.

## Main definitions

* `isSigned`, `TotalLe`: the total order of floating-point numbers.

## Main results

* `timeKey_le_iff`: the keys of times are in the order of the times.
* `Record.ranked_perm`, `Record.ranked_sorted`, `Record.filter_ranked`: a stable ranking.
-/

namespace TrialMeter

/-- Whether the word of a number has the sign. -/
def isSigned (x : Float) : Bool := 0x8000000000000000 ≤ x.toBits.toNat

/-- The total order of floating-point numbers. -/
def TotalLe (x y : Float) : Prop :=
  match isSigned x, isSigned y with
  | true, false => True
  | false, true => False
  | false, false => x.toBits.toNat ≤ y.toBits.toNat
  | true, true => y.toBits.toNat ≤ x.toBits.toNat

theorem timeKey_of_signed {x : Float} (h : isSigned x = true) :
    timeKey x = 0x7fffffffffffffff - (x.toBits.toNat : Int) := by
  have hle : 0x8000000000000000 ≤ x.toBits.toNat := of_decide_eq_true h
  have hnot : ¬ x.toBits < 0x8000000000000000 := by
    rw [UInt64.lt_iff_toNat_lt]
    exact Nat.not_lt.mpr hle
  rw [timeKey, if_neg hnot]

theorem timeKey_of_unsigned {x : Float} (h : isSigned x = false) :
    timeKey x = (x.toBits.toNat : Int) := by
  have hlt : ¬ 0x8000000000000000 ≤ x.toBits.toNat := of_decide_eq_false h
  have hbits : x.toBits < 0x8000000000000000 := by
    rw [UInt64.lt_iff_toNat_lt]
    exact Nat.lt_of_not_le hlt
  rw [timeKey, if_pos hbits]

/-- Keys are ordered as the times are. -/
theorem timeKey_le_iff (x y : Float) : timeKey x ≤ timeKey y ↔ TotalLe x y := by
  unfold TotalLe
  cases hx : isSigned x with
  | true =>
    have hx' : 0x8000000000000000 ≤ x.toBits.toNat := of_decide_eq_true hx
    cases hy : isSigned y with
    | true =>
      rw [timeKey_of_signed hx, timeKey_of_signed hy]
      omega
    | false =>
      rw [timeKey_of_signed hx, timeKey_of_unsigned hy]
      exact ⟨fun _ => trivial, fun _ => by omega⟩
  | false =>
    cases hy : isSigned y with
    | true =>
      have hy' : 0x8000000000000000 ≤ y.toBits.toNat := of_decide_eq_true hy
      rw [timeKey_of_unsigned hx, timeKey_of_signed hy]
      exact ⟨fun hle => absurd hle (by omega), False.elim⟩
    | false =>
      rw [timeKey_of_unsigned hx, timeKey_of_unsigned hy]
      omega

/-- Numbers of one word have one key. -/
theorem timeKey_eq_of_toBits_eq {x y : Float} (h : x.toBits = y.toBits) :
    timeKey x = timeKey y := by
  rw [timeKey, timeKey, h]

namespace Record

theorem rank_trans (a b c : Record) (hab : decide (timeKey a.time ≤ timeKey b.time) = true)
    (hbc : decide (timeKey b.time ≤ timeKey c.time) = true) :
    decide (timeKey a.time ≤ timeKey c.time) = true := by
  rw [decide_eq_true_eq] at *
  omega

theorem rank_total (a b : Record) :
    (decide (timeKey a.time ≤ timeKey b.time) || decide (timeKey b.time ≤ timeKey a.time)) =
      true := by
  rw [Bool.or_eq_true, decide_eq_true_eq, decide_eq_true_eq]
  omega

variable (records : List Record)

theorem ranked_perm : (ranked records).Perm records := List.mergeSort_perm _ _

/-- Ranked records rise in time. -/
theorem ranked_sorted : (ranked records).Pairwise fun a b => TotalLe a.time b.time := by
  have hsorted := List.pairwise_mergeSort rank_trans rank_total records
  exact hsorted.imp fun hle => (timeKey_le_iff _ _).mp (of_decide_eq_true hle)

/-- Records of one time keep their order. -/
theorem filter_ranked (bits : UInt64) :
    (ranked records).filter (·.time.toBits = bits) = records.filter (·.time.toBits = bits) := by
  have hequal : (records.filter (·.time.toBits = bits)).Pairwise
      fun a b => decide (timeKey a.time ≤ timeKey b.time) = true := by
    refine List.pairwise_of_forall_mem_list fun a ha b hb => ?_
    have hbits : a.time.toBits = b.time.toBits := by
      rw [of_decide_eq_true (List.mem_filter.mp ha).2, of_decide_eq_true (List.mem_filter.mp hb).2]
    exact decide_eq_true (Int.le_of_eq (timeKey_eq_of_toBits_eq hbits))
  have hsub : (records.filter (·.time.toBits = bits)).Sublist (ranked records) :=
    List.sublist_mergeSort rank_trans rank_total hequal List.filter_sublist
  have hfilter : (records.filter (·.time.toBits = bits)).Sublist
      ((ranked records).filter (·.time.toBits = bits)) := by
    have h := hsub.filter (·.time.toBits = bits)
    simpa only [List.filter_filter, Bool.and_self] using h
  have hlength := ((ranked_perm records).filter (·.time.toBits = bits)).length_eq
  exact (hfilter.eq_of_length hlength.symm).symm

end Record

end TrialMeter
