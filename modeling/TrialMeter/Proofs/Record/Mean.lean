import Mathlib.Algebra.Order.BigOperators.Group.List
import Mathlib.Algebra.Order.Floor.Semiring
import Mathlib.Data.Fintype.Basic
import Mathlib.Data.Rat.Floor
import Mathlib.Tactic.FinCases
import TrialMeter.Record.Mean

/-!
# The mean of records

A count of the mean is the sum of the counts at its position, divided by the number of records and
rounded up. A sum of fewer than `2 ^ 64` words of 64 bits, even with the number of records added to
it, fits in a word of 128 bits, so that one pass over the records can work all sums out there; and
since the quotients lie between the least and the greatest of the counts, they fit in 64 bits again.

## Main definitions

* `Record.countAt`, `Record.total`: the count at a position, and its sum over records.
* `Record.wideMean?`: the mean count at a position on words of 128 bits.

## Main results

* `Record.ceilDiv_le_iff`: what rounding up means; all else about the quotient follows from it.
* `Record.wideMean?_eq_some`: on words of 128 bits nothing overflows.
* `Record.meanOnWords?_eq`: one pass over the records gives the mean.
* `Record.countAt_mean`: every position of the mean is the mean of that position.
* `Record.mean_exact`: the mean of records.
-/

namespace TrialMeter.Record

/-- The count at one of the fourteen positions of a record. -/
def countAt (r : Record) (i : Fin 14) : UInt64 := r.counters.get i

/-- The exact sum of the counts at a position. -/
def total (records : List Record) (i : Fin 14) : ℕ :=
  (records.map fun r => (r.countAt i).toNat).sum

/-- The sum of the counts at a position, worked out on words of 128 bits from the left. -/
def wideTotal? (records : List Record) (i : Fin 14) : Option Wide :=
  records.foldlM (fun sum r => addWide? sum (widen (r.countAt i))) 0

/-- The mean count at a position, worked out on words of 128 bits. -/
def wideMean? (records : List Record) (i : Fin 14) : Option Wide := do
  ceilDivWide? (← wideTotal? records i) (BitVec.ofNat 128 records.length)

variable {records : List Record} {i : Fin 14}

theorem counters_eq_ofFn (r : Record) : r.counters = List.ofFn r.countAt := rfl

/-! ### Rounding up -/

theorem ceilDiv_le_iff {sum n k : ℕ} (hn : 0 < n) : ceilDiv sum n ≤ k ↔ sum ≤ k * n := by
  unfold ceilDiv
  rw [← Nat.lt_add_one_iff, Nat.div_lt_iff_lt_mul hn, Nat.add_mul]
  omega

/-- The rounded quotient is the ceiling of the exact one. -/
theorem ceilDiv_eq_ceil {sum n : ℕ} (hn : 0 < n) : ceilDiv sum n = ⌈(sum : ℚ) / n⌉₊ := by
  refine eq_of_forall_ge_iff fun k => ?_
  rw [ceilDiv_le_iff hn, Nat.ceil_le, div_le_iff₀ (Nat.cast_pos.mpr hn)]
  norm_cast

/-! ### Sums -/

theorem sumCount_eq_total (records : List Record) (i : Fin 14) :
    sumCount records (·.countAt i) = total records i := by
  rw [total, List.sum_eq_foldl, List.foldl_map]
  rfl

theorem total_le (records : List Record) (i : Fin 14) :
    total records i ≤ records.length * (2 ^ 64 - 1) := by
  have hle : ∀ x ∈ records.map fun r => (r.countAt i).toNat, x ≤ 2 ^ 64 - 1 := by
    intro x hx
    obtain ⟨r, -, rfl⟩ := List.mem_map.mp hx
    exact Nat.le_sub_one_of_lt (r.countAt i).toNat_lt
  have hsum := List.sum_le_card_nsmul _ _ hle
  rwa [List.length_map, Nat.nsmul_eq_mul] at hsum

/-- The least count at a position is not above the mean count. -/
theorem exists_countAt_le (hne : records ≠ []) : ∃ r ∈ records,
    (r.countAt i).toNat ≤ ceilDiv (total records i) records.length := by
  refine List.exists_le_of_sum_le hne _ (fun _ => ceilDiv (total records i) records.length) ?_
  rw [List.map_const', List.sum_replicate, Nat.nsmul_eq_mul, Nat.mul_comm]
  exact (ceilDiv_le_iff (List.length_pos_iff.mpr hne)).mp le_rfl

/-- The greatest count at a position is not below the mean count. -/
theorem exists_le_countAt (hne : records ≠ []) : ∃ r ∈ records,
    ceilDiv (total records i) records.length ≤ (r.countAt i).toNat := by
  have hpos : 0 < records.length := List.length_pos_iff.mpr hne
  generalize hmean : ceilDiv (total records i) records.length = mean
  cases mean with
  | zero => exact ⟨records.head hne, List.head_mem hne, Nat.zero_le _⟩
  | succ below =>
    -- If all counts were below the mean, one less would be enough for it.
    have hlt : below * records.length < total records i := by
      refine Nat.lt_of_not_le fun hle => ?_
      have hceil := (ceilDiv_le_iff hpos).mpr hle
      omega
    have hsum : (records.map fun _ => below).sum <
        (records.map fun r => (r.countAt i).toNat).sum := by
      rwa [List.map_const', List.sum_replicate, Nat.nsmul_eq_mul, Nat.mul_comm]
    exact List.exists_lt_of_sum_lt _ _ hsum

/-- A mean count fits in 64 bits. -/
theorem toNat_meanCount (hne : records ≠ []) : (meanCount records (·.countAt i)).toNat =
    ceilDiv (total records i) records.length := by
  obtain ⟨high, -, hhigh⟩ := exists_le_countAt (i := i) hne
  rw [meanCount, sumCount_eq_total, UInt64.toNat_ofNat']
  exact Nat.mod_eq_of_lt (hhigh.trans_lt (high.countAt i).toNat_lt)

/-! ### Words of 128 bits -/

theorem addWide?_eq_some {a b : Wide} (h : a.toNat + b.toNat < 2 ^ 128) :
    addWide? a b = some (a + b) ∧ (a + b).toNat = a.toNat + b.toNat := by
  have hfits : ¬a.uaddOverflow b := by
    rw [BitVec.uaddOverflow, decide_eq_true_iff]
    exact Nat.not_le.mpr h
  exact ⟨if_neg hfits, BitVec.toNat_add_of_lt h⟩

theorem toNat_widen (count : UInt64) : (widen count).toNat = count.toNat :=
  BitVec.toNat_setWidth_of_le (by decide)

/-- No addition on the way to a sum overflows, if the sum does not. -/
theorem wideSum_eq_some (records : List Record) (sum : Wide)
    (h : sum.toNat + total records i < 2 ^ 128) :
    ∃ w, records.foldlM (fun sum r => addWide? sum (widen (r.countAt i))) sum = some w ∧
      w.toNat = sum.toNat + total records i := by
  induction records generalizing sum with
  | nil => exact ⟨sum, rfl, rfl⟩
  | cons r rest ih =>
    have htotal : total (r :: rest) i = (r.countAt i).toNat + total rest i := rfl
    have hcount := toNat_widen (r.countAt i)
    obtain ⟨hadd, hvalue⟩ := addWide?_eq_some (a := sum) (b := widen (r.countAt i)) (by omega)
    obtain ⟨w, hw, hwvalue⟩ := ih (sum + widen (r.countAt i)) (by omega)
    refine ⟨w, ?_, by omega⟩
    rw [List.foldlM_cons, hadd]
    exact hw

/-- The quotient of a sum that leaves room for the divisor. -/
theorem ceilDivWide?_eq_some (sum n : Wide) (hn : 0 < n.toNat)
    (h : sum.toNat + n.toNat < 2 ^ 128) :
    ∃ q, ceilDivWide? sum n = some q ∧ q.toNat = ceilDiv sum.toNat n.toNat := by
  obtain ⟨hadd, hvalue⟩ := addWide?_eq_some h
  refine ⟨(sum + n - 1) / n, ?_, ?_⟩
  · rw [ceilDivWide?, hadd]
    rfl
  · have hone : (1 : Wide).toNat = 1 := rfl
    -- There is at least one record, so what is taken off was added before.
    have hpositive : (1 : Wide) ≤ sum + n := by
      rw [BitVec.le_def]
      omega
    rw [BitVec.toNat_udiv, BitVec.toNat_sub_of_le hpositive, hvalue, hone, ceilDiv]

/-- What fewer than `2 ^ 64` records add up to leaves room for their number. -/
theorem total_add_length_lt (hlength : records.length < 2 ^ 64) (i : Fin 14) :
    total records i + records.length < 2 ^ 128 := by
  have hle := total_le records i
  omega

theorem toNat_length (hlength : records.length < 2 ^ 64) :
    (BitVec.ofNat 128 records.length).toNat = records.length :=
  Nat.mod_eq_of_lt (by omega)

/-- On words of 128 bits the mean count is the same. -/
theorem wideMean?_eq_some (hne : records ≠ []) (hlength : records.length < 2 ^ 64) :
    ∃ q, wideMean? records i = some q ∧
      q.toNat = ceilDiv (total records i) records.length := by
  have hpos : 0 < records.length := List.length_pos_iff.mpr hne
  have hroom := total_add_length_lt hlength i
  have hsize := toNat_length hlength
  have hzero : (0 : Wide).toNat = 0 := rfl
  obtain ⟨sum, hsum, hvalue⟩ := wideSum_eq_some (i := i) records 0 (by omega)
  obtain ⟨q, hq, hqvalue⟩ :=
    ceilDivWide?_eq_some sum (BitVec.ofNat 128 records.length) (by omega) (by omega)
  refine ⟨q, ?_, ?_⟩
  · rw [wideMean?, wideTotal?, hsum]
    exact hq
  · rw [hqvalue, hvalue, hsize, hzero, Nat.zero_add]

/-! ### One pass -/

/-- Counts are added to sums position by position. -/
theorem addCounts?_ofFn {n : ℕ} (sums : Fin n → Wide) (counts : Fin n → UInt64)
    (h : ∀ j, (sums j).toNat + (counts j).toNat < 2 ^ 128) :
    addCounts? (List.ofFn sums) (List.ofFn counts) =
      some (List.ofFn fun j => sums j + widen (counts j)) := by
  induction n with
  | zero => rfl
  | succ n ih =>
    have hfits : (sums 0).toNat + (widen (counts 0)).toNat < 2 ^ 128 :=
      toNat_widen (counts 0) ▸ h 0
    rw [List.ofFn_succ, List.ofFn_succ, List.ofFn_succ, addCounts?, (addWide?_eq_some hfits).1,
      ih _ _ fun j => h j.succ]
    rfl

/-- A pass adds up what it is to add up, as long as no sum overflows. -/
theorem foldlM_add?_eq_some (records : List Record) (time : Float) (sums : Fin 14 → Wide)
    (h : ∀ i, (sums i).toNat + total records i < 2 ^ 128) :
    ∃ sums' : Fin 14 → Wide, (∀ i, (sums' i).toNat = (sums i).toNat + total records i) ∧
      records.foldlM Sums.add? { time, counts := List.ofFn sums } = some {
        time := records.foldl (fun sum r => sum + r.time) time
        counts := List.ofFn sums' } := by
  induction records generalizing time sums with
  | nil => exact ⟨sums, fun i => rfl, rfl⟩
  | cons r rest ih =>
    have htotal (i : Fin 14) : total (r :: rest) i = (r.countAt i).toNat + total rest i := rfl
    have hfits (i : Fin 14) : (sums i).toNat + (r.countAt i).toNat < 2 ^ 128 := by
      have hi := h i
      have hcons := htotal i
      omega
    have hnext (i : Fin 14) :
        (sums i + widen (r.countAt i)).toNat = (sums i).toNat + (r.countAt i).toNat := by
      rw [(addWide?_eq_some (toNat_widen (r.countAt i) ▸ hfits i)).2, toNat_widen]
    obtain ⟨sums', hsums', hpass⟩ := ih (time + r.time) (fun i => sums i + widen (r.countAt i))
      fun i => by rw [hnext, Nat.add_assoc]; exact h i
    refine ⟨sums', fun i => by rw [hsums', hnext, htotal, Nat.add_assoc], ?_⟩
    have hadd : Sums.add? { time, counts := List.ofFn sums } r = some {
        time := time + r.time
        counts := List.ofFn fun i => sums i + widen (r.countAt i) } := by
      rw [Sums.add?, counters_eq_ofFn, addCounts?_ofFn sums r.countAt hfits]
      rfl
    rw [List.foldlM_cons, hadd]
    exact hpass

/-- The quotients of sums are written as far as there are fields. -/
theorem writeMeans?_ofFn {n : ℕ} {size : Wide} (fields : List (Record → UInt64 → Record))
    (out : Record) (sums : Fin n → Wide) (means : Fin n → UInt64)
    (h : ∀ j, ∃ q, ceilDivWide? (sums j) size = some q ∧ q.toNat = (means j).toNat) :
    writeMeans? size out (fields.zip (List.ofFn sums)) =
      some ((fields.zip (List.ofFn means)).foldl (fun out p => p.1 out p.2) out) := by
  induction n generalizing fields out with
  | zero => rw [List.ofFn_zero, List.ofFn_zero, List.zip_nil_right, List.zip_nil_right]; rfl
  | succ n ih =>
    cases fields with
    | nil => rfl
    | cons write fields =>
      obtain ⟨q, hq, hvalue⟩ := h 0
      have hmean : (⟨q.setWidth 64⟩ : UInt64) = means 0 := by
        refine UInt64.toNat_inj.mp ?_
        rw [UInt64.toNat, BitVec.toNat_setWidth, hvalue]
        exact Nat.mod_eq_of_lt (means 0).toNat_lt
      rw [List.ofFn_succ, List.ofFn_succ, List.zip_cons_cons, List.zip_cons_cons, writeMeans?, hq,
        List.foldl_cons, ← hmean]
      exact ih fields _ _ _ fun j => h j.succ

/-- The pass gives the mean. -/
theorem meanOnWords?_eq (hlength : records.length < 2 ^ 64) :
    meanOnWords? records = some (mean records) := by
  cases hrecords : records with
  | nil => rfl
  | cons first rest =>
    have hne : records ≠ [] := hrecords ▸ List.cons_ne_nil first rest
    have hpos : 0 < records.length := List.length_pos_iff.mpr hne
    have hzero : (0 : Wide).toNat = 0 := rfl
    have hsize := toNat_length hlength
    obtain ⟨sums, hsums, hpass⟩ := foldlM_add?_eq_some records 0.0 (fun _ => 0) fun i => by
      have hroom := total_add_length_lt hlength i
      omega
    have hmeans (i : Fin 14) : ∃ q, ceilDivWide? (sums i) (BitVec.ofNat 128 records.length) =
        some q ∧ q.toNat = (meanCount records (·.countAt i)).toNat := by
      have hroom := total_add_length_lt hlength i
      have hsum := hsums i
      obtain ⟨q, hq, hqvalue⟩ := ceilDivWide?_eq_some (sums i)
        (BitVec.ofNat 128 records.length) (by omega) (by omega)
      refine ⟨q, hq, ?_⟩
      rw [hqvalue, toNat_meanCount hne, hsum, hsize, hzero, Nat.zero_add]
    rw [hrecords] at hpass hmeans
    have hsum : (first :: rest).foldlM Sums.add? {} = some _ := hpass
    have hwrite := writeMeans?_ofFn writers {
      name := first.name
      time := meanTime (first :: rest) } sums _ hmeans
    rw [meanOnWords?, hsum]
    exact congrArg (fun written => written >>= fun out => pure (some out)) hwrite

/-! ### The mean -/

theorem mean_eq_none_iff : mean records = none ↔ records = [] := by
  cases records with
  | nil => exact iff_of_true rfl rfl
  | cons first rest => exact iff_of_false nofun nofun

theorem ne_nil_of_mean {m : Record} (h : mean records = some m) : records ≠ [] := by
  rintro rfl
  exact absurd h nofun

theorem name_time_mean {m : Record} (h : mean records = some m) :
    records.head?.map (·.name) = some m.name ∧
      m.time = records.foldl (fun sum r => sum + r.time) 0.0 /
        (UInt64.ofNat records.length).toFloat := by
  cases records with
  | nil => exact absurd h nofun
  | cons first rest =>
    obtain rfl := Option.some.inj h
    exact ⟨rfl, rfl⟩

/-- Every position of the mean is the mean of that position. -/
theorem countAt_mean {m : Record} (h : mean records = some m) (i : Fin 14) :
    m.countAt i = meanCount records (·.countAt i) := by
  cases records with
  | nil => exact absurd h nofun
  | cons first rest =>
    obtain rfl := Option.some.inj h
    fin_cases i <;> rfl

/-- A position of the mean is made of the sum at that position and of the number of records. -/
theorem map_countAt_mean (records : List Record) (i : Fin 14) :
    (mean records).map (·.countAt i) = if records.length = 0 then none else
      some (UInt64.ofNat (ceilDiv (total records i) records.length)) := by
  cases hmean : mean records with
  | none => rw [mean_eq_none_iff.mp hmean]; rfl
  | some m =>
    have hlength : records.length ≠ 0 := mt List.length_eq_zero_iff.mp (ne_nil_of_mean hmean)
    rw [if_neg hlength, Option.map_some, countAt_mean hmean, meanCount, sumCount_eq_total]

/-- The mean at a position does not depend on what stands at other positions. -/
theorem map_countAt_mean_congr {others : List Record}
    (h : records.map (·.countAt i) = others.map (·.countAt i)) :
    (mean records).map (·.countAt i) = (mean others).map (·.countAt i) := by
  have hlength : records.length = others.length := by
    rw [← List.length_map (·.countAt i), h, List.length_map]
  have htotal : total records i = total others i := by
    have hmap (l : List Record) : total l i = ((l.map (·.countAt i)).map UInt64.toNat).sum := by
      rw [List.map_map]
      rfl
    rw [hmap, h, hmap]
  rw [map_countAt_mean, map_countAt_mean, hlength, htotal]

/-- The mean at a position does not depend on the order of the records. -/
theorem map_countAt_mean_perm {others : List Record} (h : records.Perm others) (i : Fin 14) :
    (mean records).map (·.countAt i) = (mean others).map (·.countAt i) := by
  have htotal : total records i = total others i := (h.map _).sum_eq
  rw [map_countAt_mean, map_countAt_mean, h.length_eq, htotal]

/-- What agrees at every position agrees in its counts. -/
theorem map_counters_congr {a b : Option Record}
    (h : ∀ i, a.map (·.countAt i) = b.map (·.countAt i)) : a.map counters = b.map counters := by
  cases a with
  | none =>
    cases b with
    | none => rfl
    | some n => exact absurd (h 0) nofun
  | some m =>
    cases b with
    | none => exact absurd (h 0) nofun
    | some n =>
      rw [Option.map_some, Option.map_some, counters_eq_ofFn, counters_eq_ofFn]
      exact congrArg (some ∘ List.ofFn) (funext fun i => Option.some.inj (h i))

/-- **The mean of records.** One pass over the records, which adds the counts up on words of 128
bits and writes the quotients into the fields of a record, gives it without an overflow. It is there
unless there are no records. Its counts are the exact ceilings of the mean counts, and fit in 64
bits, between the least and the greatest of the counts. They do not depend on the order of the
records, nor on what stands at other positions. The name is that of the first record, and the times
are added from the left and divided once. -/
theorem mean_exact (records : List Record) (hlength : records.length < 2 ^ 64) :
    meanOnWords? records = some (mean records) ∧
    (mean records = none ↔ records = []) ∧
    (∀ m, mean records = some m →
      records.head?.map (·.name) = some m.name ∧
      m.time = records.foldl (fun sum r => sum + r.time) 0.0 /
        (UInt64.ofNat records.length).toFloat ∧
      ∀ i : Fin 14,
        (m.countAt i).toNat = ⌈(total records i : ℚ) / records.length⌉₊ ∧
        (∃ q, wideMean? records i = some q ∧ (m.countAt i).toBitVec = q.setWidth 64 ∧
          (m.countAt i).toNat = q.toNat) ∧
        (∃ low ∈ records, low.countAt i ≤ m.countAt i) ∧
        ∃ high ∈ records, m.countAt i ≤ high.countAt i) ∧
    (∀ others, records.Perm others → (mean records).map counters = (mean others).map counters) ∧
    ∀ others i, records.map (·.countAt i) = others.map (·.countAt i) →
      (mean records).map (·.countAt i) = (mean others).map (·.countAt i) := by
  refine ⟨meanOnWords?_eq hlength, mean_eq_none_iff, fun m hmean => ?_,
    fun others hperm => map_counters_congr (map_countAt_mean_perm hperm),
    fun others i => map_countAt_mean_congr⟩
  have hne : records ≠ [] := ne_nil_of_mean hmean
  have hvalue (i : Fin 14) : (m.countAt i).toNat =
      ceilDiv (total records i) records.length := by
    rw [countAt_mean hmean, toNat_meanCount hne]
  refine ⟨(name_time_mean hmean).1, (name_time_mean hmean).2, fun i => ⟨?_, ?_, ?_, ?_⟩⟩
  · rw [hvalue, ceilDiv_eq_ceil (List.length_pos_iff.mpr hne)]
  · obtain ⟨q, hq, hqvalue⟩ := wideMean?_eq_some (i := i) hne hlength
    have hsame : (m.countAt i).toNat = q.toNat := by rw [hvalue, hqvalue]
    refine ⟨q, hq, BitVec.eq_of_toNat_eq ?_, hsame⟩
    rw [BitVec.toNat_setWidth, ← hsame]
    exact (Nat.mod_eq_of_lt (m.countAt i).toNat_lt).symm
  · obtain ⟨low, hlow, hle⟩ := exists_countAt_le (i := i) hne
    exact ⟨low, hlow, UInt64.le_iff_toNat_le.mpr (hle.trans_eq (hvalue i).symm)⟩
  · obtain ⟨high, hhigh, hle⟩ := exists_le_countAt (i := i) hne
    exact ⟨high, hhigh, UInt64.le_iff_toNat_le.mpr ((hvalue i).trans_le hle)⟩

/-- Two counts at the top of 64 bits, whose sum does not fit there. -/
theorem mean_exact_near_limit :
    let records : List Record :=
      [{ cycles := 18446744073709551614 }, { cycles := 18446744073709551615 }]
    records.length < 2 ^ 64 ∧ total records 0 = 36893488147419103229 ∧
      ∃ m, meanOnWords? records = some (some m) ∧ mean records = some m ∧
        m.countAt 0 = 18446744073709551615 ∧
        (m.countAt 0).toNat = ⌈(total records 0 : ℚ) / records.length⌉₊ ∧
        ∃ q, wideMean? records 0 = some q ∧ (m.countAt 0).toNat = q.toNat := by
  intro records
  have hlength : records.length < 2 ^ 64 := by decide
  obtain ⟨hpass, -, hmean, -⟩ := mean_exact records hlength
  obtain ⟨-, -, hcounts⟩ := hmean _ rfl
  obtain ⟨hceil, ⟨q, hq, -, hvalue⟩, -, -⟩ := hcounts 0
  exact ⟨hlength, rfl, _, hpass, rfl, rfl, hceil, q, hq, hvalue⟩

end TrialMeter.Record
