import Mathlib.Algebra.Order.Group.Nat
import TrialMeter.Decimal.Text
import TrialMeter.Proofs.Text.Wording

/-!
# The text of a number

The decimal that is written for a number lies in the interval of the reals that round to it, so the
text reads back as the number; no decimal on a coarser grid of powers of ten lies there; and of
those on its own grid it is the nearest one. The interval is convex and holds the number, so a grid
meets it if and only if one of the two neighbours of the number on the grid lies in it. The text of
a decimal has its digits and, behind the point, as many of them as the exponent says.

## Main definitions

* `Rounding.Proper`: a positive number strictly inside its interval, over a power of two.

## Main results

* `Rounding.ofBinary_proper`: the numbers of a binary format.
* `Rounding.nearestOn_eq_some`, `Rounding.Proper.isSome_nearestOn`: one grid.
* `Rounding.Proper.contains_shortest`, `Rounding.Proper.le_exponent_shortest`,
  `Rounding.Proper.shortest_nearest`: the coarsest grid.
* `Decimal.appendDigits_text`, `Decimal.exists_text_eq`: the text of a decimal.
* `sizeText_shortest`: the text of a floating-point number.
-/

namespace TrialMeter

namespace Rounding

/-- A positive number strictly inside its interval, over a power of two. -/
structure Proper (r : Rounding) : Prop where
  lower_pos : 0 < r.lower
  lower_lt : r.lower < r.value
  lt_upper : r.value < r.upper
  exists_den_eq : ∃ k, r.den = 2 ^ k

/-- The numbers of a binary format other than zero are proper. -/
theorem ofBinary_proper {mantissa : ℕ} (exponent : ℤ) (narrow : Bool) (h : 0 < mantissa) :
    (ofBinary mantissa exponent narrow).Proper := by
  have hscale : 0 < 2 ^ (exponent - 2).toNat := Nat.two_pow_pos _
  refine ⟨Nat.mul_pos ?_ hscale, Nat.mul_lt_mul_of_pos_right ?_ hscale,
    Nat.mul_lt_mul_of_pos_right ?_ hscale, _, rfl⟩
  · split <;> omega
  · split <;> omega
  · omega

variable {r : Rounding} {e : ℤ} {m n : ℕ} {d : Decimal}

/-! ### One grid -/

/-- The distance of neighbours on a grid. -/
def unit (r : Rounding) (e : ℤ) : ℕ := r.scaled ⟨1, e⟩

theorem scaled_eq (r : Rounding) (n : ℕ) (e : ℤ) : r.scaled ⟨n, e⟩ = n * r.unit e := by
  rw [unit, scaled, scaled, Nat.one_mul, Nat.mul_assoc]

theorem Proper.den_pos (h : r.Proper) : 0 < r.den := by
  obtain ⟨k, hk⟩ := h.exists_den_eq
  exact hk ▸ Nat.two_pow_pos k

theorem Proper.unit_pos (h : r.Proper) (e : ℤ) : 0 < r.unit e :=
  Nat.mul_pos (Nat.mul_pos Nat.one_pos (Nat.pow_pos (Nat.succ_pos 9))) h.den_pos

theorem lifted_lt_lifted (e : ℤ) (h : m < n) : lifted e m < lifted e n :=
  Nat.mul_lt_mul_of_pos_right h (Nat.pow_pos (Nat.succ_pos 9))

theorem contains_iff : r.contains ⟨n, e⟩ ↔
    if r.closed then lifted e r.lower ≤ n * r.unit e ∧ n * r.unit e ≤ lifted e r.upper
    else lifted e r.lower < n * r.unit e ∧ n * r.unit e < lifted e r.upper := by
  rw [contains, scaled_eq]
  split <;> simp

/-- What stands between a decimal of the interval and the number is in the interval. -/
theorem Proper.contains_of_le (h : r.Proper) (hm : r.contains ⟨m, e⟩) (hle : m ≤ n)
    (hn : n * r.unit e ≤ lifted e r.value) : r.contains ⟨n, e⟩ := by
  have hmul := Nat.mul_le_mul_right (r.unit e) hle
  have hupper := lifted_lt_lifted e h.lt_upper
  rw [contains_iff] at hm ⊢
  cases hclosed : r.closed with
  | false =>
    simp only [hclosed, if_false, Bool.false_eq_true] at hm ⊢
    omega
  | true =>
    simp only [hclosed, if_true] at hm ⊢
    omega

theorem Proper.contains_of_ge (h : r.Proper) (hm : r.contains ⟨m, e⟩) (hle : n ≤ m)
    (hn : lifted e r.value ≤ n * r.unit e) : r.contains ⟨n, e⟩ := by
  have hmul := Nat.mul_le_mul_right (r.unit e) hle
  have hlower := lifted_lt_lifted e h.lower_lt
  rw [contains_iff] at hm ⊢
  cases hclosed : r.closed with
  | false =>
    simp only [hclosed, if_false, Bool.false_eq_true] at hm ⊢
    omega
  | true =>
    simp only [hclosed, if_true] at hm ⊢
    omega

/-- The number lies between two neighbours on a grid. -/
theorem Proper.value_eq (h : r.Proper) (e : ℤ) :
    lifted e r.value = lifted e r.value / r.unit e * r.unit e + lifted e r.value % r.unit e ∧
      lifted e r.value % r.unit e < r.unit e :=
  ⟨(Nat.div_add_mod' _ _).symm, Nat.mod_lt _ (h.unit_pos e)⟩

/-- A decimal of the interval stands on one side of the number, and the neighbour on that side is in
the interval, too. -/
theorem Proper.contains_cases (h : r.Proper) (hn : r.contains ⟨n, e⟩) :
    n ≤ lifted e r.value / r.unit e ∧ r.contains ⟨lifted e r.value / r.unit e, e⟩ ∨
      lifted e r.value / r.unit e + 1 ≤ n ∧ r.contains ⟨lifted e r.value / r.unit e + 1, e⟩ := by
  obtain ⟨hvalue, hrest⟩ := h.value_eq e
  rcases Nat.lt_or_ge (lifted e r.value / r.unit e) n with hlt | hle
  · refine .inr ⟨hlt, h.contains_of_ge hn hlt ?_⟩
    rw [Nat.succ_mul]
    omega
  · exact .inl ⟨hle, h.contains_of_le hn hle (Nat.div_mul_le_self _ _)⟩

/-- The neighbours of the number on a grid, and which of them is taken. -/
theorem nearestOn_eq (r : Rounding) (e : ℤ) : r.nearestOn e =
    if r.contains ⟨lifted e r.value / r.unit e, e⟩ = true ∧
        (r.contains ⟨lifted e r.value / r.unit e + 1, e⟩ = true →
          2 * (lifted e r.value % r.unit e) < r.unit e) then
      some ⟨lifted e r.value / r.unit e, e⟩
    else if r.contains ⟨lifted e r.value / r.unit e + 1, e⟩ = true then
      some ⟨lifted e r.value / r.unit e + 1, e⟩
    else none := by
  have hunit : r.scaled ⟨1, e⟩ = r.unit e := rfl
  unfold nearestOn
  simp only [hunit]
  cases hbelow : r.contains ⟨lifted e r.value / r.unit e, e⟩ with
  | false =>
    cases habove : r.contains ⟨lifted e r.value / r.unit e + 1, e⟩ with
    | false => rfl
    | true => rfl
  | true =>
    cases habove : r.contains ⟨lifted e r.value / r.unit e + 1, e⟩ with
    | false => rfl
    | true => simp

/-- What is found on a grid is one of the neighbours of the number, and lies in the interval. If
both do, it is the nearer one. -/
theorem nearestOn_eq_some (h : r.nearestOn e = some d) : r.contains d ∧ d.exponent = e ∧
    (d.digits = lifted e r.value / r.unit e ∧
        (r.contains ⟨lifted e r.value / r.unit e + 1, e⟩ →
          2 * (lifted e r.value % r.unit e) < r.unit e) ∨
      d.digits = lifted e r.value / r.unit e + 1 ∧
        (r.contains ⟨lifted e r.value / r.unit e, e⟩ →
          r.unit e ≤ 2 * (lifted e r.value % r.unit e))) := by
  rw [nearestOn_eq] at h
  split at h
  · rename_i hbelow
    obtain rfl := Option.some.inj h
    exact ⟨hbelow.1, rfl, .inl ⟨rfl, hbelow.2⟩⟩
  · rename_i hbelow
    split at h
    · rename_i habove
      obtain rfl := Option.some.inj h
      exact ⟨habove, rfl, .inr ⟨rfl, fun hside => Nat.le_of_not_lt fun hlt =>
        hbelow ⟨hside, fun _ => hlt⟩⟩⟩
    · exact absurd h nofun

/-- A grid that meets the interval has a neighbour of the number there. -/
theorem Proper.isSome_nearestOn (hr : r.Proper) (hn : r.contains ⟨n, e⟩) :
    (r.nearestOn e).isSome := by
  rw [nearestOn_eq]
  split
  · rfl
  · rename_i hbelow
    split
    · rfl
    · rename_i habove
      obtain ⟨-, hside⟩ | ⟨-, hside⟩ := hr.contains_cases hn
      · exact absurd ⟨hside, fun h => absurd h habove⟩ hbelow
      · exact absurd hside habove

/-- What is found on a grid is the nearest of all that lie there in the interval. -/
theorem Proper.nearestOn_nearest (hr : r.Proper) (h : r.nearestOn e = some d)
    (hn : r.contains ⟨n, e⟩) :
    ((d.digits * r.unit e : ℕ) - (lifted e r.value : ℤ)).natAbs ≤
      ((n * r.unit e : ℕ) - (lifted e r.value : ℤ)).natAbs := by
  obtain ⟨hvalue, hrest⟩ := hr.value_eq e
  obtain ⟨-, -, ⟨hd, hnear⟩ | ⟨hd, hnear⟩⟩ := nearestOn_eq_some h
  -- The neighbour on the side of `n` is as near as `n`, and it is not nearer than the one taken.
  all_goals
    obtain ⟨hle, hside⟩ | ⟨hle, hside⟩ := hr.contains_cases hn
    all_goals
      have hmul := Nat.mul_le_mul_right (r.unit e) hle
      simp only [hd, hside, Nat.succ_mul, forall_const] at hnear hmul ⊢
      omega

/-! ### The coarsest grid -/

/-- The grids are tried from the coarsest on. -/
theorem grids_pairwise (r : Rounding) : r.grids.Pairwise (· > ·) := by
  rw [grids, List.pairwise_map]
  refine List.pairwise_lt_range.imp fun {a b} h => ?_
  omega

theorem mem_grids {r : Rounding} {e : ℤ} :
    e ∈ r.grids ↔ -(r.den.log2 : ℤ) ≤ e ∧ e ≤ r.magnitude := by
  rw [grids, List.mem_map]
  constructor
  · rintro ⟨step, hstep, rfl⟩
    have hlt := List.mem_range.mp hstep
    omega
  · rintro ⟨hle, hge⟩
    exact ⟨(r.magnitude - e).toNat, List.mem_range.mpr (by omega), by omega⟩

/-- On the finest grid the number is a decimal. -/
theorem Proper.contains_finest (h : r.Proper) : ∃ n, r.contains ⟨n, -(r.den.log2 : ℤ)⟩ := by
  obtain ⟨k, hk⟩ := h.exists_den_eq
  have hlog : r.den.log2 = k := by rw [hk, Nat.log2_two_pow]
  have hunit : r.unit (-(k : ℤ)) = 2 ^ k := by
    have hzero : (-(k : ℤ)).toNat = 0 := by omega
    show 1 * 10 ^ (-(k : ℤ)).toNat * r.den = 2 ^ k
    rw [hzero, hk, Nat.pow_zero, Nat.one_mul]
  have hlifted : lifted (-(k : ℤ)) r.value = r.value * 10 ^ k := by
    rw [lifted, Int.neg_neg, Int.toNat_natCast]
    rfl
  have hvalue : r.value * 5 ^ k * r.unit (-(k : ℤ)) = lifted (-(k : ℤ)) r.value := by
    rw [hunit, hlifted, Nat.mul_assoc, ← Nat.mul_pow]
  have hlower := lifted_lt_lifted (-(k : ℤ)) h.lower_lt
  have hupper := lifted_lt_lifted (-(k : ℤ)) h.lt_upper
  refine ⟨r.value * 5 ^ k, ?_⟩
  rw [hlog, contains_iff, hvalue]
  split <;> omega

/-- No decimal of the interval stands on a coarser grid than the coarsest that is tried. -/
theorem Proper.le_magnitude (h : r.Proper) (hn : r.contains ⟨n, e⟩) : e ≤ r.magnitude := by
  refine Int.le_of_not_gt fun hlt => ?_
  have hpos : 0 < r.magnitude := Nat.length_toDigits_pos
  have hwhole : r.upper / r.den < 10 ^ r.magnitude :=
    (Nat.length_toDigits_le_iff (by decide) hpos).mp (Nat.le_refl _)
  have hupper : r.upper < 10 ^ r.magnitude * r.den := (Nat.div_lt_iff_lt_mul h.den_pos).mp hwhole
  have hpow : 10 ^ r.magnitude ≤ 10 ^ e.toNat := Nat.pow_le_pow_right (by decide) (by omega)
  have hunit : 10 ^ r.magnitude * r.den ≤ r.unit e := by
    rw [unit, scaled, Nat.one_mul]
    exact Nat.mul_le_mul_right _ hpow
  have hlift (x : ℕ) : lifted e x = x := by
    rw [lifted, Int.toNat_eq_zero.mpr (by omega)]
    exact Nat.mul_one x
  have hlower := h.lower_pos
  rw [contains_iff, hlift, hlift] at hn
  cases n with
  | zero =>
    rw [Nat.zero_mul] at hn
    split at hn <;> omega
  | succ n =>
    rw [Nat.succ_mul] at hn
    split at hn <;> omega

/-- What is taken in the end is found on a grid, and none of the coarser ones has a decimal. -/
theorem Proper.exists_nearestOn_eq (h : r.Proper) :
    ∃ e ∈ r.grids, r.nearestOn e = some r.shortest ∧
      ∀ e' ∈ r.grids, e < e' → r.nearestOn e' = none := by
  obtain ⟨n, hn⟩ := h.contains_finest
  have hfinest : -(r.den.log2 : ℤ) ∈ r.grids := mem_grids.mpr ⟨Int.le_refl _, by omega⟩
  have hfound : (r.grids.findSome? r.nearestOn).isSome :=
    List.findSome?_isSome_iff.mpr ⟨_, hfinest, h.isSome_nearestOn hn⟩
  obtain ⟨d, hd⟩ := Option.isSome_iff_exists.mp hfound
  have hshortest : r.shortest = d := by rw [shortest, hd]; rfl
  obtain ⟨coarser, e, finer, hgrids, he, hcoarser⟩ := List.findSome?_eq_some_iff.mp hd
  have hgrid : e ∈ r.grids := hgrids ▸ List.mem_append_right _ List.mem_cons_self
  refine ⟨e, hgrid, hshortest ▸ he, fun e' hmem hlt => ?_⟩
  have hsorted := r.grids_pairwise
  rw [hgrids] at hmem hsorted
  obtain ⟨-, hfiner, -⟩ := List.pairwise_append.mp hsorted
  rcases List.mem_append.mp hmem with hmem | hmem
  · exact hcoarser e' hmem
  · rcases List.mem_cons.mp hmem with rfl | hmem
    · exact absurd hlt (Int.lt_irrefl _)
    · exact absurd (List.rel_of_pairwise_cons hfiner hmem) (Int.lt_asymm hlt)

/-- The decimal that is taken reads back as the number. -/
theorem Proper.contains_shortest (h : r.Proper) : r.contains r.shortest := by
  obtain ⟨e, -, he, -⟩ := h.exists_nearestOn_eq
  exact (nearestOn_eq_some he).1

/-- No decimal on a coarser grid reads back as the number. -/
theorem Proper.le_exponent_shortest (h : r.Proper) (hn : r.contains ⟨n, e⟩) :
    e ≤ r.shortest.exponent := by
  obtain ⟨grid, hgrid, hfound, hcoarser⟩ := h.exists_nearestOn_eq
  obtain ⟨-, hexponent, -⟩ := nearestOn_eq_some hfound
  refine Int.le_of_not_gt fun hlt => ?_
  rw [hexponent] at hlt
  have hmem : e ∈ r.grids :=
    mem_grids.mpr ⟨Int.le_trans (mem_grids.mp hgrid).1 (Int.le_of_lt hlt), h.le_magnitude hn⟩
  have hsome := h.isSome_nearestOn hn
  rw [hcoarser e hmem hlt] at hsome
  exact absurd hsome Bool.false_ne_true

/-- Of the decimals on its own grid that read back as the number, the one that is taken is the
nearest. -/
theorem Proper.shortest_nearest (h : r.Proper) (hn : r.contains ⟨n, r.shortest.exponent⟩) :
    ((r.scaled r.shortest : ℤ) - lifted r.shortest.exponent r.value).natAbs ≤
      ((r.scaled ⟨n, r.shortest.exponent⟩ : ℤ) - lifted r.shortest.exponent r.value).natAbs := by
  obtain ⟨e, -, he, -⟩ := h.exists_nearestOn_eq
  obtain ⟨-, hexponent, -⟩ := nearestOn_eq_some he
  rw [← hexponent] at he
  rw [scaled_eq, scaled_eq]
  exact h.nearestOn_nearest he hn

end Rounding

/-! ### Texts -/

namespace Decimal

variable {d : Decimal}

theorem isDigit_of_mem_zeros {n : ℕ} {c : Char} (h : c ∈ zeros n) : c.isDigit := by
  rw [List.eq_of_mem_replicate h]
  decide

theorem isDigit_of_mem_toDigits {n : ℕ} {c : Char} (h : c ∈ Nat.toDigits 10 n) : c.isDigit :=
  Nat.isDigit_of_mem_toDigits (by decide) (by decide) h

/-- A decimal without places is written as the number that it is. -/
theorem appendDigits_text (h : 0 ≤ d.exponent) :
    Text.appendDigits 0 d.text.toList = some (d.digits * 10 ^ d.exponent.toNat) := by
  have hplaces : (-d.exponent).toNat = 0 := by omega
  have hdigits : ∀ c ∈ Nat.toDigits 10 d.digits ++ zeros d.exponent.toNat, c.isDigit := by
    intro c hc
    rcases List.mem_append.mp hc with hc | hc
    · exact isDigit_of_mem_toDigits hc
    · exact isDigit_of_mem_zeros hc
  rw [text, hplaces, if_pos rfl, String.toList_ofList, Text.appendDigits_eq hdigits,
    Nat.ofDigitChars_append, Nat.ofDigitChars_ten_toDigits, zeros, Nat.ofDigitChars_replicate_zero,
    Nat.mul_comm]

/-- A decimal with places is written with a point, so many of its digits behind it, and others
before it. -/
theorem exists_text_eq (h : d.exponent < 0) : ∃ whole part, d.text.toList = whole ++ '.' :: part ∧
    whole ≠ [] ∧ part.length = (-d.exponent).toNat ∧
    Text.appendDigits 0 (whole ++ part) = some d.digits := by
  generalize hplaces : (-d.exponent).toNat = places
  have hpos : places ≠ 0 := by omega
  generalize hpadded : zeros (places + 1 - (Nat.toDigits 10 d.digits).length) ++
    Nat.toDigits 10 d.digits = padded
  have hlength : places < padded.length := by
    rw [← hpadded, List.length_append, zeros, List.length_replicate]
    omega
  have hdigits : ∀ c ∈ padded, c.isDigit := by
    intro c hc
    rcases List.mem_append.mp (hpadded ▸ hc) with hc | hc
    · exact isDigit_of_mem_zeros hc
    · exact isDigit_of_mem_toDigits hc
  refine ⟨padded.take (padded.length - places), padded.drop (padded.length - places),
    ?_, ?_, ?_, ?_⟩
  · rw [text, hplaces, if_neg hpos, hpadded, String.toList_ofList]
  · refine List.ne_nil_of_length_pos ?_
    rw [List.length_take]
    omega
  · rw [List.length_drop]
    omega
  · rw [List.take_append_drop, Text.appendDigits_eq hdigits, ← hpadded, Nat.ofDigitChars_append,
      zeros, Nat.ofDigitChars_replicate_zero, Nat.mul_zero, Nat.ofDigitChars_ten_toDigits]

end Decimal

/-- The size of a finite number other than zero is written as the decimal that is the nearest on the
coarsest grid that reads back as the number. -/
theorem sizeText_shortest {x : Float} (hfinite : exponentField x ≠ 0x7ff)
    (hne : ¬(exponentField x = 0 ∧ fractionField x = 0)) :
    let r := roundingOf x
    ∃ d, sizeText x = d.text ∧ r.contains d ∧
      (∀ n e, r.contains ⟨n, e⟩ → e ≤ d.exponent) ∧
      ∀ n, r.contains ⟨n, d.exponent⟩ →
        ((r.scaled d : ℤ) - Rounding.lifted d.exponent r.value).natAbs ≤
          ((r.scaled ⟨n, d.exponent⟩ : ℤ) - Rounding.lifted d.exponent r.value).natAbs := by
  intro r
  have hproper : r.Proper := by
    refine Rounding.ofBinary_proper _ _ ?_
    split
    · omega
    · omega
  refine ⟨r.shortest, ?_, hproper.contains_shortest, fun n e => hproper.le_exponent_shortest,
    fun n => hproper.shortest_nearest⟩
  rw [sizeText, if_neg hfinite, if_neg hne]

-- The number next to one tenth is written as one tenth.
example : (Rounding.ofBinary 7205759403792794 (-56) false).shortest.text = "0.1" := by
  decide +kernel

end TrialMeter
