import Mathlib.Data.Nat.Fib.Basic
import Mathlib.Data.Rat.Defs
import Mathlib.Tactic.NormNum.NatFib
import TrialMeter.Ratio

/-!
# Lowest terms

A ratio is made of two words by dividing both by their greatest common divisor. The number that two
words stand for is a rational, and a rational is kept in lowest terms too. So a ratio holds, word
for word, the numerator and the denominator of that rational, and two ratios are equal exactly when
their rationals are. This can be told from two products, but they are products of numbers and not of
words: they need up to 128 bits.

The divisor is found by Euclid's recursion. A dividend that is larger than its divisor is at least
the divisor and the remainder together, so the words that the recursion meets outgrow the Fibonacci
numbers, of which the ninety-fourth is no word any more.

## Main definitions

* `Ratio.EndsAfter`: the recursion on two words, remainder by remainder.
* `Ratio.quotient`: the rational that two words stand for.
* `Ratio.IsCanonical`: a ratio as the lowest terms of two words.

## Main results

* `Ratio.EndsAfter.le`: the recursion takes at most 92 remainders.
* `Ratio.ofParts_eq_ok_iff`: a ratio holds the numerator and the denominator of a rational.
* `Ratio.ofParts_canonical`: ratios are canonical.
-/

namespace TrialMeter.Ratio

/-! ### Euclid's recursion -/

section Recursion

variable {n : ℕ} {a b g : UInt64}

/-- Euclid's recursion on `a` and `b` takes `n` remainders, none of them by zero, and ends with the
divisor `g`. -/
inductive EndsAfter : ℕ → UInt64 → UInt64 → UInt64 → Prop
  | zero (a : UInt64) : EndsAfter 0 a 0 a
  | remainder {n : ℕ} {a b g : UInt64} (hb : b ≠ 0) (h : EndsAfter n b (a % b) g) :
    EndsAfter (n + 1) a b g

/-- The recursion ends with the common divisor. -/
theorem exists_endsAfter (a b : UInt64) : ∃ n, EndsAfter n a b (commonDivisor a b) := by
  induction a, b using commonDivisor.induct with
  | case1 a =>
    rw [commonDivisor, dif_pos rfl]
    exact ⟨0, .zero a⟩
  | case2 a b hb _ ih =>
    obtain ⟨n, hn⟩ := ih
    rw [commonDivisor, dif_neg hb]
    exact ⟨n + 1, .remainder hb hn⟩

theorem EndsAfter.toNat_eq (h : EndsAfter n a b g) : g.toNat = a.toNat.gcd b.toNat := by
  induction h with
  | zero a => exact (Nat.gcd_zero_right _).symm
  | @remainder n a b g hb h ih =>
    rw [ih, UInt64.toNat_mod, Nat.gcd_comm, ← Nat.gcd_rec, Nat.gcd_comm]

/-- The words of the recursion outgrow the Fibonacci numbers: the divisor does if there is a
remainder to take, and the dividend is one number ahead of it if it is larger. Only the first
dividend of all need not be. -/
theorem EndsAfter.fib_le (h : EndsAfter n a b g) :
    (n ≠ 0 → Nat.fib (n + 1) ≤ b.toNat) ∧
      (b.toNat < a.toNat → Nat.fib (n + 2) ≤ a.toNat) := by
  induction h with
  | zero a => exact ⟨fun hn => absurd rfl hn, fun ha => Nat.one_le_of_lt ha⟩
  | @remainder n a b g hb h ih =>
    obtain ⟨hrem, hdiv⟩ := ih
    have hlt : (a % b).toNat < b.toNat := toNat_mod_lt a hb
    have hfib : Nat.fib (n + 2) ≤ b.toNat := hdiv hlt
    refine ⟨fun _ => hfib, fun hab => ?_⟩
    rcases Nat.eq_zero_or_pos n with rfl | hn
    · calc Nat.fib 3 = 2 := rfl
        _ ≤ a.toNat := by omega
    -- The divisor goes into the larger dividend at least once.
    · have hquot : b.toNat ≤ b.toNat * (a.toNat / b.toNat) :=
        Nat.le_mul_of_pos_right _ (Nat.div_pos hab.le (by omega))
      calc Nat.fib (n + 1 + 2) = Nat.fib (n + 1) + Nat.fib (n + 2) := Nat.fib_add_two
        _ ≤ (a % b).toNat + b.toNat := Nat.add_le_add (hrem hn.ne') hfib
        _ ≤ a.toNat % b.toNat + b.toNat * (a.toNat / b.toNat) :=
          Nat.add_le_add (UInt64.toNat_mod a b).le hquot
        _ = a.toNat := Nat.mod_add_div _ _

/-- No word reaches the ninety-fourth Fibonacci number. -/
theorem EndsAfter.le (h : EndsAfter n a b g) : n ≤ 92 := by
  by_contra hn
  have hfib : Nat.fib (n + 1) ≤ b.toNat := h.fib_le.1 (by omega)
  have hmono : Nat.fib 94 ≤ Nat.fib (n + 1) := Nat.fib_mono (by omega)
  have hvalue : Nat.fib 94 = 19740274219868223167 := by norm_num
  have hword : b.toNat < 2 ^ 64 := b.toNat_lt
  omega

theorem toNat_commonDivisor (a b : UInt64) :
    (commonDivisor a b).toNat = a.toNat.gcd b.toNat := by
  obtain ⟨n, hn⟩ := exists_endsAfter a b
  exact hn.toNat_eq

theorem toNat_ne_zero (h : a ≠ 0) : a.toNat ≠ 0 :=
  fun ha => h (UInt64.toNat.inj ha)

theorem commonDivisor_ne_zero (a : UInt64) (hb : b ≠ 0) : commonDivisor a b ≠ 0 := by
  intro h
  have hgcd := toNat_commonDivisor a b
  rw [h] at hgcd
  exact toNat_ne_zero hb (Nat.eq_zero_of_gcd_eq_zero_right hgcd.symm)

end Recursion

/-! ### The rational of a ratio -/

section Quotient

variable {num den num' den' : UInt64} {r s : Ratio}

/-- The rational that two words stand for. -/
def quotient (num den : UInt64) : ℚ := mkRat num.toNat den.toNat

/-- Two quotients are compared by their cross products. -/
theorem quotient_eq_iff (hden : den ≠ 0) (hden' : den' ≠ 0) :
    quotient num den = quotient num' den' ↔
      num.toNat * den'.toNat = num'.toNat * den.toNat := by
  rw [quotient, quotient, Rat.mkRat_eq_iff (toNat_ne_zero hden) (toNat_ne_zero hden')]
  norm_cast

/-- Only a denominator of zero is refused. -/
theorem ofParts_eq_error_iff {fault : Fault} :
    ofParts num den = .error fault ↔ fault = .zeroDenominator ∧ den = 0 := by
  unfold ofParts
  by_cases hden : den = 0
  · rw [if_pos hden, Except.error.injEq, and_iff_left hden]
    exact eq_comm
  · rw [if_neg hden]
    exact iff_of_false nofun fun h => hden h.2

/-- A ratio is made of two words exactly when it holds the numerator and the denominator of their
quotient and the second word is not zero. -/
theorem ofParts_eq_ok_iff :
    ofParts num den = .ok r ↔ den ≠ 0 ∧ (quotient num den).num = r.num.toNat ∧
      (quotient num den).den = r.den.toNat := by
  unfold ofParts
  by_cases hden : den = 0
  · rw [if_pos hden]
    exact iff_of_false nofun fun h => h.1 hden
  · have hden' : den.toNat ≠ 0 := toNat_ne_zero hden
    rw [if_neg hden, Except.ok.injEq, and_iff_right hden, quotient, Rat.num_mkRat, Rat.den_mkRat,
      if_neg hden', if_neg hden', Int.natAbs_natCast, Nat.gcd_comm, ← toNat_commonDivisor]
    obtain ⟨n, d⟩ := r
    rw [mk.injEq, ← UInt64.toNat_inj, ← UInt64.toNat_inj, UInt64.toNat_div, UInt64.toNat_div]
    norm_cast

theorem exists_ofParts (num : UInt64) (hden : den ≠ 0) : ∃ r, ofParts num den = .ok r :=
  ⟨_, if_neg hden⟩

/-- A ratio stands for the same rational as the words that it is made of. -/
theorem quotient_of_ofParts (h : ofParts num den = .ok r) :
    quotient r.num r.den = quotient num den := by
  obtain ⟨-, hnum, hden⟩ := ofParts_eq_ok_iff.mp h
  rw [quotient, ← hnum, ← hden, Rat.mkRat_self]

/-- Ratios are equal, word for word, exactly when they are made of words for one rational. -/
theorem eq_iff_quotient_eq (h : ofParts num den = .ok r) (h' : ofParts num' den' = .ok s) :
    r = s ↔ quotient num den = quotient num' den' := by
  refine ⟨fun hrs => ?_, fun hq => ?_⟩
  · rw [← quotient_of_ofParts h, ← quotient_of_ofParts h', hrs]
  · obtain ⟨-, hnum, hden⟩ := ofParts_eq_ok_iff.mp h
    obtain ⟨hne, -, -⟩ := ofParts_eq_ok_iff.mp h'
    rw [hq] at hnum hden
    have hr : ofParts num' den' = .ok r := ofParts_eq_ok_iff.mpr ⟨hne, hnum, hden⟩
    exact Except.ok.inj (hr.symm.trans h')

/-! ### Canonical ratios -/

/-- The ratio `r` is the lowest terms of the words `num` and `den`. -/
structure IsCanonical (r : Ratio) (num den : UInt64) : Prop where
  /-- The cross products agree. They are products of numbers, which a word may not hold. -/
  cross : num.toNat * r.den.toNat = r.num.toNat * den.toNat
  den_pos : 0 < r.den.toNat
  coprime : r.num.toNat.Coprime r.den.toNat
  /-- Zero has one form. -/
  zero : num = 0 → r = ⟨0, 1⟩

/-- The words of a ratio are kept exactly when they are in lowest terms. -/
theorem ofParts_self_iff :
    ofParts r.num r.den = .ok r ↔ r.den ≠ 0 ∧ r.num.toNat.Coprime r.den.toNat := by
  rw [ofParts_eq_ok_iff]
  refine and_congr_right fun hne => ⟨fun ⟨hnum, hden⟩ => ?_, fun hcop => ?_⟩
  · have hreduced := (quotient r.num r.den).reduced
    rwa [hnum, hden, Int.natAbs_natCast] at hreduced
  · have hq : quotient r.num r.den = ⟨r.num.toNat, r.den.toNat, toNat_ne_zero hne, hcop⟩ :=
      (Rat.mk_eq_mkRat _ _ _ _).symm
    rw [hq]
    exact ⟨rfl, rfl⟩

/-- What two words make is made again of its own words. -/
theorem ofParts_self (h : ofParts num den = .ok r) : ofParts r.num r.den = .ok r := by
  obtain ⟨-, hnum, hden⟩ := ofParts_eq_ok_iff.mp h
  have hne : r.den ≠ 0 := fun h0 => (quotient num den).den_nz (by rw [hden, h0]; rfl)
  rw [← quotient_of_ofParts h] at hnum hden
  exact ofParts_eq_ok_iff.mpr ⟨hne, hnum, hden⟩

theorem isCanonical_of_ofParts (h : ofParts num den = .ok r) : r.IsCanonical num den := by
  obtain ⟨hne, -, -⟩ := ofParts_eq_ok_iff.mp h
  obtain ⟨hne', hcop⟩ := ofParts_self_iff.mp (ofParts_self h)
  refine ⟨(quotient_eq_iff hne hne').mp (quotient_of_ofParts h).symm,
    Nat.pos_of_ne_zero (toNat_ne_zero hne'), hcop, ?_⟩
  rintro rfl
  have hzero : ofParts 0 den = .ok ⟨0, 1⟩ :=
    ofParts_eq_ok_iff.mpr ⟨hne, by simp [quotient], by simp [quotient]⟩
  exact Except.ok.inj (h.symm.trans hzero)

end Quotient

/-- The steps of the decimal scale are in lowest terms as they stand. -/
theorem ofParts_of_mem_steps :
    ∀ step ∈ steps, ofParts step.2.num step.2.den = .ok step.2 := by
  have hlowest : ∀ step ∈ steps,
      step.2.den ≠ 0 ∧ step.2.num.toNat.Coprime step.2.den.toNat := by decide
  exact fun step hstep => ofParts_self_iff.mpr (hlowest step hstep)

example : ofParts 10 1000 = .ok centi := by decide +kernel

/-- **Ratios are canonical.** The recursion for the common divisor ends after at most 92 remainders,
none of them by zero. A ratio of two words is refused exactly when the denominator is zero.
Otherwise neither word is divided by zero and the ratio is their lowest terms, which are kept when a
ratio is made of them again. Another two words make the same ratio, word for word, exactly when the
cross products agree as numbers. -/
theorem ofParts_canonical (a b : UInt64) :
    (∃ n ≤ 92, EndsAfter n a b (commonDivisor a b)) ∧
    (∀ fault, ofParts a b = .error fault ↔ fault = .zeroDenominator ∧ b = 0) ∧
    (b ≠ 0 → commonDivisor a b ≠ 0 ∧ ∃ r, ofParts a b = .ok r ∧ r.IsCanonical a b ∧
      ofParts r.num r.den = .ok r ∧
      ∀ c d, d ≠ 0 → ∃ s, ofParts c d = .ok s ∧
        (r = s ↔ a.toNat * d.toNat = c.toNat * b.toNat)) := by
  refine ⟨?_, fun _ => ofParts_eq_error_iff, fun hb => ⟨commonDivisor_ne_zero a hb, ?_⟩⟩
  · obtain ⟨n, hn⟩ := exists_endsAfter a b
    exact ⟨n, hn.le, hn⟩
  · obtain ⟨r, hr⟩ := exists_ofParts a hb
    refine ⟨r, hr, isCanonical_of_ofParts hr, ofParts_self hr, fun c d hd => ?_⟩
    obtain ⟨s, hs⟩ := exists_ofParts c hd
    exact ⟨s, hs, (eq_iff_quotient_eq hr hs).trans (quotient_eq_iff hb hd)⟩

/-- Three halves in two ways, by cross products that no word holds, and one half, whose cross
products with the first way are both zero when only their lowest 64 bits are kept. -/
theorem ofParts_canonical_beyond_words :
    (9223372036854775808 : UInt64) ≠ 0 ∧
    ofParts 13835058055282163712 9223372036854775808 = .ok ⟨3, 2⟩ ∧
    IsCanonical ⟨3, 2⟩ 13835058055282163712 9223372036854775808 ∧
    ofParts 18446744073709551615 12297829382473034410 = .ok ⟨3, 2⟩ ∧
    ofParts 2 4 ≠ .ok ⟨3, 2⟩ := by
  obtain ⟨-, -, hmade⟩ := ofParts_canonical 13835058055282163712 9223372036854775808
  obtain ⟨-, r, hr, hcan, -, hcompare⟩ := hmade (by decide)
  have hvalue : ofParts 13835058055282163712 9223372036854775808 = .ok ⟨3, 2⟩ := by
    decide +kernel
  obtain rfl : r = ⟨3, 2⟩ := Except.ok.inj (hr.symm.trans hvalue)
  obtain ⟨t, ht, hrt⟩ := hcompare 18446744073709551615 12297829382473034410 (by decide)
  obtain ⟨s, hs, hrs⟩ := hcompare 2 4 (by decide)
  have htwo : ⟨3, 2⟩ = t := hrt.mpr (by decide)
  have hhalf : ⟨3, 2⟩ ≠ s := fun h => absurd (hrs.mp h) (by decide)
  refine ⟨by decide, hvalue, hcan, htwo ▸ ht, fun h => hhalf ?_⟩
  exact Except.ok.inj (h.symm.trans hs)

end TrialMeter.Ratio
