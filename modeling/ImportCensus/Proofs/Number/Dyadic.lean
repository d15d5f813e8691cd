import ImportCensus.Number.Dyadic
import Mathlib.Algebra.Order.Field.Power
import Mathlib.Data.Rat.Cast.Order
import Mathlib.Tactic.FieldSimp
import Mathlib.Tactic.Linarith
import Mathlib.Tactic.Positivity
import Mathlib.Tactic.Ring
/-!
# How far rounding goes

A quotient that is rounded to 53 bits is off by at most its 2⁵³rd part, and a natural number that
has no more bits is kept as it is.  With these two facts the bounds of a computation follow from
the numbers that it is about.
-/

namespace ImportCensus.Number

namespace Dyadic

variable {n d places : Nat} {x y : Dyadic}

/-- The number that is held. -/
def value (x : Dyadic) : ℚ :=
  x.num / 2 ^ x.scale

theorem atLeast_iff : x.atLeast n = true ↔ (n : ℚ) ≤ x.value := by
  rw [atLeast, decide_eq_true_eq, value, le_div_iff₀ (by positivity)]
  exact_mod_cast Iff.rfl

/-! ## One rounding -/

theorem roundDiv_near_div (n : Nat) (hd : 0 < d) : |(roundDiv n d : ℚ) - n / d| ≤ 1 / 2 := by
  obtain ⟨hle, hge⟩ := roundDiv_near n d hd
  have hd' : (0 : ℚ) < d := by exact_mod_cast hd
  have hle' : (2 * (roundDiv n d * d) : ℚ) ≤ 2 * n + d := by exact_mod_cast hle
  have hge' : (2 * n : ℚ) ≤ 2 * (roundDiv n d * d) + d := by exact_mod_cast hge
  have hdiff : (roundDiv n d : ℚ) - n / d = (roundDiv n d * d - n) / d := by field_simp
  rw [hdiff, abs_div, abs_of_pos hd', div_le_iff₀ hd', abs_le]
  constructor
  · linarith
  · linarith

theorem two_zpow_eq_div (e : ℤ) : (2 : ℚ) ^ e = 2 ^ e.toNat / 2 ^ (-e).toNat := by
  rw [eq_div_iff (by positivity), ← zpow_natCast, ← zpow_natCast, ← zpow_add₀ two_ne_zero]
  congr 1
  omega

theorem two_zpow_exponent_le (hn : 0 < n) (hd : 0 < d) :
    (2 : ℚ) ^ exponent n d ≤ n / d / 2 ^ 52 := by
  have hd' : (0 : ℚ) < d := by exact_mod_cast hd
  rw [le_div_iff₀ (by positivity), le_div_iff₀ hd']
  unfold exponent
  extract_lets low
  split
  · have hlow : (2 : ℚ) ^ n.log2 ≤ n := by exact_mod_cast Nat.log2_self_le hn.ne'
    have hhigh : (d : ℚ) ≤ 2 ^ (d.log2 + 1) := by exact_mod_cast Nat.lt_log2_self.le
    have hpow : (2 : ℚ) ^ low * 2 ^ 52 * 2 ^ (d.log2 + 1) = 2 ^ n.log2 := by
      simp only [← zpow_natCast, ← zpow_add₀ (two_ne_zero : (2 : ℚ) ≠ 0)]
      congr 1
      push_cast
      omega
    calc (2 : ℚ) ^ low * 2 ^ 52 * d ≤ 2 ^ low * 2 ^ 52 * 2 ^ (d.log2 + 1) := by gcongr
      _ = 2 ^ n.log2 := hpow
      _ ≤ n := hlow
  · rename_i hge
    have hge' : (d : ℚ) * 2 ^ low.toNat * 2 ^ 53 ≤ n * 2 ^ (-low).toNat := by
      exact_mod_cast not_lt.mp hge
    have hpos : (0 : ℚ) < 2 ^ (-low).toNat := by positivity
    calc (2 : ℚ) ^ (low + 1) * 2 ^ 52 * d
        = (d : ℚ) * 2 ^ low.toNat * 2 ^ 53 / 2 ^ (-low).toNat := by
          rw [zpow_add_one₀ two_ne_zero, two_zpow_eq_div]
          ring
      _ ≤ (n : ℚ) := (div_le_iff₀ hpos).mpr hge'

theorem lt_two_zpow_exponent (n : Nat) (hd : 0 < d) :
    (n : ℚ) / d < 2 ^ exponent n d * 2 ^ 53 := by
  have hd' : (0 : ℚ) < d := by exact_mod_cast hd
  rw [div_lt_iff₀ hd']
  unfold exponent
  extract_lets low
  split
  · rename_i hlt
    have hlt' : (n * 2 ^ (-low).toNat : ℚ) < d * 2 ^ low.toNat * 2 ^ 53 := by exact_mod_cast hlt
    have hpos : (0 : ℚ) < 2 ^ (-low).toNat := by positivity
    calc (n : ℚ) < d * 2 ^ low.toNat * 2 ^ 53 / 2 ^ (-low).toNat := (lt_div_iff₀ hpos).mpr hlt'
      _ = 2 ^ low * 2 ^ 53 * d := by
        rw [two_zpow_eq_div]
        ring
  · have hhigh : (n : ℚ) < 2 ^ (n.log2 + 1) := by exact_mod_cast Nat.lt_log2_self
    have hlow : (2 : ℚ) ^ d.log2 ≤ d := by exact_mod_cast Nat.log2_self_le hd.ne'
    have hpow : (2 : ℚ) ^ (n.log2 + 1) = 2 ^ (low + 1) * 2 ^ 53 * 2 ^ d.log2 := by
      simp only [← zpow_natCast, ← zpow_add₀ (two_ne_zero : (2 : ℚ) ≠ 0)]
      congr 1
      push_cast
      omega
    calc (n : ℚ) < 2 ^ (n.log2 + 1) := hhigh
      _ = 2 ^ (low + 1) * 2 ^ 53 * 2 ^ d.log2 := hpow
      _ ≤ 2 ^ (low + 1) * 2 ^ 53 * d := by gcongr

def mantissa (n d : Nat) : Nat :=
  roundDiv (n * 2 ^ (-exponent n d).toNat) (d * 2 ^ (exponent n d).toNat)

theorem mantissa_near (n : Nat) (hd : 0 < d) :
    |(mantissa n d : ℚ) - n / d / 2 ^ exponent n d| ≤ 1 / 2 := by
  have hnear := roundDiv_near_div (n * 2 ^ (-exponent n d).toNat)
    (d := d * 2 ^ (exponent n d).toNat) (by positivity)
  have hquotient : ((n * 2 ^ (-exponent n d).toNat : Nat) : ℚ) /
      (d * 2 ^ (exponent n d).toNat : Nat) = n / d / 2 ^ exponent n d := by
    push_cast
    rw [two_zpow_eq_div]
    field_simp
  rwa [hquotient] at hnear

theorem value_ofRatio (hn : 0 < n) : (ofRatio n d).value = mantissa n d * 2 ^ exponent n d := by
  rw [ofRatio, if_neg hn.ne']
  change ((mantissa n d * 2 ^ (exponent n d).toNat : Nat) : ℚ) / 2 ^ (-exponent n d).toNat = _
  rw [two_zpow_eq_div, mul_div_assoc']
  push_cast
  rfl

/-- A quotient is rounded by at most its 2⁵³rd part. -/
theorem ofRatio_near (n : Nat) (hd : 0 < d) :
    |(ofRatio n d).value - n / d| ≤ n / d / 2 ^ 53 := by
  rcases Nat.eq_zero_or_pos n with rfl | hn
  · simp [ofRatio, value]
  have hexponent := two_zpow_exponent_le hn hd
  have hmantissa := mantissa_near n hd
  rw [value_ofRatio hn]
  have hpos : (0 : ℚ) < 2 ^ exponent n d := by positivity
  have hdiff : (mantissa n d : ℚ) * 2 ^ exponent n d - n / d =
      (mantissa n d - n / d / 2 ^ exponent n d) * 2 ^ exponent n d := by
    field_simp
  calc |(mantissa n d : ℚ) * 2 ^ exponent n d - n / d|
      = |(mantissa n d : ℚ) - n / d / 2 ^ exponent n d| * 2 ^ exponent n d := by
        rw [hdiff, abs_mul, abs_of_pos hpos]
    _ ≤ 1 / 2 * (n / d / 2 ^ 52) := by gcongr
    _ = n / d / 2 ^ 53 := by ring

theorem ofNat_near (n : Nat) : |(ofNat n).value - n| ≤ n / 2 ^ 53 := by
  have hnear := ofRatio_near n one_pos
  rwa [Nat.cast_one, div_one] at hnear

/-! ## Numbers that are held as they are -/

/-- Whether a number has at most 53 significant bits. -/
def IsHeld (q : ℚ) : Prop :=
  ∃ (m : Nat) (e : ℤ), m < 2 ^ 53 ∧ q = m * 2 ^ e

theorem IsHeld.div_two_pow {q : ℚ} (h : IsHeld q) (k : Nat) : IsHeld (q / 2 ^ k) := by
  obtain ⟨m, e, hm, rfl⟩ := h
  refine ⟨m, e - k, hm, ?_⟩
  rw [zpow_sub₀ two_ne_zero, zpow_natCast, mul_div_assoc]

theorem isHeld_ofRatio (n : Nat) (hd : 0 < d) : IsHeld (ofRatio n d).value := by
  rcases Nat.eq_zero_or_pos n with rfl | hn
  · exact ⟨0, 0, by decide, by simp [ofRatio, value]⟩
  have hpos : (0 : ℚ) < 2 ^ exponent n d := by positivity
  have hquotient : (n : ℚ) / d / 2 ^ exponent n d < 2 ^ 53 := by
    rw [div_lt_iff₀ hpos, mul_comm]
    exact lt_two_zpow_exponent n hd
  have hmantissa : mantissa n d ≤ 2 ^ 53 := by
    have hnear := (abs_le.mp (mantissa_near n hd)).2
    have hlt : (mantissa n d : ℚ) < 2 ^ 53 + 1 := by linarith
    exact Nat.lt_succ_iff.mp (by exact_mod_cast hlt)
  rw [value_ofRatio hn]
  rcases hmantissa.lt_or_eq with hlt | heq
  · exact ⟨_, _, hlt, rfl⟩
  · -- a mantissa that is rounded up to one bit more is that bit alone
    refine ⟨2 ^ 52, exponent n d + 1, by decide, ?_⟩
    rw [heq, zpow_add_one₀ two_ne_zero]
    push_cast
    ring

/-- A number of at most 53 bits is a whole number at its exponent, so nothing is rounded. -/
theorem value_ofRatio_of_isHeld (hd : 0 < d) (h : IsHeld (n / d)) :
    (ofRatio n d).value = n / d := by
  rcases Nat.eq_zero_or_pos n with rfl | hn
  · simp [ofRatio, value]
  obtain ⟨m, e, hm, hq⟩ := h
  have hlow := two_zpow_exponent_le hn hd
  have hexponent : exponent n d ≤ e := by
    have hm' : (m : ℚ) < 2 ^ 53 := by exact_mod_cast hm
    have hlt : (2 : ℚ) ^ exponent n d < 2 ^ (e + 1) := by
      calc (2 : ℚ) ^ exponent n d ≤ m * 2 ^ e / 2 ^ 52 := hq ▸ hlow
        _ < 2 ^ 53 * 2 ^ e / 2 ^ 52 := by gcongr
        _ = 2 ^ (e + 1) := by
          rw [zpow_add_one₀ two_ne_zero]
          ring
    exact Int.lt_add_one_iff.mp ((zpow_lt_zpow_iff_right₀ one_lt_two).mp hlt)
  have hwhole : (n : ℚ) / d / 2 ^ exponent n d = (m * 2 ^ (e - exponent n d).toNat : Nat) := by
    have hpow : (2 : ℚ) ^ e = 2 ^ (e - exponent n d).toNat * 2 ^ exponent n d := by
      rw [← zpow_natCast, ← zpow_add₀ two_ne_zero]
      congr 1
      omega
    rw [hq, hpow]
    push_cast
    field_simp
  have hmantissa : mantissa n d = m * 2 ^ (e - exponent n d).toNat := by
    have hnear := mantissa_near n hd
    rw [hwhole, abs_le] at hnear
    have hle : (mantissa n d : ℚ) < (m * 2 ^ (e - exponent n d).toNat : Nat) + 1 := by linarith
    have hge : ((m * 2 ^ (e - exponent n d).toNat : Nat) : ℚ) < mantissa n d + 1 := by linarith
    exact Nat.le_antisymm (Nat.lt_succ_iff.mp (by exact_mod_cast hle))
      (Nat.lt_succ_iff.mp (by exact_mod_cast hge))
  rw [value_ofRatio hn, hmantissa, ← hwhole]
  field_simp

theorem value_ofNat (h : n < 2 ^ 53) : (ofNat n).value = n := by
  have hheld : IsHeld (n / (1 : Nat)) := ⟨n, 0, h, by simp⟩
  have hvalue := value_ofRatio_of_isHeld one_pos hheld
  rwa [Nat.cast_one, div_one] at hvalue

/-! ## Arithmetic -/

theorem add_near (x y : Dyadic) :
    |(x.add y).value - (x.value + y.value)| ≤ (x.value + y.value) / 2 ^ 53 := by
  have hnear := ofRatio_near (x.num * 2 ^ y.scale + y.num * 2 ^ x.scale)
    (d := 2 ^ (x.scale + y.scale)) (by positivity)
  have hsum : ((x.num * 2 ^ y.scale + y.num * 2 ^ x.scale : Nat) : ℚ) /
      (2 ^ (x.scale + y.scale) : Nat) = x.value + y.value := by
    unfold value
    push_cast
    rw [pow_add]
    field_simp
  rwa [hsum] at hnear

theorem mul_near (x y : Dyadic) :
    |(x.mul y).value - x.value * y.value| ≤ x.value * y.value / 2 ^ 53 := by
  have hnear := ofRatio_near (x.num * y.num) (d := 2 ^ (x.scale + y.scale)) (by positivity)
  have hproduct : ((x.num * y.num : Nat) : ℚ) / (2 ^ (x.scale + y.scale) : Nat) =
      x.value * y.value := by
    unfold value
    push_cast
    rw [pow_add]
    field_simp
  rwa [hproduct] at hnear

theorem num_pos (hx : 0 < x.value) : 0 < x.num := by
  by_contra hzero
  rw [value, Nat.eq_zero_of_not_pos hzero] at hx
  simp at hx

theorem div_ratio (x : Dyadic) (hy : 0 < y.value) :
    ((x.num * 2 ^ y.scale : Nat) : ℚ) / (y.num * 2 ^ x.scale : Nat) = x.value / y.value := by
  have hnum : (y.num : ℚ) ≠ 0 := by exact_mod_cast (num_pos hy).ne'
  unfold value
  push_cast
  field_simp

theorem div_near (x : Dyadic) (hy : 0 < y.value) :
    |(x.div y).value - x.value / y.value| ≤ x.value / y.value / 2 ^ 53 := by
  have hnum := num_pos hy
  have hnear := ofRatio_near (x.num * 2 ^ y.scale) (d := y.num * 2 ^ x.scale) (by positivity)
  rwa [div_ratio x hy] at hnear

theorem value_div (hy : 0 < y.value) (h : IsHeld (x.value / y.value)) :
    (x.div y).value = x.value / y.value := by
  have hnum := num_pos hy
  have hd : 0 < y.num * 2 ^ x.scale := by positivity
  rw [← div_ratio x hy] at h ⊢
  exact value_ofRatio_of_isHeld hd h

theorem ofNat_div_near (n : Nat) (hd : 0 < d) (hd' : d < 2 ^ 53) :
    |((ofNat n).div (ofNat d)).value - n / d| ≤ n / d / 2 ^ 51 := by
  have hpos : (0 : ℚ) < d := by exact_mod_cast hd
  have hquotient := div_near (ofNat n) (y := ofNat d) (by rwa [value_ofNat hd'])
  rw [value_ofNat hd'] at hquotient
  have hcount : |(ofNat n).value / d - n / d| ≤ n / d / 2 ^ 53 := by
    rw [← sub_div, abs_div, abs_of_pos hpos, div_right_comm]
    gcongr
    exact ofNat_near n
  have hratio : (0 : ℚ) ≤ n / d := by positivity
  rw [abs_le] at hquotient hcount ⊢
  constructor
  · linarith [hquotient.1, hcount.1]
  · linarith [hquotient.2, hcount.2]

/-- The digits that are shown are off by at most half of the last one. -/
theorem units_near (places : Nat) (x : Dyadic) :
    |(x.units places : ℚ) - x.value * 10 ^ places| ≤ 1 / 2 := by
  have hnear := roundDiv_near_div (x.num * 10 ^ places) (d := 2 ^ x.scale) (by positivity)
  have hquotient : ((x.num * 10 ^ places : Nat) : ℚ) / (2 ^ x.scale : Nat) =
      x.value * 10 ^ places := by
    unfold value
    push_cast
    ring
  rwa [hquotient] at hnear

end Dyadic

end ImportCensus.Number
