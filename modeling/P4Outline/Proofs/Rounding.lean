import Mathlib.Algebra.Ring.Nat
import P4Outline.Number.Binary64

/-!
# Whole numbers beyond the floating point numbers

The mantissa of a whole number has 53 digits of base two, the rest is rounded away. A number with
more than 1024 such digits lies beyond the greatest floating point number, and so does one with 1024
that is rounded up to the next power: those from half a unit below it on, as the mantissa there is
odd.

* `exponentFor_one`: the exponent that goes with a whole number.
* `roundEven_eq_top_iff`: when a mantissa is rounded up to the next power.
* `ofInt?_eq_none_iff`: the whole numbers that are too large.
-/

namespace P4Outline.Binary64

/-- The least whole number that lies beyond the floating point numbers: half a unit below the power
of two behind the greatest of them. -/
def wholeLimit : Nat := 2 ^ 1024 - 2 ^ 970

theorem scaled_one_of_le {n : Nat} {e : Int} (h : 0 ≤ e) : scaled n 1 e = (n, 2 ^ e.toNat) := by
  rw [scaled, if_pos h, Nat.one_mul]
  rfl

theorem scaled_one_of_lt {n : Nat} {e : Int} (h : e < 0) :
    scaled n 1 e = (n * 2 ^ (-e).toNat, 1) := by
  rw [scaled, if_neg (Int.not_le.2 h)]
  rfl

/-- The first 54 digits of base two of a whole number, with zeros behind a shorter one. -/
theorem le_scaled_one {n : Nat} (h : n ≠ 0) :
    2 ^ 53 ≤ (scaled n 1 ((n.log2 : Int) - 53)).1 / (scaled n 1 ((n.log2 : Int) - 53)).2 := by
  have hle : 2 ^ n.log2 ≤ n := Nat.log2_self_le h
  -- a number of at most 53 digits is scaled up, any other one down
  by_cases hl : 53 ≤ n.log2
  · rw [scaled_one_of_le (by omega), Nat.le_div_iff_mul_le (Nat.pow_pos (by decide))]
    calc 2 ^ 53 * 2 ^ ((n.log2 : Int) - 53).toNat = 2 ^ n.log2 := by
          rw [← Nat.pow_add]
          congr 1
          omega
      _ ≤ n := hle
  · rw [scaled_one_of_lt (by omega), Nat.div_one]
    calc 2 ^ 53 = 2 ^ n.log2 * 2 ^ (-((n.log2 : Int) - 53)).toNat := by
          rw [← Nat.pow_add]
          congr 1
          omega
      _ ≤ n * 2 ^ (-((n.log2 : Int) - 53)).toNat := Nat.mul_le_mul_right _ hle

/-- Of a whole number with `l + 1` digits of base two, the last `l - 52` are rounded away. -/
theorem exponentFor_one {n : Nat} (h : n ≠ 0) : exponentFor n 1 = (n.log2 : Int) - 52 := by
  have hlog : Nat.log2 1 = 0 := by decide
  have hguess : (n.log2 : Int) - (0 : Nat) - 53 = (n.log2 : Int) - 53 := by omega
  have hfull : ¬ (scaled n 1 ((n.log2 : Int) - 53)).1 / (scaled n 1 ((n.log2 : Int) - 53)).2 <
      Nat.pow 2 53 :=
    Nat.not_lt.2 (le_scaled_one h)
  unfold exponentFor leastExponent
  rw [hlog]
  dsimp only
  rw [hguess, if_neg hfull]
  omega

/-- Digits are rounded up to the next power from half a unit below it on. -/
theorem roundEven_eq_top_iff {n half : Nat} (hhalf : 0 < half) (h : n < 2 ^ 53 * (2 * half)) :
    roundEven n (2 * half) = 2 ^ 53 ↔ (2 ^ 54 - 1) * half ≤ n := by
  have hq : n / (2 * half) < 2 ^ 53 := by
    rw [Nat.div_lt_iff_lt_mul (by omega)]
    exact h
  have hn := Nat.div_add_mod n (2 * half)
  have hr := Nat.mod_lt n (show 2 * half > 0 by omega)
  unfold roundEven
  dsimp only
  generalize n / (2 * half) = q at *
  generalize n % (2 * half) = r at *
  by_cases htop : q = 2 ^ 53 - 1
  · -- the mantissa below the power is odd, so that a half goes up
    subst htop
    have hround : (if 2 * r < 2 * half then 2 ^ 53 - 1 else if 2 * half < 2 * r then 2 ^ 53 - 1 + 1
        else if (2 ^ 53 - 1) % 2 = 0 then 2 ^ 53 - 1 else 2 ^ 53 - 1 + 1) = 2 ^ 53 ↔ half ≤ r := by
      split
      · omega
      · split
        · omega
        · rw [if_neg (by decide)]
          omega
    rw [hround]
    omega
  · have hless : (2 * half) * (q + 1) ≤ (2 * half) * (2 ^ 53 - 1) :=
      Nat.mul_le_mul_left _ (by omega)
    rw [Nat.mul_add] at hless
    constructor
    · intro hround
      split at hround
      · omega
      · split at hround
        · omega
        · split at hround <;> omega
    · omega

/-- With `k + 1` as the greatest exponent, the whole numbers from half a unit below the power behind
the greatest mantissa on become infinite. -/
theorem ofRatio_eq_infinite_iff {k : Nat} (hk : greatestExponent = (k : Int) + 1) {negative : Bool}
    {n : Nat} (h : n ≠ 0) :
    ofRatio negative n 1 = .infinite negative ↔ (2 ^ 54 - 1) * 2 ^ k ≤ n := by
  have hle : 2 ^ n.log2 ≤ n := Nat.log2_self_le h
  have hlt : n < 2 ^ (n.log2 + 1) := Nat.lt_log2_self
  unfold ofRatio
  rw [if_neg h, exponentFor_one h, hk]
  dsimp only
  rcases Nat.lt_trichotomy n.log2 (k + 53) with hl | hl | hl
  · -- even a mantissa that is rounded up leaves the exponent in range
    have hsmall : n < (2 ^ 54 - 1) * 2 ^ k := by
      calc n < 2 ^ (n.log2 + 1) := hlt
        _ ≤ 2 ^ (53 + k) := Nat.pow_le_pow_right (by decide) (by omega)
        _ = 2 ^ 53 * 2 ^ k := Nat.pow_add 2 53 k
        _ ≤ (2 ^ 54 - 1) * 2 ^ k := Nat.mul_le_mul_right _ (by decide)
    refine iff_of_false ?_ (Nat.not_le.2 hsmall)
    split <;> rw [if_neg (by omega)] <;> simp
  · have hscaled : scaled n 1 ((n.log2 : Int) - 52) = (n, 2 * 2 ^ k) := by
      rw [scaled_one_of_le (by omega), ← Nat.pow_succ', hl]
      congr 2
      omega
    have hbound : n < 2 ^ 53 * (2 * 2 ^ k) := by
      calc n < 2 ^ (53 + (k + 1)) := by
            rw [hl] at hlt
            rwa [show 53 + (k + 1) = k + 53 + 1 by omega]
        _ = 2 ^ 53 * (2 * 2 ^ k) := by rw [Nat.pow_add, Nat.pow_succ' (n := k)]
    rw [hscaled, ← roundEven_eq_top_iff (Nat.two_pow_pos k) hbound]
    dsimp only
    by_cases htop : roundEven n (2 * 2 ^ k) = Nat.pow 2 53
    · rw [if_pos htop, if_pos (by omega)]
      exact iff_of_true rfl htop
    · rw [if_neg htop, if_neg (by omega)]
      exact iff_of_false (by simp) htop
  · have hlarge : (2 ^ 54 - 1) * 2 ^ k ≤ n := by
      calc (2 ^ 54 - 1) * 2 ^ k ≤ 2 ^ 54 * 2 ^ k := Nat.mul_le_mul_right _ (by decide)
        _ = 2 ^ (54 + k) := (Nat.pow_add 2 54 k).symm
        _ ≤ 2 ^ n.log2 := Nat.pow_le_pow_right (by decide) (by omega)
        _ ≤ n := hle
    refine iff_of_true ?_ hlarge
    split <;> rw [if_pos (by omega)]

theorem wholeLimit_eq : wholeLimit = (2 ^ 54 - 1) * 2 ^ 970 := by
  decide +kernel

theorem ofRatio_eq_infinite {negative sign : Bool} {num den : Nat}
    (h : ofRatio negative num den = .infinite sign) :
    sign = negative := by
  unfold ofRatio at h
  dsimp only at h
  split at h
  · cases h
  · split at h <;> split at h <;> cases h <;> rfl

/-- A whole number lies beyond the floating point numbers if and only if its size reaches the
limit. -/
theorem ofInt?_eq_none_iff (n : Int) : ofInt? n = none ↔ wholeLimit ≤ n.natAbs := by
  have hinfinite : ofInt? n = none ↔ ofRatio (n < 0) n.natAbs 1 = .infinite (n < 0) := by
    unfold ofInt?
    split
    · next sign h =>
      rw [h, ofRatio_eq_infinite h]
      simp
    · next h =>
      constructor
      · intro hnone
        cases hnone
      · exact fun hinf => absurd hinf (h _)
  rw [hinfinite]
  by_cases h : n.natAbs = 0
  · have hpos : 0 < wholeLimit := by decide +kernel
    rw [h]
    exact iff_of_false (by simp [ofRatio]) (Nat.not_le.2 hpos)
  · rw [ofRatio_eq_infinite_iff (k := 970) rfl h, wholeLimit_eq]

end P4Outline.Binary64
