import Mathlib.Data.Rat.Floor
import Stencil.Number.Binary64
import Stencil.Proofs.Number.Value

/-!
# The digits of floating point numbers

The shortest decimal that reads back has at most seventeen digits, and the first of these is not
zero.
-/

namespace Stencil

/-! ## Counting digits -/

theorem digitCount_le_iff {n k : ℕ} (hk : 0 < k) : Text.digitCount n ≤ k ↔ n < 10 ^ k :=
  Nat.length_toDigits_le_iff (by decide) hk

theorem digitCount_pos (n : ℕ) : 0 < Text.digitCount n := Nat.length_toDigits_pos

theorem lt_pow_digitCount (n : ℕ) : n < 10 ^ Text.digitCount n :=
  (digitCount_le_iff (digitCount_pos n)).1 le_rfl

theorem pow_digitCount_le {n : ℕ} (hn : 0 < n) : 10 ^ (Text.digitCount n - 1) ≤ n := by
  rcases Nat.eq_zero_or_pos (Text.digitCount n - 1) with zero | pos
  · rw [zero]
    exact hn
  · refine not_lt.1 fun less => ?_
    have few := (digitCount_le_iff pos).2 less
    omega

/-! ## Powers of ten and fractions -/

section

variable {num den k : ℕ}

theorem pow_le_div_iff (hd : 0 < den) : (10 : ℚ) ^ (k : ℤ) ≤ num / den ↔ 10 ^ k * den ≤ num := by
  have posd : (0 : ℚ) < den := by exact_mod_cast hd
  rw [zpow_natCast, le_div_iff₀ posd]
  exact_mod_cast Iff.rfl

theorem div_lt_pow_iff (hd : 0 < den) : (num / den : ℚ) < 10 ^ (k : ℤ) ↔ num < 10 ^ k * den := by
  have posd : (0 : ℚ) < den := by exact_mod_cast hd
  rw [zpow_natCast, div_lt_iff₀ posd]
  exact_mod_cast Iff.rfl

theorem inv_pow_le_div_iff (hd : 0 < den) :
    (10 : ℚ) ^ (-(k : ℤ)) ≤ num / den ↔ den ≤ 10 ^ k * num := by
  have posd : (0 : ℚ) < den := by exact_mod_cast hd
  rw [zpow_neg, zpow_natCast, le_div_iff₀ posd, inv_mul_le_iff₀ (by positivity)]
  exact_mod_cast Iff.rfl

theorem div_le_inv_pow_iff (hd : 0 < den) :
    (num / den : ℚ) ≤ 10 ^ (-(k : ℤ)) ↔ 10 ^ k * num ≤ den := by
  have posd : (0 : ℚ) < den := by exact_mod_cast hd
  rw [zpow_neg, zpow_natCast, div_le_iff₀ posd, le_inv_mul_iff₀ (by positivity)]
  exact_mod_cast Iff.rfl

theorem div_lt_inv_pow_iff (hd : 0 < den) :
    (num / den : ℚ) < 10 ^ (-(k : ℤ)) ↔ 10 ^ k * num < den := by
  have posd : (0 : ℚ) < den := by exact_mod_cast hd
  rw [zpow_neg, zpow_natCast, div_lt_iff₀ posd, lt_inv_mul_iff₀ (by positivity)]
  exact_mod_cast Iff.rfl

end

namespace Binary64

theorem leadingExponent_bounds {num den : ℕ} (hn : 0 < num) (hd : 0 < den) :
    (10 : ℚ) ^ leadingExponent num den ≤ num / den ∧
      (num / den : ℚ) < 10 ^ (leadingExponent num den + 1) := by
  unfold leadingExponent
  split
  · next large =>
    have low := (Nat.le_div_iff_mul_le hd).1 (pow_digitCount_le (Nat.div_pos large hd))
    have high := (Nat.div_lt_iff_lt_mul hd).1 (lt_pow_digitCount (num / den))
    have count := digitCount_pos (num / den)
    generalize Text.digitCount (num / den) = k at *
    have power : (k : ℤ) - 1 = ((k - 1 : ℕ) : ℤ) := by omega
    rw [sub_add_cancel, power]
    exact ⟨(pow_le_div_iff hd).2 low, (div_lt_pow_iff hd).2 high⟩
  · next small =>
    -- below one the digits of the inverse count the places, one too many at a power of ten
    have whole : 0 < den / num := Nat.div_pos (not_le.1 small).le hn
    have low := (Nat.le_div_iff_mul_le hn).1 (pow_digitCount_le whole)
    have high := (Nat.div_lt_iff_lt_mul hn).1 (lt_pow_digitCount (den / num))
    have count := digitCount_pos (den / num)
    dsimp only
    generalize Text.digitCount (den / num) = k at *
    split
    · next reached =>
      have power : -((k : ℤ) - 1) = -((k - 1 : ℕ) : ℤ) := by omega
      have reached' : den ≤ 10 ^ (k - 1) * num := by rwa [mul_comm] at reached
      have above : (10 : ℚ) ^ (-((k - 1 : ℕ) : ℤ)) < 10 ^ (-((k - 1 : ℕ) : ℤ) + 1) :=
        zpow_lt_zpow_right₀ (by norm_num) (lt_add_one _)
      rw [power]
      exact ⟨(inv_pow_le_div_iff hd).2 reached', ((div_le_inv_pow_iff hd).2 low).trans_lt above⟩
    · next less =>
      have power : -(k : ℤ) + 1 = -((k - 1 : ℕ) : ℤ) := by omega
      have less' : 10 ^ (k - 1) * num < den := by rwa [mul_comm, not_le] at less
      rw [power]
      exact ⟨(inv_pow_le_div_iff hd).2 high.le, (div_lt_inv_pow_iff hd).2 less'⟩

theorem inUnits_pos {den : ℕ} (hd : 0 < den) (num : ℕ) (e : ℤ) : 0 < (inUnits num den e).2 := by
  unfold inUnits
  split
  · exact Nat.mul_pos hd (Nat.pow_pos (by decide))
  · exact hd

theorem inUnits_value (num den : ℕ) (e : ℤ) :
    ((inUnits num den e).1 / (inUnits num den e).2 : ℚ) = num / den / 10 ^ e := by
  unfold inUnits
  split
  · next up =>
    obtain ⟨k, rfl⟩ := Int.eq_ofNat_of_zero_le up
    simp [div_div]
  · next down =>
    obtain ⟨k, hk⟩ := Int.eq_ofNat_of_zero_le (Int.neg_nonneg.2 (not_le.1 down).le)
    have power : e = -(k : ℤ) := by omega
    rw [power]
    simp [div_mul_eq_mul_div]

theorem inUnits_div_bounds {num den : ℕ} (hn : 0 < num) (hd : 0 < den) (k : ℕ) {u : ℕ × ℕ}
    (hu : u = inUnits num den (leadingExponent num den + 1 - (k + 1 : ℕ))) :
    10 ^ k ≤ u.1 / u.2 ∧ u.1 / u.2 < 10 ^ (k + 1) := by
  obtain ⟨low, high⟩ := leadingExponent_bounds hn hd
  have value := inUnits_value num den (leadingExponent num den + 1 - (k + 1 : ℕ))
  have pos := inUnits_pos hd num (leadingExponent num den + 1 - (k + 1 : ℕ))
  rw [← hu] at value pos
  generalize leadingExponent num den = lead at *
  have posq : (0 : ℚ) < u.2 := by exact_mod_cast pos
  have unit : (0 : ℚ) < 10 ^ (lead + 1 - (k + 1 : ℕ)) := zpow_pos (by norm_num) _
  have digits (j : ℕ) : (10 : ℚ) ^ j * 10 ^ (lead + 1 - (k + 1 : ℕ)) = 10 ^ (lead - k + j) := by
    have exponent : (j : ℤ) + (lead + 1 - (k + 1 : ℕ)) = lead - k + j := by omega
    rw [← zpow_natCast, ← zpow_add₀ (by norm_num), exponent]
  constructor
  · have low' : (10 : ℚ) ^ k ≤ u.1 / u.2 := by
      rw [value, le_div_iff₀ unit, digits, sub_add_cancel]
      exact low
    rw [Nat.le_div_iff_mul_le pos]
    exact_mod_cast (le_div_iff₀ posq).1 low'
  · have high' : (u.1 / u.2 : ℚ) < 10 ^ (k + 1) := by
      have next : lead - k + (k + 1 : ℕ) = lead + 1 := by omega
      rw [value, div_lt_iff₀ unit, digits, next]
      exact high
    rw [Nat.div_lt_iff_lt_mul pos]
    exact_mod_cast (div_lt_iff₀ posq).1 high'

/-! ## The shortest digits -/

theorem text_of_isZero {x : Binary64} (h : x.isZero = true) :
    x.text = (if x.negative then "-" else "") ++ "0.0" := by
  rw [text]
  exact if_pos h

theorem divNearest_cases (n d : ℕ) : divNearest n d = n / d ∨ divNearest n d = n / d + 1 := by
  unfold divNearest
  dsimp only
  split_ifs <;> simp

theorem magnitude_pos {x : Binary64} (h : x.isZero = false) :
    0 < x.magnitude.1 ∧ 0 < x.magnitude.2 := by
  have pos : 0 < x.significand := Nat.pos_of_ne_zero (beq_eq_false_iff_ne.1 h)
  have two (n : ℕ) : 0 < twoTo n := Nat.pow_pos (by decide)
  unfold magnitude scaled
  split
  · exact ⟨Nat.mul_pos pos (two _), Nat.one_pos⟩
  · exact ⟨pos, Nat.mul_pos Nat.one_pos (two _)⟩

theorem candidate_bounds {x : Binary64} (hx : x.isZero = false) {k c : ℕ} {e : ℤ}
    (h : x.candidate (k + 1) = some (c, e)) : 1 ≤ c ∧ c ≤ 10 ^ (k + 1) := by
  obtain ⟨posn, posd⟩ := magnitude_pos hx
  have bounds := inUnits_div_bounds posn posd k rfl
  have least : 0 < 10 ^ k := by positivity
  generalize hu : inUnits x.magnitude.1 x.magnitude.2
    (leadingExponent x.magnitude.1 x.magnitude.2 + 1 - (k + 1 : ℕ)) = u at bounds
  have near : c = u.1 / u.2 ∨ c = u.1 / u.2 + 1 := by
    unfold candidate at h
    simp only [hu] at h
    split at h
    · cases h
    · cases h
      exact .inl rfl
    · cases h
      exact .inr rfl
    · cases h
      exact divNearest_cases u.1 u.2
  omega

theorem dropZeros_bounds (fuel : ℕ) {c : ℕ} (hc : 1 ≤ c) (e : ℤ) :
    1 ≤ (dropZeros fuel c e).1 ∧ (dropZeros fuel c e).1 ≤ c := by
  induction fuel generalizing c e with
  | zero => exact ⟨hc, le_rfl⟩
  | succ fuel ih =>
    rw [dropZeros]
    split
    · next multiple =>
      have tenth : 1 ≤ c / 10 := by omega
      obtain ⟨low, high⟩ := ih tenth (e + 1)
      exact ⟨low, high.trans (Nat.div_le_self c 10)⟩
    · exact ⟨hc, le_rfl⟩

/-- The shortest digits are few, and they write no zero unless there is no exponent to them. -/
theorem shortest_bounds {x : Binary64} (hx : x.isZero = false) :
    x.shortest.1 ≤ 10 ^ 17 ∧ (1 ≤ x.shortest.1 ∨ x.shortest = (0, 0)) := by
  unfold shortest
  split
  · next c e found =>
    obtain ⟨k, hk, hcandidate⟩ := List.exists_of_findSome?_eq_some found
    obtain ⟨low, high⟩ := candidate_bounds hx hcandidate
    obtain ⟨low', high'⟩ := dropZeros_bounds 20 low e
    have digits : 10 ^ (k + 1) ≤ 10 ^ 17 := Nat.pow_le_pow_right (by decide) (List.mem_range.1 hk)
    exact ⟨high'.trans (high.trans digits), .inl low'⟩
  · exact ⟨Nat.zero_le _, .inr rfl⟩

end Binary64

end Stencil
