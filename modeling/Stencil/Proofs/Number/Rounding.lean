import Mathlib.Algebra.Order.Floor.Semiring
import Mathlib.Data.Nat.Find
import Mathlib.Data.Rat.Floor
import Mathlib.Tactic.Linarith
import Stencil.Proofs.Number.Value

/-!
# Rounding to decimals

A number is held with as many places as its digits leave room for. Where that cuts it short it is
rounded, ties away from zero; a number with few digits is held as it is.
-/

namespace Stencil.Decimal

/-- The magnitude in units of the last of so many places, to the nearest whole number, ties up. -/
def units (q : ℚ) (places : ℕ) : ℕ := ⌊|q| * 10 ^ places + 1 / 2⌋₊

/-- The most places, of those that decimals have, with which the mantissa can hold the number. -/
def heldPlaces (q : ℚ) : ℕ := Nat.findGreatest (fun p => units q p < mantissaBound) maxScale

def rounded (q : ℚ) : ℚ :=
  (if q < 0 then -1 else 1) * (units q (heldPlaces q) / 10 ^ heldPlaces q)

/-- Without any places the mantissa can hold the number. -/
def Fits (q : ℚ) : Prop := units q 0 < mantissaBound

instance (q : ℚ) : Decidable (Fits q) := inferInstanceAs (Decidable (_ < _))

/-- A number whose digits the mantissa can hold, with no more places than decimals have. -/
def IsHeld (q : ℚ) : Prop := ∃ m s, m < mantissaBound ∧ s ≤ maxScale ∧ |q| = m / 10 ^ s

variable {q : ℚ} {m n p s : ℕ}

theorem units_neg (q : ℚ) (p : ℕ) : units (-q) p = units q p := by rw [units, abs_neg, units]

theorem units_eq_iff : units q p = n ↔ n ≤ |q| * 10 ^ p + 1 / 2 ∧ |q| * 10 ^ p + 1 / 2 < n + 1 :=
  Nat.floor_eq_iff (by positivity)

theorem le_units_iff : n ≤ units q p ↔ n ≤ |q| * 10 ^ p + 1 / 2 := Nat.le_floor_iff (by positivity)

theorem units_mono (h : p ≤ s) : units q p ≤ units q s := by
  refine Nat.floor_le_floor ?_
  gcongr
  norm_num

theorem units_of_eq (h : |q| * 10 ^ p = n) : units q p = n := by
  rw [units_eq_iff, h]
  constructor <;> linarith

theorem units_of_places (h : |q| = m / 10 ^ p) : units q p = m :=
  units_of_eq (by rw [h]; field_simp)

theorem fits_of_units_lt (h : units q p < mantissaBound) : Fits q :=
  (units_mono p.zero_le).trans_lt h

theorem heldPlaces_eq (hs : s ≤ maxScale) (fits : units q s < mantissaBound)
    (last : s = maxScale ∨ mantissaBound ≤ units q (s + 1)) : heldPlaces q = s := by
  refine Nat.findGreatest_eq_iff.2 ⟨hs, fun _ => fits, fun p hsp hp => ?_⟩
  rcases last with rfl | full
  · omega
  · exact not_lt.2 (full.trans (units_mono hsp))

theorem rounded_neg (q : ℚ) : rounded (-q) = -rounded q := by
  have held : heldPlaces (-q) = heldPlaces q := by simp only [heldPlaces, units_neg]
  rw [rounded, rounded, held, units_neg]
  rcases lt_trichotomy q 0 with h | rfl | h
  · rw [if_neg (by linarith), if_pos h]
    ring
  · simp [units_of_eq (show |(0 : ℚ)| * 10 ^ heldPlaces 0 = (0 : ℕ) by simp)]
  · rw [if_pos (by linarith), if_neg h.not_gt]
    ring

theorem fits_neg (q : ℚ) : Fits (-q) ↔ Fits q := by rw [Fits, units_neg, Fits]

theorem rounded_of_nonneg (h : 0 ≤ q) : rounded q = units q (heldPlaces q) / 10 ^ heldPlaces q := by
  rw [rounded, if_neg h.not_gt, one_mul]

theorem units_of_held (h : |q| = m / 10 ^ s) (hp : s ≤ p) : |q| * 10 ^ p = units q p := by
  obtain ⟨k, rfl⟩ := Nat.exists_eq_add_of_le hp
  have whole : |q| * 10 ^ (s + k) = (m * 10 ^ k : ℕ) := by
    rw [h, pow_add]
    push_cast
    field_simp
  rw [units_of_eq whole, whole]

theorem fits_of_isHeld (h : IsHeld q) : Fits q := by
  obtain ⟨m, s, hm, -, hq⟩ := h
  exact fits_of_units_lt ((units_of_places hq).trans_lt hm)

theorem rounded_of_isHeld (h : IsHeld q) : rounded q = q := by
  obtain ⟨m, s, hm, hs, hq⟩ := h
  have fits : units q s < mantissaBound := (units_of_places hq).trans_lt hm
  have more : s ≤ heldPlaces q := Nat.le_findGreatest hs fits
  have magnitude : (units q (heldPlaces q) / 10 ^ heldPlaces q : ℚ) = |q| := by
    rw [← units_of_held hq more]
    field_simp
  rw [rounded, magnitude]
  split
  · next h => rw [abs_of_neg h]; ring
  · next h => rw [abs_of_nonneg (not_lt.1 h), one_mul]

end Stencil.Decimal
