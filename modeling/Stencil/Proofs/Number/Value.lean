import Mathlib.Algebra.Order.Field.Rat
import Mathlib.Tactic.Positivity
import Stencil.Number.Decimal

/-!
# Decimals as rational numbers

Decimals are compared by the rational numbers that they are, whatever places these are written with.
-/

namespace Stencil

@[simp] theorem cast_tenTo (n : Nat) : (tenTo n : ℚ) = 10 ^ n := by simp [tenTo]

namespace Decimal

def value (d : Decimal) : ℚ := d.signed / 10 ^ d.scale

theorem signed_mul_lt_iff (a b : Decimal) :
    a.signed * tenTo b.scale < b.signed * tenTo a.scale ↔ a.value < b.value := by
  unfold value
  rw [div_lt_div_iff₀ (by positivity) (by positivity)]
  simp only [← cast_tenTo]
  exact_mod_cast Iff.rfl

theorem compare_eq_lt_iff (a b : Decimal) : a.compare b = .lt ↔ a.value < b.value :=
  compare_lt_iff_lt.trans (signed_mul_lt_iff a b)

theorem compare_eq_gt_iff (a b : Decimal) : a.compare b = .gt ↔ b.value < a.value :=
  compare_gt_iff_gt.trans (signed_mul_lt_iff b a)

theorem compare_eq_eq_iff (a b : Decimal) : a.compare b = .eq ↔ a.value = b.value := by
  have less := compare_eq_lt_iff a b
  have greater := compare_eq_gt_iff a b
  rcases lt_trichotomy a.value b.value with h | h | h
  · simp [less.2 h, h.ne]
  · have notLess := mt less.1 h.not_lt
    have notGreater := mt greater.1 h.symm.not_lt
    cases hc : a.compare b <;> simp_all
  · simp [greater.2 h, h.ne']

theorem equal_iff (a b : Decimal) : a.equal b = true ↔ a.value = b.value := by
  rw [equal, beq_iff_eq, compare_eq_eq_iff]

end Decimal

end Stencil
