import Mathlib.Algebra.Group.Int.Defs
import Mathlib.Algebra.Group.Nat.Defs

/-!
# Positions in a list

Positions computed in 64 bits, and the items of a list between two positions.
-/

namespace Stencil

/-! ## Integers of 64 bits -/

theorem toInt_ofIntClamp_eq (i : Int) :
    (Int64.ofIntClamp i).toInt = max (-2 ^ 63) (min i (2 ^ 63 - 1)) := by
  have least := Int64.toInt_minValue
  have greatest := Int64.toInt_maxValue
  unfold Int64.ofIntClamp
  split
  · split
    · rw [Int64.toInt_ofIntLE]
      omega
    · omega
  · omega

theorem max_toInt (a b : Int64) : (max a b).toInt = max a.toInt b.toInt := by
  show (if a ≤ b then b else a).toInt = _
  by_cases h : a ≤ b
  · have order := Int64.le_iff_toInt_le.1 h
    rw [if_pos h]
    omega
  · have order := mt Int64.le_iff_toInt_le.2 h
    rw [if_neg h]
    omega

theorem min_toInt (a b : Int64) : (min a b).toInt = min a.toInt b.toInt := by
  show (if a ≤ b then a else b).toInt = _
  by_cases h : a ≤ b
  · have order := Int64.le_iff_toInt_le.1 h
    rw [if_pos h]
    omega
  · have order := mt Int64.le_iff_toInt_le.2 h
    rw [if_neg h]
    omega

/-! ## Items between two positions -/

variable {α : Type}

theorem filter_positions (xs : List α) (offset first past : Nat) :
    ((xs.zipIdx offset).filter fun e => (first : Int) ≤ e.2 ∧ (e.2 : Int) < past).map Prod.fst =
      (xs.take (past - offset)).drop (first - offset) := by
  induction xs generalizing offset with
  | nil => simp
  | cons x xs ih =>
    rw [List.zipIdx_cons, List.filter_cons]
    by_cases hpast : past ≤ offset
    · have behind : past - offset = 0 := by omega
      have behind' : past - (offset + 1) = 0 := by omega
      rw [if_neg (by simp; omega), ih, behind, behind']
      simp
    · have more : past - offset = past - (offset + 1) + 1 := by omega
      rw [more, List.take_succ_cons]
      by_cases hfirst : first ≤ offset
      · have here : first - offset = 0 := by omega
        have here' : first - (offset + 1) = 0 := by omega
        rw [if_pos (by simp; omega), List.map_cons, ih, here, here']
        rfl
      · have later : first - offset = first - (offset + 1) + 1 := by omega
        rw [if_neg (by simp; omega), ih, later, List.drop_succ_cons]

end Stencil
