import Stencil.Proofs.Number.Faithful

/-!
# The accuracy of floating point arithmetic

Every rounding changes a number by the same small factor at most, and none changes a number that the
format holds.
-/

namespace Stencil.Binary64

/-! ## Counting roundings -/

/-- The factor by which one rounding changes a number at most. -/
def slack : ℚ := 2 ^ 53 / (2 ^ 53 - 1)

theorem slack_pos : 0 < slack := by norm_num [slack]

/-- The numbers differ by no more than so many roundings do. -/
structure CloseTo (n : ℕ) (a b : ℚ) : Prop where
  upper : a ≤ slack ^ n * b
  lower : b ≤ slack ^ n * a

section

variable {n k : ℕ} {a b c d : ℚ}

theorem CloseTo.refl (n : ℕ) (ha : 0 ≤ a) : CloseTo n a a := by
  have one : 1 ≤ slack ^ n := one_le_pow₀ (by norm_num [slack])
  have less := le_mul_of_one_le_left ha one
  exact ⟨less, less⟩

theorem CloseTo.symm (h : CloseTo n a b) : CloseTo n b a := ⟨h.lower, h.upper⟩

theorem CloseTo.trans (h : CloseTo n a b) (g : CloseTo k b c) : CloseTo (n + k) a c := by
  have posn := pow_pos slack_pos n
  have posk := pow_pos slack_pos k
  constructor
  · calc a ≤ slack ^ n * b := h.upper
      _ ≤ slack ^ n * (slack ^ k * c) := mul_le_mul_of_nonneg_left g.upper posn.le
      _ = slack ^ (n + k) * c := by rw [pow_add, mul_assoc]
  · calc c ≤ slack ^ k * b := g.lower
      _ ≤ slack ^ k * (slack ^ n * a) := mul_le_mul_of_nonneg_left h.lower posk.le
      _ = slack ^ (n + k) * a := by ring

theorem CloseTo.mul (h : CloseTo n a b) (g : CloseTo k c d) (ha : 0 < a) (hb : 0 < b) (hc : 0 < c)
    (hd : 0 < d) : CloseTo (n + k) (a * c) (b * d) := by
  have posn := pow_pos slack_pos n
  constructor
  · calc a * c ≤ slack ^ n * b * (slack ^ k * d) :=
          mul_le_mul h.upper g.upper hc.le (by positivity)
      _ = slack ^ (n + k) * (b * d) := by ring
  · calc b * d ≤ slack ^ n * a * (slack ^ k * c) :=
          mul_le_mul h.lower g.lower hd.le (by positivity)
      _ = slack ^ (n + k) * (a * c) := by ring

theorem CloseTo.inv (h : CloseTo n a b) (ha : 0 < a) (hb : 0 < b) : CloseTo n a⁻¹ b⁻¹ := by
  have upper : b / a ≤ slack ^ n := (div_le_iff₀ ha).2 h.lower
  have lower : a / b ≤ slack ^ n := (div_le_iff₀ hb).2 h.upper
  constructor
  · rwa [← div_eq_mul_inv, le_div_iff₀ hb, mul_comm, ← div_eq_mul_inv]
  · rwa [← div_eq_mul_inv, le_div_iff₀ ha, mul_comm, ← div_eq_mul_inv]

theorem CloseTo.div (h : CloseTo n a b) (g : CloseTo k c d) (ha : 0 < a) (hb : 0 < b) (hc : 0 < c)
    (hd : 0 < d) : CloseTo (n + k) (a / c) (b / d) := by
  rw [div_eq_mul_inv, div_eq_mul_inv]
  exact h.mul (g.inv hc hd) ha hb (inv_pos.2 hc) (inv_pos.2 hd)

theorem CloseTo.doubled (h : CloseTo n a b) (few : n ≤ 4) (hb : 0 ≤ b) : a ≤ 2 * b := by
  have factor : slack ^ n ≤ 2 := by
    have one : 1 ≤ slack := by norm_num [slack]
    calc slack ^ n ≤ slack ^ 4 := pow_le_pow_right₀ one few
      _ ≤ 2 := by norm_num [slack]
  exact h.upper.trans (mul_le_mul_of_nonneg_right factor hb)

/-- Five roundings change the sixteenth digit at most. -/
theorem CloseTo.near (h : CloseTo 5 a b) (hb : 0 ≤ b) : |a - b| ≤ b / 10 ^ 15 := by
  have factor : slack ^ 5 * (1 - 1 / 10 ^ 15) ≤ 1 ∧ slack ^ 5 ≤ 1 + 1 / 10 ^ 15 := by
    norm_num [slack]
  have pos := pow_pos slack_pos 5
  have upper := h.upper
  have lower := h.lower
  generalize slack ^ 5 = t at *
  have high : t * b ≤ (1 + 1 / 10 ^ 15) * b := mul_le_mul_of_nonneg_right factor.2 hb
  have low : b * (1 - 1 / 10 ^ 15) ≤ a := by
    have scaled := mul_le_mul_of_nonneg_right factor.1 hb
    refine le_of_mul_le_mul_left ?_ pos
    linarith
  rw [abs_le]
  constructor <;> linarith

end

/-! ## One rounding -/

section

variable {x : Binary64} {q : ℚ}

theorem Canonical.size_pos (hx : x.Canonical) : 0 < x.size := by
  have pos : (0 : ℚ) < x.significand := by exact_mod_cast hx.pos
  unfold size
  positivity

theorem RoundsTo.pos (h : RoundsTo q x) (hx : x.Canonical) : 0 < q := by
  have unit : (0 : ℚ) < 2 ^ x.exponent := by positivity
  have one : (1 : ℚ) ≤ x.significand := by exact_mod_cast hx.pos
  obtain ⟨low, -⟩ := abs_le.1 h.nearest.near
  exact (div_pos_iff_of_pos_right unit).1 (by linarith)

theorem RoundsTo.full (h : RoundsTo q x) (hx : x.Canonical) (large : 2 ^ (-500 : ℤ) ≤ q) :
    2 ^ 52 ≤ x.significand := by
  refine hx.full.resolve_right fun least => ?_
  have unit : (0 : ℚ) < 2 ^ x.exponent := by positivity
  have lt : (x.significand : ℚ) + 1 ≤ 2 ^ 53 := by exact_mod_cast hx.lt
  obtain ⟨-, high⟩ := abs_le.1 h.nearest.near
  have below : q < 2 ^ 53 * 2 ^ x.exponent := (div_lt_iff₀ unit).1 (by linarith)
  have small : (2 : ℚ) ^ 53 * 2 ^ (-1074 : ℤ) < 2 ^ (-500 : ℤ) := by
    rw [← zpow_natCast, ← zpow_two_add]
    exact zpow_lt_zpow_right₀ (by norm_num) (by decide)
  rw [least] at below
  exact absurd (below.trans small) (not_lt.2 large)

theorem RoundsTo.closeTo (h : RoundsTo q x) (full : 2 ^ 52 ≤ x.significand) :
    CloseTo 1 q x.size := by
  obtain ⟨low, high⟩ := abs_le.1 h.nearest.near
  have unit : (0 : ℚ) < 2 ^ x.exponent := by positivity
  have full' : (2 ^ 52 : ℚ) ≤ x.significand := by exact_mod_cast full
  have value : q = q / 2 ^ x.exponent * 2 ^ x.exponent := (div_mul_cancel₀ q unit.ne').symm
  rw [size, value]
  generalize q / 2 ^ x.exponent = p at *
  have up : (x.significand : ℚ) + 1 / 2 ≤ slack * x.significand := by
    rw [slack, div_mul_eq_mul_div, le_div_iff₀ (by norm_num)]
    linarith
  have down : (x.significand : ℚ) ≤ slack * (x.significand - 1 / 2) := by
    rw [slack, div_mul_eq_mul_div, le_div_iff₀ (by norm_num)]
    linarith
  constructor
  · calc p * 2 ^ x.exponent ≤ slack * x.significand * 2 ^ x.exponent := by gcongr; linarith
      _ = slack ^ 1 * (x.significand * 2 ^ x.exponent) := by rw [pow_one, mul_assoc]
  · calc (x.significand * 2 ^ x.exponent : ℚ)
        ≤ slack * (x.significand - 1 / 2) * 2 ^ x.exponent := by gcongr
      _ ≤ slack * p * 2 ^ x.exponent := by
        have := slack_pos
        gcongr
        linarith
      _ = slack ^ 1 * (p * 2 ^ x.exponent) := by rw [pow_one, mul_assoc]

/-- The number is the fraction up to so many roundings. -/
structure Approximates (x : Binary64) (n : ℕ) (q : ℚ) : Prop where
  canonical : x.Canonical
  full : 2 ^ 52 ≤ x.significand
  closeTo : CloseTo n q x.size

theorem Approximates.of_closeTo {n k : ℕ} {p : ℚ} (h : x.Approximates n q) (g : CloseTo k p q) :
    x.Approximates (k + n) p :=
  ⟨h.canonical, h.full, g.trans h.closeTo⟩

theorem ofRatio_approximates {num den : ℕ} (hn : 0 < num) (hd : 0 < den) {e : ℤ}
    (low : (2 : ℚ) ^ (-500 : ℤ) ≤ num / den * 2 ^ e)
    (high : (num / den * 2 ^ e : ℚ) < 2 ^ (500 : ℤ)) (negative : Bool) :
    ∃ x, ofRatio negative num den e = some x ∧ x.Approximates 1 (num / den * 2 ^ e) := by
  obtain ⟨x, hx⟩ := ofRatio_isSome hn hd high negative
  refine ⟨x, hx, ?_⟩
  rcases ofRatio_rounds hn hd hx with ⟨-, small⟩ | ⟨-, canonical, rounds⟩
  · have less : (2 : ℚ) ^ (-1074 : ℤ) < 2 ^ (-500 : ℤ) :=
      zpow_lt_zpow_right₀ (by norm_num) (by decide)
    exact absurd (small.trans less) (not_lt.2 low)
  · have full := rounds.full canonical low
    exact ⟨canonical, full, rounds.closeTo full⟩

end

/-! ## Arithmetic -/

section

variable {x y : Binary64} {n k : ℕ} {a b q : ℚ}

/-- Numbers with which a few operations stay in range. -/
def InRange (q : ℚ) : Prop := (2 : ℚ) ^ (-200 : ℤ) ≤ q ∧ q ≤ 2 ^ (200 : ℤ)

theorem InRange.pos (h : InRange q) : 0 < q := (zpow_pos two_pos _).trans_le h.1

theorem InRange.ofRatio_approximates (hq : InRange q) {num den : ℕ} (hn : 0 < num) (hd : 0 < den)
    {e : ℤ} (h : CloseTo n q (num / den * 2 ^ e)) (few : n ≤ 4) (negative : Bool) :
    ∃ x, ofRatio negative num den e = some x ∧ x.Approximates (n + 1) q := by
  have pos : (0 : ℚ) < num / den * 2 ^ e := by
    have posn : (0 : ℚ) < num := by exact_mod_cast hn
    have posd : (0 : ℚ) < den := by exact_mod_cast hd
    positivity
  have double := h.doubled few pos.le
  have double' := h.symm.doubled few hq.pos.le
  have low : (2 : ℚ) ^ (-500 : ℤ) ≤ num / den * 2 ^ e := by
    have less : (2 : ℚ) * 2 ^ (-500 : ℤ) ≤ 2 ^ (-200 : ℤ) := by
      rw [← zpow_one_add₀ (by norm_num)]
      exact zpow_le_zpow_right₀ (by norm_num) (by decide)
    have large := hq.1
    linarith
  have high : (num / den * 2 ^ e : ℚ) < 2 ^ (500 : ℤ) := by
    have less : (2 : ℚ) * 2 ^ (200 : ℤ) < 2 ^ (500 : ℤ) := by
      rw [← zpow_one_add₀ (by norm_num)]
      exact zpow_lt_zpow_right₀ (by norm_num) (by decide)
    exact (double'.trans (mul_le_mul_of_nonneg_left hq.2 zero_le_two)).trans_lt less
  obtain ⟨x, hx, rounded⟩ := Binary64.ofRatio_approximates hn hd low high negative
  exact ⟨x, hx, rounded.of_closeTo h⟩

theorem mul_size (x y : Binary64) : ((x.significand * y.significand : ℕ) / (1 : ℕ) *
    2 ^ (x.exponent + y.exponent) : ℚ) = x.size * y.size := by
  rw [size, size, zpow_two_add]
  push_cast
  ring

theorem div_size (x y : Binary64) :
    (x.significand / y.significand * 2 ^ (x.exponent - y.exponent) : ℚ) = x.size / y.size := by
  rw [size, size, zpow_sub₀ (by norm_num), div_mul_div_comm]

theorem mul?_approximates (hx : x.Approximates n a) (hy : y.Approximates k b)
    (ha : 0 < a) (hb : 0 < b) (hab : InRange (a * b)) (few : n + k ≤ 4) :
    ∃ z, x.mul? y = some z ∧ z.Approximates (n + k + 1) (a * b) := by
  have pos := Nat.mul_pos hx.canonical.pos hy.canonical.pos
  refine hab.ofRatio_approximates pos Nat.one_pos ?_ few _
  rw [mul_size]
  exact hx.closeTo.mul hy.closeTo ha hx.canonical.size_pos hb hy.canonical.size_pos

theorem div?_approximates (hx : x.Approximates n a) (hy : y.Approximates k b)
    (ha : 0 < a) (hb : 0 < b) (hab : InRange (a / b)) (few : n + k ≤ 4) :
    ∃ z, x.div? y = some z ∧ z.Approximates (n + k + 1) (a / b) := by
  refine hab.ofRatio_approximates hx.canonical.pos hy.canonical.pos ?_ few _
  rw [div_size]
  exact hx.closeTo.div hy.closeTo ha hx.canonical.size_pos hb hy.canonical.size_pos

theorem ofNat?_approximates {m : ℕ} (hm : InRange m) :
    ∃ x, ofNat? m = some x ∧ x.Approximates 1 m := by
  have pos : 0 < m := by exact_mod_cast hm.pos
  refine hm.ofRatio_approximates pos Nat.one_pos ?_ (Nat.zero_le 4) false
  have value : ((m : ℚ) / (1 : ℕ) * 2 ^ (0 : ℤ)) = m := by simp
  rw [value]
  exact .refl 0 hm.pos.le

end

/-! ## Numbers that are held exactly -/

/-- The whole numbers that the format holds: those with 53 bits in front of zeros. -/
def Holds (m : ℕ) : Prop := ∃ a k, a < 2 ^ 53 ∧ m = a * 2 ^ k

theorem roundsTo_size (x : Binary64) : RoundsTo x.size x := by
  have unit : (0 : ℚ) < 2 ^ x.exponent := by positivity
  have value : x.size / 2 ^ x.exponent = x.significand := mul_div_cancel_right₀ _ unit.ne'
  constructor
  · rw [value]
    exact isNearest_natCast _
  · intro power _
    rw [value, power]
    norm_num

theorem exists_canonical {a : ℕ} (pos : 0 < a) (narrow : a < 2 ^ 53) {k : ℕ} (hk : k ≤ 200) :
    ∃ x : Binary64, x.negative = false ∧ x.Canonical ∧ x.size = a * 2 ^ k := by
  have low := Nat.log2_self_le pos.ne'
  have high : a < 2 ^ (a.log2 + 1) := Nat.lt_log2_self
  have width : a.log2 < 53 := (Nat.log2_lt pos.ne').2 narrow
  obtain ⟨j, hj⟩ := Nat.exists_eq_add_of_le (Nat.lt_succ_iff.1 width)
  refine ⟨⟨false, a * 2 ^ j, k - j⟩, rfl, ⟨?_, ?_, ?_, ?_, .inl ?_⟩, ?_⟩
  · exact Nat.mul_pos pos (Nat.two_pow_pos j)
  · calc a * 2 ^ j < 2 ^ (a.log2 + 1) * 2 ^ j :=
          Nat.mul_lt_mul_of_pos_right high (Nat.two_pow_pos j)
      _ = 2 ^ 53 := by rw [← pow_add]; congr 1; omega
  · dsimp only
    omega
  · dsimp only
    omega
  · calc 2 ^ 52 = 2 ^ a.log2 * 2 ^ j := by rw [← pow_add, ← hj]
      _ ≤ a * 2 ^ j := Nat.mul_le_mul_right _ low
  · rw [size]
    dsimp only
    push_cast
    rw [mul_assoc, ← zpow_natCast 2 j, ← zpow_two_add, add_sub_cancel, zpow_natCast]

theorem Holds.ofNat? {m : ℕ} (h : Holds m) (pos : 0 < m) (small : m < 2 ^ 200) :
    ∃ x, Binary64.ofNat? m = some x ∧ x.Canonical ∧ x.size = m := by
  obtain ⟨a, k, narrow, rfl⟩ := h
  have posa : 0 < a := Nat.pos_of_mul_pos_right pos
  have few : k ≤ 200 := by
    have power : 2 ^ k < 2 ^ 200 := (Nat.le_mul_of_pos_left _ posa).trans_lt small
    exact ((Nat.pow_lt_pow_iff_right (by decide)).1 power).le
  obtain ⟨x, positive, canonical, value⟩ := exists_canonical posa narrow few
  refine ⟨x, ?_, canonical, by rw [value]; push_cast; rfl⟩
  have rounds : RoundsTo (((a * 2 ^ k : ℕ) : ℚ) / (1 : ℕ) * 2 ^ (0 : ℤ)) x := by
    have same : ((a * 2 ^ k : ℕ) : ℚ) / (1 : ℕ) * 2 ^ (0 : ℤ) = x.size := by
      rw [value]
      push_cast
      simp
    rw [same]
    exact x.roundsTo_size
  have read := ofRatio_eq_some pos Nat.one_pos canonical rounds false
  have unsigned : { x with negative := false } = x := by rw [← positive]
  exact read.trans (congrArg some unsigned)

end Stencil.Binary64
