import Mathlib.Algebra.Order.Field.Power
import Mathlib.Tactic.Linarith
import Mathlib.Tactic.Positivity
import Stencil.Proofs.Number.Shortest

/-!
# Rounding to binary floating point

A fraction is rounded to the nearest number, of two equally near ones to the one with the even
significand.
-/

namespace Stencil.Binary64

@[simp] theorem cast_twoTo (n : ℕ) : (twoTo n : ℚ) = 2 ^ n := by simp [twoTo]

/-! ## The nearest whole number -/

/-- The whole number is the nearest one, or the even one of the two nearest. -/
structure IsNearest (m : ℕ) (q : ℚ) : Prop where
  near : |q - m| ≤ 1 / 2
  even : |q - m| = 1 / 2 → m % 2 = 0

theorem IsNearest.unique {m k : ℕ} {q : ℚ} (hm : IsNearest m q) (hk : IsNearest k q) : m = k := by
  wlog less : m ≤ k generalizing m k
  · exact (this hk hm (le_of_not_ge less)).symm
  by_contra differ
  have above : (m : ℚ) + 1 ≤ k := by exact_mod_cast Nat.lt_of_le_of_ne less differ
  obtain ⟨-, high⟩ := abs_le.1 hm.near
  obtain ⟨low, -⟩ := abs_le.1 hk.near
  -- two whole numbers within a half are the two neighbours of a tie, and one of them is odd
  have mid : q - m = 1 / 2 := by linarith
  have mid' : q - k = -(1 / 2) := by linarith
  have next : k = m + 1 := by
    have : (k : ℚ) = m + 1 := by linarith
    exact_mod_cast this
  have evenM := hm.even (by rw [mid, abs_of_pos (by norm_num)])
  have evenK := hk.even (by rw [mid', abs_neg, abs_of_pos (by norm_num)])
  omega

theorem divNearest_isNearest {d : ℕ} (hd : 0 < d) (n : ℕ) :
    IsNearest (divNearest n d) (n / d) := by
  have posd : (0 : ℚ) < d := by exact_mod_cast hd
  have split : (n : ℚ) = d * (n / d : ℕ) + (n % d : ℕ) := by
    exact_mod_cast (Nat.div_add_mod n d).symm
  have value : (n / d : ℚ) = (n / d : ℕ) + (n % d : ℕ) / d := by
    rw [split]
    field_simp
  have nonneg : (0 : ℚ) ≤ (n % d : ℕ) / d := by positivity
  have whole : ((n % d : ℕ) / d : ℚ) < 1 := by
    rw [div_lt_one posd]
    exact_mod_cast Nat.mod_lt n hd
  have less : 2 * (n % d) < d ↔ ((n % d : ℕ) / d : ℚ) < 1 / 2 := by
    rw [div_lt_div_iff₀ posd (by norm_num), one_mul, mul_comm 2]
    exact_mod_cast Iff.rfl
  have half : 2 * (n % d) = d ↔ ((n % d : ℕ) / d : ℚ) = 1 / 2 := by
    rw [div_eq_div_iff posd.ne' (by norm_num), one_mul, mul_comm 2]
    exact_mod_cast Iff.rfl
  unfold divNearest
  dsimp only
  rw [value]
  generalize ((n % d : ℕ) / d : ℚ) = f at *
  have down : ((n / d : ℕ) + f - (n / d : ℕ) : ℚ) = f := by ring
  have up : ((n / d : ℕ) + f - (n / d + 1 : ℕ) : ℚ) = -(1 - f) := by
    push_cast
    ring
  split_ifs with hless hhalf heven
  · rw [less] at hless
    constructor
    · rw [down, abs_of_nonneg nonneg]
      exact hless.le
    · rw [down, abs_of_nonneg nonneg]
      exact fun h => absurd h hless.ne
  · rw [half] at hhalf
    constructor
    · rw [down, abs_of_nonneg nonneg]
      exact hhalf.le
    · exact fun _ => heven
  · rw [half] at hhalf
    constructor
    · rw [up, abs_neg, abs_of_pos (by linarith)]
      linarith
    · intro _
      omega
  · rw [less] at hless
    rw [half] at hhalf
    have more : 1 / 2 < f := lt_of_le_of_ne (not_lt.1 hless) (Ne.symm hhalf)
    constructor
    · rw [up, abs_neg, abs_of_pos (by linarith)]
      linarith
    · rw [up, abs_neg, abs_of_pos (by linarith)]
      intro h
      linarith

theorem isNearest_natCast (m : ℕ) : IsNearest m m := by
  constructor <;> simp

/-! ## Fractions and powers of two -/

section

variable {num den : ℕ}

theorem scaled_pos (hd : 0 < den) (num : ℕ) (e : ℤ) : 0 < (scaled num den e).2 := by
  unfold scaled
  split
  · exact hd
  · exact Nat.mul_pos hd (Nat.pow_pos (by decide))

theorem scaled_value (num den : ℕ) (e : ℤ) :
    ((scaled num den e).1 / (scaled num den e).2 : ℚ) = num / den * 2 ^ e := by
  unfold scaled
  split
  · next up =>
    obtain ⟨k, rfl⟩ := Int.eq_ofNat_of_zero_le up
    simp [div_mul_eq_mul_div]
  · next down =>
    obtain ⟨k, hk⟩ := Int.eq_ofNat_of_zero_le (Int.neg_nonneg.2 (not_le.1 down).le)
    have power : e = -(k : ℤ) := by omega
    rw [power]
    simp [div_eq_mul_inv, mul_assoc, mul_comm]

/-- The exponent at which a fraction has a whole part of 53 bits. -/
def leadingPlace (num den : ℕ) (e : ℤ) : ℤ :=
  let guess := (Nat.log2 num : ℤ) - Nat.log2 den + e - 52
  let (n, d) := scaled num den (e - guess)
  if n < twoTo 52 * d then guess - 1 else guess

theorem log2_bounds {n : ℕ} (hn : 0 < n) :
    (2 : ℚ) ^ (Nat.log2 n : ℤ) ≤ n ∧ (n : ℚ) < 2 ^ ((Nat.log2 n : ℤ) + 1) := by
  constructor
  · rw [zpow_natCast]
    exact_mod_cast Nat.log2_self_le hn.ne'
  · have high : n < 2 ^ (Nat.log2 n + 1) := Nat.lt_log2_self
    exact_mod_cast high

theorem zpow_two_add (x y : ℤ) : (2 : ℚ) ^ (x + y) = 2 ^ x * 2 ^ y := zpow_add₀ (by norm_num) x y

theorem fraction_bounds (hn : 0 < num) (hd : 0 < den) :
    (2 : ℚ) ^ ((Nat.log2 num : ℤ) - Nat.log2 den - 1) < num / den ∧
      (num / den : ℚ) < 2 ^ ((Nat.log2 num : ℤ) - Nat.log2 den + 1) := by
  have posn : (0 : ℚ) < num := by exact_mod_cast hn
  have posd : (0 : ℚ) < den := by exact_mod_cast hd
  obtain ⟨numLow, numHigh⟩ := log2_bounds hn
  obtain ⟨denLow, denHigh⟩ := log2_bounds hd
  constructor
  · calc (2 : ℚ) ^ ((Nat.log2 num : ℤ) - Nat.log2 den - 1)
        = 2 ^ (Nat.log2 num : ℤ) / 2 ^ ((Nat.log2 den : ℤ) + 1) := by
          rw [← zpow_sub₀ (by norm_num), sub_sub]
      _ ≤ num / 2 ^ ((Nat.log2 den : ℤ) + 1) := by gcongr
      _ < num / den := div_lt_div_of_pos_left posn posd denHigh
  · calc (num / den : ℚ) < 2 ^ ((Nat.log2 num : ℤ) + 1) / den := by gcongr
      _ ≤ 2 ^ ((Nat.log2 num : ℤ) + 1) / 2 ^ (Nat.log2 den : ℤ) := by gcongr
      _ = 2 ^ ((Nat.log2 num : ℤ) - Nat.log2 den + 1) := by
          rw [← zpow_sub₀ (by norm_num)]
          congr 1
          ring

theorem leadingPlace_bounds (hn : 0 < num) (hd : 0 < den) (e : ℤ) :
    2 ^ 52 * (2 : ℚ) ^ leadingPlace num den e ≤ num / den * 2 ^ e ∧
      num / den * (2 : ℚ) ^ e < 2 ^ 53 * 2 ^ leadingPlace num den e := by
  obtain ⟨low, high⟩ := fraction_bounds hn hd
  unfold leadingPlace
  dsimp only
  generalize hguess : (Nat.log2 num : ℤ) - Nat.log2 den + e - 52 = guess
  have value := scaled_value num den (e - guess)
  have pos := scaled_pos hd num (e - guess)
  generalize scaled num den (e - guess) = s at value pos
  have posq : (0 : ℚ) < s.2 := by exact_mod_cast pos
  have unit : (0 : ℚ) < 2 ^ guess := by positivity
  have shift : num / den * (2 : ℚ) ^ e = s.1 / s.2 * 2 ^ guess := by
    rw [value, mul_assoc, ← zpow_two_add, sub_add_cancel]
  have below : s.1 < twoTo 52 * s.2 ↔ (s.1 / s.2 : ℚ) < 2 ^ 52 := by
    rw [div_lt_iff₀ posq, ← cast_twoTo]
    exact_mod_cast Iff.rfl
  have more : (2 : ℚ) ^ 51 < s.1 / s.2 := by
    have power : (2 : ℚ) ^ 51 = 2 ^ ((Nat.log2 num : ℤ) - Nat.log2 den - 1) * 2 ^ (e - guess) := by
      rw [← zpow_two_add, ← zpow_natCast]
      congr 1
      push_cast
      linarith
    rw [value, power]
    gcongr
  have less : (s.1 / s.2 : ℚ) < 2 ^ 53 := by
    have power : (2 : ℚ) ^ 53 = 2 ^ ((Nat.log2 num : ℤ) - Nat.log2 den + 1) * 2 ^ (e - guess) := by
      rw [← zpow_two_add, ← zpow_natCast]
      congr 1
      push_cast
      linarith
    rw [value, power]
    gcongr
  rw [shift]
  split
  · next small =>
    have half : (2 : ℚ) ^ guess = 2 * 2 ^ (guess - 1) := by
      rw [← zpow_one_add₀ (by norm_num)]
      congr 1
      ring
    have small' := below.1 small
    rw [half]
    constructor <;> nlinarith [zpow_pos (two_pos : (0 : ℚ) < 2) (guess - 1)]
  · next large =>
    have large' := not_lt.1 (mt below.2 large)
    constructor <;> gcongr

/-! ## Rounding a fraction -/

/-- Where the significand of a fraction ends. -/
structure IsPlace (q : ℚ) (place : ℤ) : Prop where
  least : -1074 ≤ place
  below : q < 2 ^ 53 * 2 ^ place
  full : 2 ^ 52 * 2 ^ place ≤ q ∨ place = -1074

theorem IsPlace.unique {q : ℚ} {p s : ℤ} (hp : IsPlace q p) (hs : IsPlace q s) : p = s := by
  wlog less : p ≤ s generalizing p s
  · exact (this hs hp (le_of_not_ge less)).symm
  by_contra differ
  have next : p + 1 ≤ s := by omega
  rcases hs.full with low | least
  · have monotone : (2 : ℚ) ^ (p + 1) ≤ 2 ^ s := zpow_le_zpow_right₀ (by norm_num) next
    rw [zpow_two_add, zpow_one] at monotone
    have high := hp.below
    linarith
  · have := hp.least
    omega

/-- The number of a significand that was rounded, and none beyond the largest one. -/
def packed? (negative : Bool) (m : ℕ) (place : ℤ) : Option Binary64 :=
  let (m, exponent) := if m = twoTo 53 then (twoTo 52, place + 1) else (m, place)
  if m = 0 then some (zero negative)
  else if 971 < exponent then none
  else some ⟨negative, m, exponent⟩

theorem ofRatio_packed (hn : 0 < num) (hd : 0 < den) (negative : Bool) (e : ℤ) :
    ∃ m place, ofRatio negative num den e = packed? negative m place ∧
      IsPlace (num / den * 2 ^ e) place ∧
      IsNearest m (num / den * 2 ^ e / 2 ^ place) := by
  obtain ⟨low, high⟩ := leadingPlace_bounds hn hd e
  obtain ⟨place, hplace⟩ : ∃ place, place =
    if leadingPlace num den e < -1074 then -1074 else leadingPlace num den e := ⟨_, rfl⟩
  refine ⟨divNearest (scaled num den (e - place)).1 (scaled num den (e - place)).2, place,
    ?_, ?_, ?_⟩
  · unfold ofRatio
    rw [if_neg hn.ne', hplace]
    rfl
  · split at hplace
    · next small =>
      subst hplace
      have monotone : (2 : ℚ) ^ (leadingPlace num den e + 1) ≤ 2 ^ (-1074 : ℤ) :=
        zpow_le_zpow_right₀ (by norm_num) (by omega)
      rw [zpow_two_add, zpow_one] at monotone
      exact ⟨le_rfl, by linarith, .inr rfl⟩
    · next large =>
      subst hplace
      exact ⟨not_lt.1 large, high, .inl low⟩
  · have value := scaled_value num den (e - place)
    have nearest :=
      divNearest_isNearest (scaled_pos hd num (e - place)) (scaled num den (e - place)).1
    rw [value, zpow_sub₀ (by norm_num), ← mul_div_assoc] at nearest
    exact nearest

/-- The magnitude. -/
def size (x : Binary64) : ℚ := x.significand * 2 ^ x.exponent

/-- Numbers other than zero, as the format has them. -/
structure Canonical (x : Binary64) : Prop where
  pos : 0 < x.significand
  lt : x.significand < 2 ^ 53
  least : -1074 ≤ x.exponent
  greatest : x.exponent ≤ 971
  full : 2 ^ 52 ≤ x.significand ∨ x.exponent = -1074

/-- The fraction lies nearest to the number. The numbers below a power of two lie half as far apart,
and so does the middle between it and the next one down. -/
structure RoundsTo (q : ℚ) (x : Binary64) : Prop where
  nearest : IsNearest x.significand (q / 2 ^ x.exponent)
  narrow : x.significand = 2 ^ 52 → -1074 < x.exponent → 2 ^ 52 - 1 / 4 ≤ q / 2 ^ x.exponent

theorem packed?_canonical {x : Binary64} (hx : x.Canonical) (negative : Bool) :
    packed? negative x.significand x.exponent = some { x with negative } := by
  have fits : x.significand ≠ twoTo 53 := hx.lt.ne
  have greatest := hx.greatest
  rw [packed?, if_neg fits]
  dsimp only
  rw [if_neg hx.pos.ne', if_neg (by omega)]

theorem RoundsTo.below_power {q : ℚ} {x : Binary64} (hx : x.Canonical) (h : RoundsTo q x)
    (less : q < 2 ^ 52 * 2 ^ x.exponent) (notLeast : x.exponent ≠ -1074) :
    x.significand = 2 ^ 52 ∧ IsPlace q (x.exponent - 1) ∧
      IsNearest (2 ^ 53) (q / 2 ^ (x.exponent - 1)) := by
  have least := hx.least
  have unit : (0 : ℚ) < 2 ^ x.exponent := by positivity
  have small : q / 2 ^ x.exponent < 2 ^ 52 := (div_lt_iff₀ unit).2 less
  have power : x.significand = 2 ^ 52 := by
    obtain ⟨near, -⟩ := abs_le.1 h.nearest.near
    have atMost : (x.significand : ℚ) < 2 ^ 52 + 1 := by linarith
    have atMost' : x.significand < 2 ^ 52 + 1 := by exact_mod_cast atMost
    have atLeast := hx.full.resolve_right notLeast
    omega
  have narrow := h.narrow power (by omega)
  have enough := (le_div_iff₀ unit).1 narrow
  have half : (2 : ℚ) ^ x.exponent = 2 * 2 ^ (x.exponent - 1) := by
    rw [← zpow_one_add₀ (by norm_num), add_sub_cancel]
  have doubled : q / 2 ^ (x.exponent - 1) = 2 * (q / 2 ^ x.exponent) := by
    rw [half]
    field_simp
  rw [half] at less enough
  refine ⟨power, ⟨by omega, by linarith, .inl (by linarith)⟩, ?_, fun _ => by norm_num⟩
  rw [doubled, abs_le]
  push_cast
  constructor <;> linarith

theorem RoundsTo.packed {q : ℚ} {x : Binary64} (hx : x.Canonical) (h : RoundsTo q x) {m : ℕ}
    {place : ℤ} (hplace : IsPlace q place) (hm : IsNearest m (q / 2 ^ place)) (negative : Bool) :
    packed? negative m place = some { x with negative } := by
  by_cases main : 2 ^ 52 * 2 ^ x.exponent ≤ q ∨ x.exponent = -1074
  · have unit : (0 : ℚ) < 2 ^ x.exponent := by positivity
    have top : (x.significand : ℚ) + 1 ≤ 2 ^ 53 := by exact_mod_cast hx.lt
    obtain ⟨-, near⟩ := abs_le.1 h.nearest.near
    have below : q < 2 ^ 53 * 2 ^ x.exponent := (div_lt_iff₀ unit).1 (by linarith)
    obtain rfl := hplace.unique ⟨hx.least, below, main⟩
    rw [hm.unique h.nearest, packed?_canonical hx]
  · rw [not_or, not_le] at main
    obtain ⟨power, down, carried⟩ := h.below_power hx main.1 main.2
    have greatest := hx.greatest
    obtain rfl := hplace.unique down
    rw [hm.unique carried, packed?, if_pos (show 2 ^ 53 = twoTo 53 from rfl)]
    dsimp only
    rw [sub_add_cancel, if_neg (by decide), if_neg (by omega), power]
    rfl

theorem ofRatio_eq_some {x : Binary64} (hn : 0 < num) (hd : 0 < den) {e : ℤ} (hx : x.Canonical)
    (h : RoundsTo (num / den * 2 ^ e) x) (negative : Bool) :
    ofRatio negative num den e = some { x with negative } := by
  obtain ⟨m, place, hpacked, hplace, hm⟩ := ofRatio_packed hn hd negative e
  rw [hpacked]
  exact h.packed hx hplace hm negative

theorem packed?_rounds {q : ℚ} {m : ℕ} {place : ℤ} (hplace : IsPlace q place)
    (hm : IsNearest m (q / 2 ^ place)) {negative : Bool} {x : Binary64}
    (h : packed? negative m place = some x) :
    x = zero negative ∧ q < 2 ^ (-1074 : ℤ) ∨
      x.negative = negative ∧ x.Canonical ∧ RoundsTo q x := by
  have unit : (0 : ℚ) < 2 ^ place := by positivity
  have least := hplace.least
  have below : q / 2 ^ place < 2 ^ 53 := (div_lt_iff₀ unit).2 hplace.below
  obtain ⟨near, far⟩ := abs_le.1 hm.near
  by_cases carried : m = twoTo 53
  · -- rounded up to the next place, where the fraction lies half as far off
    have value : (m : ℚ) = 2 ^ 53 := by exact_mod_cast carried
    have halved : q / 2 ^ (place + 1) = q / 2 ^ place / 2 := by
      rw [zpow_two_add, zpow_one, div_mul_eq_div_div]
    rw [value] at near far
    rw [packed?, if_pos carried] at h
    dsimp only at h
    split at h
    · next none_left => cases none_left
    · split at h
      · cases h
      · cases h
        have pos : 0 < 2 ^ 52 := by decide
        have lt : 2 ^ 52 < 2 ^ 53 := by decide
        have even : 2 ^ 52 % 2 = 0 := by decide
        refine .inr ⟨rfl, ⟨pos, lt, ?_, ?_, .inl le_rfl⟩, ⟨?_, fun _ => even⟩, ?_⟩
        · dsimp only
          omega
        · dsimp only
          omega
        · dsimp only
          rw [halved, abs_le, cast_twoTo]
          constructor <;> linarith
        · intro _ _
          dsimp only
          rw [halved]
          linarith
  · rw [packed?, if_neg carried] at h
    dsimp only at h
    split at h
    · next none_left =>
      cases h
      rw [none_left, Nat.cast_zero] at far
      rcases hplace.full with full | rfl
      · have large : 2 ^ 52 ≤ q / 2 ^ place := (le_div_iff₀ unit).2 full
        linarith
      · exact .inl ⟨rfl, by simpa using (div_lt_iff₀ unit).1 (by linarith : q / _ < 1)⟩
    · next some_left =>
      split at h
      · cases h
      · cases h
        have atMost : m < 2 ^ 53 + 1 := by
          have : (m : ℚ) < 2 ^ 53 + 1 := by linarith
          exact_mod_cast this
        have fits : m ≠ 2 ^ 53 := carried
        refine .inr ⟨rfl, ⟨Nat.pos_of_ne_zero some_left, ?_, least, ?_, ?_⟩, hm, ?_⟩
        · dsimp only
          omega
        · dsimp only
          omega
        · refine hplace.full.imp_left fun full => ?_
          have atLeast : 2 ^ 52 < m + 1 := by
            have full' : 2 ^ 52 ≤ q / 2 ^ place := (le_div_iff₀ unit).2 full
            have : (2 : ℚ) ^ 52 < m + 1 := by linarith
            exact_mod_cast this
          exact Nat.lt_succ_iff.1 atLeast
        · intro _ above
          have full' : 2 ^ 52 ≤ q / 2 ^ place :=
            (le_div_iff₀ unit).2 (hplace.full.resolve_right above.ne')
          dsimp only
          linarith

/-- A fraction is rounded to a number of the format that it lies nearest to, or to zero. -/
theorem ofRatio_rounds (hn : 0 < num) (hd : 0 < den) {e : ℤ} {negative : Bool} {x : Binary64}
    (h : ofRatio negative num den e = some x) :
    x = zero negative ∧ (num / den * 2 ^ e : ℚ) < 2 ^ (-1074 : ℤ) ∨
      x.negative = negative ∧ x.Canonical ∧ RoundsTo (num / den * 2 ^ e) x := by
  obtain ⟨m, place, hpacked, hplace, hm⟩ := ofRatio_packed hn hd negative e
  exact packed?_rounds hplace hm (hpacked.symm.trans h)

theorem ofRatio_isSome (hn : 0 < num) (hd : 0 < den) {e : ℤ}
    (small : (num / den * 2 ^ e : ℚ) < 2 ^ (500 : ℤ)) (negative : Bool) :
    ∃ x, ofRatio negative num den e = some x := by
  obtain ⟨m, place, hpacked, hplace, -⟩ := ofRatio_packed hn hd negative e
  have low : place < 500 := by
    rcases hplace.full with full | rfl
    · have unit : (0 : ℚ) < 2 ^ place := by positivity
      have power : (2 : ℚ) ^ place < 2 ^ (500 : ℤ) :=
        (le_mul_of_one_le_left unit.le (by norm_num)).trans_lt (full.trans_lt small)
      exact (zpow_lt_zpow_iff_right₀ (by norm_num)).1 power
    · decide
  rw [hpacked, packed?]
  have exponent : ∀ p : ℕ × ℤ, p = (if m = twoTo 53 then (twoTo 52, place + 1) else (m, place)) →
      p.2 ≤ 971 := by
    rintro p rfl
    split <;> dsimp only <;> omega
  generalize (if m = twoTo 53 then (twoTo 52, place + 1) else (m, place)) = p at exponent
  have fits := exponent p rfl
  dsimp only
  split
  · exact ⟨_, rfl⟩
  · exact ⟨_, if_neg (by omega)⟩

end

end Stencil.Binary64
