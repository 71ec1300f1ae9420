import Stencil.Proofs.Json.Numbers
import Stencil.Proofs.Number.Accuracy

/-!
# Significands and powers of ten

A floating point number is read from a significand of 64 bits and a power of ten, with three
roundings at most. The digits that the significand has no room for count for one more.
-/

namespace Stencil.Json

open Text (natOfDigits)
open Binary64 (Approximates InRange Holds RoundsTo CloseTo slack)

/-! ## A significand and a power of ten -/

section

variable {n k : ℕ} {e : ℤ} {q : ℚ}

theorem inRange_of_bounds (low : 1 / 10 ^ 30 ≤ q) (high : q ≤ 10 ^ 60) : InRange q := by
  constructor
  · refine le_trans ?_ low
    norm_num
  · refine high.trans ?_
    norm_num

theorem powerOfTen_approximates (hk : k ≤ 30) : (powerOfTen k).Approximates 1 (10 ^ k) := by
  have range : InRange ((tenTo k : ℕ) : ℚ) := by
    rw [cast_tenTo]
    have one : (1 : ℚ) ≤ 10 ^ k := one_le_pow₀ (by norm_num)
    have most : (10 : ℚ) ^ k ≤ 10 ^ 30 := pow_le_pow_right₀ (by norm_num) hk
    refine inRange_of_bounds (le_trans (by norm_num) one) (most.trans (by norm_num))
  obtain ⟨x, hx, approximates⟩ := Binary64.ofNat?_approximates range
  rw [powerOfTen, hx, Option.getD_some, ← cast_tenTo]
  exact approximates

theorem holds_tenTo (hk : k ≤ 22) : Holds (tenTo k) := by
  refine ⟨5 ^ k, k, ?_, ?_⟩
  · calc 5 ^ k ≤ 5 ^ 22 := Nat.pow_le_pow_right (by decide) hk
      _ < 2 ^ 53 := by decide
  · rw [← mul_pow]
    rfl

theorem powerOfTen_held (hk : k ≤ 22) :
    (powerOfTen k).Canonical ∧ (powerOfTen k).size = 10 ^ k := by
  have small : tenTo k < 2 ^ 200 := by
    calc tenTo k ≤ 10 ^ 22 := Nat.pow_le_pow_right (by decide) hk
      _ < 2 ^ 200 := by decide
  obtain ⟨x, hx, canonical, value⟩ := (holds_tenTo hk).ofNat? (Nat.pow_pos (by decide)) small
  rw [powerOfTen, hx, Option.getD_some]
  exact ⟨canonical, value.trans (cast_tenTo k)⟩

theorem floatOfParts_eq (negative : Bool) (low : -30 ≤ e) (high : e ≤ 30) :
    floatOfParts negative n e = do
      let f ← Binary64.ofNat? n
      let g ← if 0 ≤ e then f.mul? (powerOfTen e.toNat) else f.div? (powerOfTen (-e).toNat)
      return { g with negative } := by
  unfold floatOfParts
  have up : e ≤ 308 := by omega
  have down : (-e).toNat ≤ 308 := by omega
  have first : ∀ f, divideByPower ((-e).toNat / 308 + 1) f (-e).toNat =
      f.div? (powerOfTen (-e).toNat) := fun f => by rw [divideByPower, if_pos down]
  simp only [if_pos up, first]

theorem floatOfParts_zero (negative : Bool) (low : -30 ≤ e) (high : e ≤ 30) :
    floatOfParts negative 0 e = some (Binary64.zero negative) := by
  rw [floatOfParts_eq negative low high]
  have zero : Binary64.ofNat? 0 = some (Binary64.zero false) := rfl
  have product (p : Binary64) : (Binary64.zero false).mul? p =
      some (Binary64.zero (false != p.negative)) := if_pos (Nat.zero_mul _)
  have quotient (p : Binary64) : (Binary64.zero false).div? p =
      some (Binary64.zero (false != p.negative)) := by
    rw [Binary64.div?, Binary64.ofRatio]
    exact if_pos rfl
  rw [zero, Option.bind_eq_bind, Option.bind_some]
  split
  · rw [product]
    rfl
  · rw [quotient]
    rfl

theorem inRange_parts (hn : 0 < n) (fits : n < twoTo 64) (low : -30 ≤ e) (high : e ≤ 30) :
    InRange (n * 10 ^ e) := by
  have one : (1 : ℚ) ≤ n := by exact_mod_cast hn
  have most : (n : ℚ) ≤ 10 ^ 20 := by
    have width : twoTo 64 ≤ 10 ^ 20 := by decide
    exact_mod_cast fits.le.trans width
  have least : (1 / 10 ^ 30 : ℚ) ≤ 10 ^ e := by
    have power : (1 / 10 ^ 30 : ℚ) = 10 ^ (-30 : ℤ) := by norm_num
    rw [power]
    exact zpow_le_zpow_right₀ (by norm_num) low
  have greatest : (10 : ℚ) ^ e ≤ 10 ^ (30 : ℤ) := zpow_le_zpow_right₀ (by norm_num) high
  have pos : (0 : ℚ) < 10 ^ e := by positivity
  refine inRange_of_bounds ?_ ?_
  · exact least.trans (le_mul_of_one_le_left pos.le one)
  · calc (n * 10 ^ e : ℚ) ≤ 10 ^ 20 * 10 ^ (30 : ℤ) := mul_le_mul most greatest pos.le (by norm_num)
      _ ≤ 10 ^ 60 := by norm_num

theorem floatOfParts_approximates (hn : 0 < n) (fits : n < twoTo 64) (low : -30 ≤ e)
    (high : e ≤ 30) (negative : Bool) :
    ∃ x : Binary64, floatOfParts negative n e = some { x with negative } ∧
      x.Approximates 3 (n * 10 ^ e) := by
  have range := inRange_parts hn fits low high
  have whole := inRange_parts hn fits (e := 0) (by decide) (by decide)
  rw [zpow_zero, mul_one] at whole
  obtain ⟨f, hf, significand⟩ := Binary64.ofNat?_approximates whole
  rw [floatOfParts_eq negative low high, hf, Option.bind_eq_bind, Option.bind_some]
  split
  · next up =>
    obtain ⟨k, rfl⟩ := Int.eq_ofNat_of_zero_le up
    rw [zpow_natCast] at range ⊢
    have power := powerOfTen_approximates (k := k) (by omega)
    obtain ⟨x, hx, approximates⟩ := Binary64.mul?_approximates significand power whole.pos
      (by positivity) range (by decide)
    refine ⟨x, ?_, approximates⟩
    rw [Int.toNat_natCast, hx]
    rfl
  · next down =>
    obtain ⟨k, hk⟩ := Int.eq_ofNat_of_zero_le (Int.neg_nonneg.2 (not_le.1 down).le)
    have inverse : (n * 10 ^ e : ℚ) = n / 10 ^ k := by
      have negated : e = -(k : ℤ) := by omega
      rw [negated, zpow_neg, zpow_natCast, div_eq_mul_inv]
    rw [inverse] at range ⊢
    have power := powerOfTen_approximates (k := k) (by omega)
    obtain ⟨x, hx, approximates⟩ := Binary64.div?_approximates significand power whole.pos
      (by positivity) range (by decide)
    refine ⟨x, ?_, approximates⟩
    rw [hk, Int.toNat_natCast, hx]
    rfl

theorem floatOfParts_held (hn : Holds n) (pos : 0 < n) (fits : n < twoTo 64) (hk : k ≤ 22)
    {x : Binary64} (hx : x.Canonical) (h : RoundsTo (n / 10 ^ k) x) (negative : Bool) :
    floatOfParts negative n (-k) = some { x with negative } := by
  have small : n < 2 ^ 200 := fits.trans (by decide)
  obtain ⟨f, hf, significand, value⟩ := hn.ofNat? pos small
  obtain ⟨power, ten⟩ := powerOfTen_held hk
  rw [floatOfParts_eq negative (by omega) (by omega), hf, Option.bind_eq_bind, Option.bind_some]
  split
  · next up =>
    obtain rfl : k = 0 := by omega
    have product : f.mul? (powerOfTen 0) =
        some { x with negative := f.negative != (powerOfTen 0).negative } := by
      refine Binary64.ofRatio_eq_some (Nat.mul_pos significand.pos power.pos) Nat.one_pos hx ?_ _
      rw [Binary64.mul_size, value, ten, pow_zero, mul_one]
      rwa [pow_zero, div_one] at h
    have none : (-((0 : ℕ) : ℤ)).toNat = 0 := rfl
    rw [none, product]
    rfl
  · next down =>
    have quotient : f.div? (powerOfTen k) =
        some { x with negative := f.negative != (powerOfTen k).negative } := by
      refine Binary64.ofRatio_eq_some significand.pos power.pos hx ?_ _
      rwa [Binary64.div_size, value, ten]
    rw [neg_neg, Int.toNat_natCast, quotient]
    rfl

end

/-! ## Digits that are dropped -/

theorem significand_spec {ds : List Char} (hds : ∀ c ∈ ds, c.isDigit = true) {n : ℕ}
    (hn : n < twoTo 64) (taken : ℕ) :
    ∃ used unread, ds = used ++ unread ∧
      significand n taken ds = (Nat.ofDigitChars 10 used n, taken + used.length, unread) ∧
      Nat.ofDigitChars 10 used n < twoTo 64 ∧
      (unread ≠ [] → twoTo 64 ≤ 10 * Nat.ofDigitChars 10 used n + 9) := by
  induction ds generalizing n taken with
  | nil => exact ⟨[], [], rfl, rfl, hn, fun h => absurd rfl h⟩
  | cons c ds ih =>
    rw [List.forall_mem_cons] at hds
    rw [significand, if_pos hds.1]
    dsimp only
    split
    · next fits =>
      obtain ⟨used, unread, hsplit, hread, hused, hfull⟩ := ih hds.2 fits (taken + 1)
      refine ⟨c :: used, unread, by rw [hsplit]; rfl, ?_, ?_, ?_⟩
      · rw [hread, ofDigitChars_cons, List.length_cons, Nat.add_assoc, Nat.add_comm 1]
      · rwa [ofDigitChars_cons]
      · rwa [ofDigitChars_cons]
    · next full =>
      have digit := digitValue_lt hds.1
      exact ⟨[], c :: ds, rfl, rfl, hn, fun _ => by show _ ≤ 10 * n + 9; omega⟩

theorem closeTo_of_significand {n : ℕ} (full : twoTo 64 ≤ 10 * n + 9) {unit a b : ℚ}
    (hu : 0 < unit) (ha : n * unit ≤ a ∧ a ≤ (n + 1) * unit)
    (hb : n * unit ≤ b ∧ b ≤ (n + 1) * unit) : CloseTo 1 a b := by
  have large : 2 ^ 53 - 1 ≤ n := by
    have width : twoTo 64 = 2 ^ 64 := rfl
    omega
  have large' : (2 ^ 53 - 1 : ℚ) ≤ n := by
    have cast : ((2 ^ 53 - 1 : ℕ) : ℚ) ≤ n := by exact_mod_cast large
    norm_num at cast ⊢
    exact cast
  have next : (n + 1 : ℚ) * unit ≤ slack ^ 1 * (n * unit) := by
    rw [pow_one, ← mul_assoc]
    refine mul_le_mul_of_nonneg_right ?_ hu.le
    rw [slack, div_mul_eq_mul_div, le_div_iff₀ (by norm_num)]
    linarith
  have pos := pow_pos Binary64.slack_pos 1
  constructor
  · exact ha.2.trans (next.trans (mul_le_mul_of_nonneg_left hb.1 pos.le))
  · exact hb.2.trans (next.trans (mul_le_mul_of_nonneg_left ha.1 pos.le))

/-- The significand that is read of digits with a point between them, and its power of ten. -/
def numberParts (ds fs : List Char) : ℕ × ℤ :=
  let (n, _, unread) := significand 0 0 ds
  let (n, taken, _) := significand n 0 fs
  (n, unread.length - taken)

section

variable {ds fs : List Char}

theorem numberParts_of_fits (hd : ∀ c ∈ ds, c.isDigit = true) (hf : ∀ c ∈ fs, c.isDigit = true)
    (fits : natOfDigits (ds ++ fs) < twoTo 64) :
    numberParts ds fs = (natOfDigits (ds ++ fs), -(fs.length : ℤ)) := by
  rw [natOfDigits_eq, Nat.ofDigitChars_append] at fits ⊢
  have whole := (le_ofDigitChars fs _).trans_lt fits
  rw [numberParts, significand_digits hd 0 0 whole]
  dsimp only
  rw [significand_digits hf _ 0 fits]
  simp

theorem leading_bounds (ds : List Char) (hf : ∀ c ∈ fs, c.isDigit = true) :
    natOfDigits ds ≤ (natOfDigits (ds ++ fs) / 10 ^ fs.length : ℚ) ∧
      (natOfDigits (ds ++ fs) / 10 ^ fs.length : ℚ) ≤ natOfDigits ds + 1 := by
  rw [← natOfDigits_add_fractionValue]
  exact ⟨le_add_of_nonneg_right (fractionValue_nonneg fs),
    add_le_add_right (fractionValue_lt_one hf).le _⟩

/-- What is read of digits differs from them by one rounding at most. -/
theorem numberParts_spec (hd : ∀ c ∈ ds, c.isDigit = true) (hf : ∀ c ∈ fs, c.isDigit = true) :
    (numberParts ds fs).1 < twoTo 64 ∧
      (-(fs.length : ℤ) ≤ (numberParts ds fs).2 ∧ (numberParts ds fs).2 ≤ ds.length) ∧
      CloseTo 1 (natOfDigits (ds ++ fs) / 10 ^ fs.length)
        ((numberParts ds fs).1 * 10 ^ (numberParts ds fs).2) := by
  obtain ⟨used, unread, rfl, hread, hused, hfull⟩ := significand_spec hd (n := 0) (by decide) 0
  rw [← natOfDigits_eq] at hread hused hfull
  obtain ⟨more, left, rfl, hread', hmore, hfull'⟩ := significand_spec hf hused 0
  rw [ofDigitChars_natOfDigits] at hread' hmore hfull'
  rw [List.forall_mem_append] at hd hf
  have read : numberParts (used ++ unread) (more ++ left) =
      (natOfDigits (used ++ more), (unread.length : ℤ) - more.length) := by
    rw [numberParts, hread]
    dsimp only
    rw [hread', Nat.zero_add]
  rw [read, List.length_append, List.length_append]
  refine ⟨hmore, ⟨by push_cast; omega, by push_cast; omega⟩, ?_⟩
  have unit (k : ℕ) : (0 : ℚ) < 10 ^ k := by positivity
  by_cases whole : unread = []
  · subst whole
    have places : (10 : ℚ) ^ ((([] : List Char).length : ℤ) - more.length) =
        (10 ^ more.length)⁻¹ := by simp
    have value : (natOfDigits (used ++ [] ++ (more ++ left)) /
        10 ^ (more.length + left.length) : ℚ) =
        natOfDigits (used ++ more ++ left) / 10 ^ left.length * (10 ^ more.length)⁻¹ := by
      rw [List.append_nil, List.append_assoc, pow_add]
      field_simp
    rw [places, value]
    by_cases all : left = []
    · subst all
      rw [List.append_nil, List.length_nil, pow_zero, div_one]
      exact .refl 1 (by positivity)
    · have leading := leading_bounds (used ++ more) hf.2
      refine closeTo_of_significand (hfull' all) (inv_pos.2 (unit more.length)) ?_ ⟨le_rfl, ?_⟩
      · constructor
        · gcongr
          exact leading.1
        · gcongr
          exact leading.2
      · gcongr
        exact (lt_add_one _).le
  · have leading := leading_bounds used
      (List.forall_mem_append.2 ⟨hd.2, List.forall_mem_append.2 hf⟩)
    have leading' := leading_bounds used hf.1
    have value : (natOfDigits (used ++ unread ++ (more ++ left)) /
        10 ^ (more.length + left.length) : ℚ) =
        natOfDigits (used ++ (unread ++ (more ++ left))) /
          10 ^ (unread ++ (more ++ left)).length * 10 ^ unread.length := by
      rw [List.append_assoc, List.length_append, List.length_append, pow_add _ unread.length]
      field_simp
    have value' : (natOfDigits (used ++ more) * 10 ^ ((unread.length : ℤ) - more.length) : ℚ) =
        natOfDigits (used ++ more) / 10 ^ more.length * 10 ^ unread.length := by
      rw [zpow_sub₀ (by norm_num), zpow_natCast, zpow_natCast]
      field_simp
    rw [value, value']
    refine closeTo_of_significand (hfull whole) (unit unread.length) ?_ ?_
    · constructor
      · gcongr
        exact leading.1
      · gcongr
        exact leading.2
    · constructor
      · gcongr
        exact leading'.1
      · gcongr
        exact leading'.2

end

end Stencil.Json
