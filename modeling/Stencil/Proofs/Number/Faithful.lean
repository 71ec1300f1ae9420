import Stencil.Proofs.Number.Nearest
import Stencil.Proofs.Number.Writing

/-!
# Printed floating point numbers

The digits that a number is printed with lie nearest to it: seventeen of them always do, and fewer
are taken only where they still do.
-/

namespace Stencil.Binary64

open Stencil.Path (IsDigits IsSign)
open Text (natOfDigits)
open Decimal (natOfDigits_zeros textValue_power)

variable {x : Binary64} {c : ℕ} {e : ℤ}

/-! ## Reading back -/

/-- A decimal as a fraction of whole numbers. -/
def decimalFraction (c : ℕ) (e : ℤ) : ℕ × ℕ :=
  if 0 ≤ e then (c * tenTo e.toNat, 1) else (c, tenTo (-e).toNat)

theorem decimalFraction_pos (c : ℕ) (e : ℤ) : 0 < (decimalFraction c e).2 := by
  unfold decimalFraction
  split
  · exact Nat.one_pos
  · exact Nat.pow_pos (by decide)

theorem decimalFraction_value (c : ℕ) (e : ℤ) :
    ((decimalFraction c e).1 / (decimalFraction c e).2 : ℚ) = c * 10 ^ e := by
  unfold decimalFraction
  split
  · next up =>
    obtain ⟨k, rfl⟩ := Int.eq_ofNat_of_zero_le up
    simp
  · next down =>
    obtain ⟨k, hk⟩ := Int.eq_ofNat_of_zero_le (Int.neg_nonneg.2 (not_le.1 down).le)
    have power : e = -(k : ℤ) := by omega
    rw [power]
    simp [div_eq_mul_inv]

/-- A decimal in units of the last place of the number. -/
def inPlaces (x : Binary64) (c : ℕ) (e : ℤ) : ℚ := c * 10 ^ e / 2 ^ x.exponent

theorem quarters_compare (x : Binary64) (c : ℕ) (e : ℤ) (k : ℕ) :
    (k * (scaled 1 4 x.exponent).1 * (decimalFraction c e).2 ≤
        (decimalFraction c e).1 * (scaled 1 4 x.exponent).2 ↔ (k / 4 : ℚ) ≤ x.inPlaces c e) ∧
      ((decimalFraction c e).1 * (scaled 1 4 x.exponent).2 ≤
        k * (scaled 1 4 x.exponent).1 * (decimalFraction c e).2 ↔ x.inPlaces c e ≤ k / 4) := by
  have power : (0 : ℚ) < 2 ^ x.exponent := by positivity
  have posd : (0 : ℚ) < (decimalFraction c e).2 := by exact_mod_cast decimalFraction_pos c e
  have posb : (0 : ℚ) < (scaled 1 4 x.exponent).2 := by
    exact_mod_cast scaled_pos (by decide) 1 x.exponent
  have quarter := (div_eq_iff posb.ne').1 (scaled_value 1 4 x.exponent)
  have value := (div_eq_iff posd.ne').1 (decimalFraction_value c e)
  -- both sides are whole multiples of one unit
  have unit : (0 : ℚ) < (decimalFraction c e).2 * (scaled 1 4 x.exponent).2 * 2 ^ x.exponent := by
    positivity
  have right : ((decimalFraction c e).1 * (scaled 1 4 x.exponent).2 : ℚ) =
      x.inPlaces c e * ((decimalFraction c e).2 * (scaled 1 4 x.exponent).2 * 2 ^ x.exponent) := by
    rw [value, inPlaces]
    field_simp
  have left : (k * (scaled 1 4 x.exponent).1 * (decimalFraction c e).2 : ℚ) =
      k / 4 * ((decimalFraction c e).2 * (scaled 1 4 x.exponent).2 * 2 ^ x.exponent) := by
    rw [quarter]
    push_cast
    ring
  constructor
  · rw [← mul_le_mul_iff_of_pos_right unit, ← left, ← right]
    exact_mod_cast Iff.rfl
  · rw [← mul_le_mul_iff_of_pos_right unit, ← left, ← right]
    exact_mod_cast Iff.rfl

/-- Half of the last place, and a quarter just above a power of two. -/
def halfBelow (x : Binary64) : ℚ :=
  if x.significand = 2 ^ 52 ∧ -1074 < x.exponent then 1 / 4 else 1 / 2

theorem readsBack_iff (hx : 0 < x.significand) :
    x.readsBack c e = true ↔
      if x.significand % 2 = 0 then
        x.significand - x.halfBelow ≤ x.inPlaces c e ∧ x.inPlaces c e ≤ x.significand + 1 / 2
      else
        x.significand - x.halfBelow < x.inPlaces c e ∧ x.inPlaces c e < x.significand + 1 / 2 := by
  obtain ⟨low, hlow⟩ : ∃ low, low = if x.significand = twoTo 52 ∧ -1074 < x.exponent then
    4 * x.significand - 1 else 4 * x.significand - 2 := ⟨_, rfl⟩
  have lowValue : (low / 4 : ℚ) = x.significand - x.halfBelow := by
    have power : twoTo 52 = 2 ^ 52 := rfl
    rw [hlow, halfBelow, power]
    split
    · rw [Nat.cast_sub (by omega)]
      push_cast
      ring
    · rw [Nat.cast_sub (by omega)]
      push_cast
      ring
  have highValue : ((4 * x.significand + 2 : ℕ) / 4 : ℚ) = x.significand + 1 / 2 := by
    push_cast
    ring
  obtain ⟨lowLe, leLow⟩ := quarters_compare x c e low
  obtain ⟨highLe, leHigh⟩ := quarters_compare x c e (4 * x.significand + 2)
  rw [lowValue] at lowLe leLow
  rw [highValue] at highLe leHigh
  have unfolded : x.readsBack c e = if x.significand % 2 = 0 then
      decide (low * (scaled 1 4 x.exponent).1 * (decimalFraction c e).2 ≤
          (decimalFraction c e).1 * (scaled 1 4 x.exponent).2) &&
        decide ((decimalFraction c e).1 * (scaled 1 4 x.exponent).2 ≤
          (4 * x.significand + 2) * (scaled 1 4 x.exponent).1 * (decimalFraction c e).2)
      else
        decide (low * (scaled 1 4 x.exponent).1 * (decimalFraction c e).2 <
          (decimalFraction c e).1 * (scaled 1 4 x.exponent).2) &&
        decide ((decimalFraction c e).1 * (scaled 1 4 x.exponent).2 <
          (4 * x.significand + 2) * (scaled 1 4 x.exponent).1 * (decimalFraction c e).2) := by
    rw [hlow]
    rfl
  rw [unfolded]
  split
  · rw [Bool.and_eq_true, decide_eq_true_eq, decide_eq_true_eq, lowLe, leHigh]
  · rw [Bool.and_eq_true, decide_eq_true_eq, decide_eq_true_eq, ← not_le, leLow, ← not_le, highLe,
      not_le, not_le]

theorem roundsTo_of_readsBack (hx : x.Canonical) (h : x.readsBack c e = true) :
    RoundsTo (c * 10 ^ e) x := by
  have enclosed := (readsBack_iff hx.pos).1 h
  have half : x.halfBelow ≤ 1 / 2 := by
    unfold halfBelow
    split <;> norm_num
  have weak : x.significand - x.halfBelow ≤ x.inPlaces c e ∧
      x.inPlaces c e ≤ x.significand + 1 / 2 := by
    split at enclosed
    · exact enclosed
    · exact ⟨enclosed.1.le, enclosed.2.le⟩
  refine ⟨⟨?_, fun tie => ?_⟩, fun power above => ?_⟩
  · show |x.inPlaces c e - x.significand| ≤ 1 / 2
    rw [abs_le]
    constructor <;> linarith
  · by_contra odd
    rw [if_neg odd] at enclosed
    have strict : |x.inPlaces c e - x.significand| < 1 / 2 := by
      rw [abs_lt]
      constructor <;> linarith
    exact strict.ne tie
  · have quarter : x.halfBelow = 1 / 4 := if_pos ⟨power, above⟩
    have low := weak.1
    rw [quarter, power] at low
    exact_mod_cast low

theorem readsBack_of_near (hx : x.Canonical) (low : x.significand - x.halfBelow < x.inPlaces c e)
    (high : x.inPlaces c e < x.significand + 1 / 2) : x.readsBack c e = true := by
  rw [readsBack_iff hx.pos]
  split
  · exact ⟨low.le, high.le⟩
  · exact ⟨low, high⟩

/-! ## Seventeen digits -/

theorem lt_gap (hx : x.Canonical) {unit : ℚ} (h : 10 ^ 16 * unit ≤ x.significand) :
    unit < x.halfBelow + 1 / 2 := by
  have lt : (x.significand : ℚ) < 2 ^ 53 := by exact_mod_cast hx.lt
  unfold halfBelow
  split
  · next narrow =>
    rw [narrow.1] at h
    norm_num at h ⊢
    linarith
  · linarith

theorem halfBelow_pos (x : Binary64) : 0 < x.halfBelow := by
  unfold halfBelow
  split <;> norm_num

theorem readsBack_neighbour (hx : x.Canonical) (large : 10 ^ 16 ≤ c)
    (below : x.inPlaces c e ≤ x.significand) (above : x.significand < x.inPlaces (c + 1) e) :
    x.readsBack c e = true ∨ x.readsBack (c + 1) e = true := by
  have unit : x.inPlaces (c + 1) e = x.inPlaces c e + 10 ^ e / 2 ^ x.exponent := by
    unfold inPlaces
    push_cast
    ring
  have multiple : x.inPlaces c e = c * (10 ^ e / 2 ^ x.exponent) := mul_div_assoc _ _ _
  have short : 10 ^ e / 2 ^ x.exponent < x.halfBelow + 1 / 2 := by
    have large' : (10 ^ 16 : ℚ) ≤ c := by exact_mod_cast large
    refine lt_gap hx (le_trans ?_ below)
    rw [multiple]
    gcongr
  have pos := x.halfBelow_pos
  by_cases low : x.significand - x.halfBelow < x.inPlaces c e
  · exact .inl (readsBack_of_near hx low (by linarith))
  · exact .inr (readsBack_of_near hx (by linarith) (by linarith))

theorem magnitude_value (x : Binary64) : (x.magnitude.1 / x.magnitude.2 : ℚ) = x.size := by
  rw [magnitude, scaled_value, size, Nat.cast_one, div_one]

theorem Canonical.isZero (hx : x.Canonical) : x.isZero = false :=
  beq_eq_false_iff_ne.2 hx.pos.ne'

theorem readsBack_of_candidate {count : ℕ} (h : x.candidate count = some (c, e)) :
    x.readsBack c e = true := by
  unfold candidate at h
  dsimp only at h
  split at h
  · cases h
  · next below above =>
    cases h
    exact below
  · next below above =>
    cases h
    exact above
  · next below above =>
    cases h
    rcases divNearest_cases _ _ with hdown | hup
    · rw [hdown]
      exact below
    · rw [hup]
      exact above

theorem candidate_seventeen (hx : x.Canonical) : ∃ p, x.candidate 17 = some p := by
  obtain ⟨posn, posd⟩ := magnitude_pos hx.isZero
  obtain ⟨e, he⟩ : ∃ e, e = leadingExponent x.magnitude.1 x.magnitude.2 + 1 - (17 : ℕ) := ⟨_, rfl⟩
  have digits := (inUnits_div_bounds posn posd 16 rfl).1
  have value := inUnits_value x.magnitude.1 x.magnitude.2 e
  have pos := inUnits_pos posd x.magnitude.1 e
  rw [magnitude_value] at value
  rw [← he] at digits
  obtain ⟨u, hu⟩ : ∃ u, u = inUnits x.magnitude.1 x.magnitude.2 e := ⟨_, rfl⟩
  rw [← hu] at digits value pos
  have posq : (0 : ℚ) < u.2 := by exact_mod_cast pos
  have ten : (0 : ℚ) < 10 ^ e := by positivity
  have two : (0 : ℚ) < 2 ^ x.exponent := by positivity
  have whole : ((u.1 / u.2 : ℕ) : ℚ) ≤ x.size / 10 ^ e := by
    rw [← value, le_div_iff₀ posq]
    exact_mod_cast Nat.div_mul_le_self u.1 u.2
  have next : x.size / 10 ^ e < (u.1 / u.2 + 1 : ℕ) := by
    rw [← value, div_lt_iff₀ posq]
    exact_mod_cast Nat.lt_mul_of_div_lt (Nat.lt_succ_self _) pos
  have either : x.readsBack (u.1 / u.2) e = true ∨ x.readsBack (u.1 / u.2 + 1) e = true := by
    refine readsBack_neighbour hx digits ?_ ?_
    · rw [inPlaces, div_le_iff₀ two]
      exact (le_div_iff₀ ten).1 whole
    · rw [inPlaces, lt_div_iff₀ two]
      exact (div_lt_iff₀ ten).1 next
  unfold candidate
  dsimp only
  rw [← he, ← hu]
  rcases either with h | h
  · rw [h]
    split <;> simp_all
  · rw [h]
    split <;> simp_all

theorem dropZeros_value (fuel c : ℕ) (e : ℤ) :
    ((dropZeros fuel c e).1 * 10 ^ (dropZeros fuel c e).2 : ℚ) = c * 10 ^ e := by
  induction fuel generalizing c e with
  | zero => rfl
  | succ fuel ih =>
    rw [dropZeros]
    split
    · next multiple =>
      have tenth : (c : ℚ) = (c / 10 : ℕ) * 10 := by
        exact_mod_cast (Nat.div_mul_cancel (Nat.dvd_of_mod_eq_zero multiple)).symm
      rw [ih, tenth, zpow_add₀ (by norm_num), zpow_one]
      ring
    · rfl

theorem shortest_rounds (hx : x.Canonical) :
    RoundsTo (x.shortest.1 * 10 ^ x.shortest.2) x := by
  unfold shortest
  split
  · next c e found =>
    obtain ⟨k, -, hcandidate⟩ := List.exists_of_findSome?_eq_some found
    rw [dropZeros_value]
    exact roundsTo_of_readsBack hx (readsBack_of_candidate hcandidate)
  · next none =>
    obtain ⟨p, hp⟩ := candidate_seventeen hx
    have missing := List.findSome?_eq_none_iff.1 none 16 (List.mem_range.2 (by decide))
    cases hp.symm.trans missing

/-! ## The value of the text -/

section

variable {sign ds fs : List Char}

/-- The factor that a sign stands for. -/
def signFactor (sign : List Char) : ℚ := if sign = [] then 1 else -1

theorem textValue_point (hs : IsSign sign) (hd : IsDigits ds) (hf : IsDigits fs) :
    textValue (sign ++ (ds ++ '.' :: fs)) =
      signFactor sign * (natOfDigits (ds ++ fs) * 10 ^ (-(fs.length : ℤ))) := by
  have positional := IsPositional.fraction hd hf
  rw [textValue_signed hs positional.head, magnitudeValue_plain (positional.not_mem rfl nofun),
    plainValue_fraction hd.2, natOfDigits_add_fractionValue, zpow_neg, zpow_natCast, signFactor,
    div_eq_mul_inv]

theorem powerValue_exponentText (e : ℤ) : powerValue (exponentText e).toList = e := by
  unfold exponentText Text.natText
  split
  · next below =>
    have text : ("-" ++ String.ofList (Text.digits e.natAbs)).toList =
        '-' :: Text.digits e.natAbs := by simp
    rw [text, powerValue, natOfDigits_digits]
    omega
  · next above =>
    have text : ("+" ++ String.ofList (Text.digits e.natAbs)).toList =
        '+' :: Text.digits e.natAbs := by simp
    rw [text, powerValue, natOfDigits_digits]
    omega

theorem textValue_bodyText (hs : IsSign sign) (c : ℕ) (e : ℤ) :
    textValue (sign ++ bodyText c e) = signFactor sign * (c * 10 ^ e) := by
  have digits := isDigits_digits c
  have pos : 0 < (Text.digits c).length := digitCount_pos c
  unfold bodyText
  dsimp only
  split
  · obtain ⟨a, fs, hds⟩ := List.exists_cons_of_ne_nil digits.1
    have number := natOfDigits_digits c
    rw [hds] at number digits ⊢
    have first := List.forall_mem_cons.1 digits.2
    have positional := isPositional_pointed first.1 first.2
    have text : textValue (sign ++ (pointed a fs ++
        'e' :: (exponentText (e + (a :: fs).length - 1)).toList)) =
          signFactor sign * (c * 10 ^ e) := by
      have lead : e + (a :: fs).length - 1 = e + (fs.length : ℤ) := by
        rw [List.length_cons]
        omega
      rw [textValue_power hs positional, textValue_signed hs positional.head,
        magnitudeValue_pointed first.1 first.2, powerValue_exponentText, number, lead,
        zpow_add₀ (by norm_num), zpow_natCast, signFactor]
      field_simp
    exact text
  · split
    · next up =>
      obtain ⟨k, rfl⟩ := Int.eq_ofNat_of_zero_le up
      have number : natOfDigits (Text.digits c ++ List.replicate k '0' ++ ['0']) =
          c * 10 ^ k * 10 := by
        rw [natOfDigits_append, natOfDigits_append, natOfDigits_zeros, natOfDigits_digits]
        simp [natOfDigits, Text.digitValue]
        ring
      have text := textValue_point hs (isDigits_append_zeros digits k) isDigits_zero
      rw [number] at text
      refine text.trans ?_
      simp
    · next down =>
      split
      · next inside =>
        have count := Int.toNat_of_nonneg inside
        generalize (e + (Text.digits c).length - 1).toNat = lead at count ⊢
        have before : IsDigits ((Text.digits c).take (lead + 1)) :=
          ⟨by simp [digits.1], fun d hd => digits.2 d (List.mem_of_mem_take hd)⟩
        have length : ((Text.digits c).drop (lead + 1)).length = (-e).toNat := by
          rw [List.length_drop]
          omega
        have behind : IsDigits ((Text.digits c).drop (lead + 1)) := by
          refine ⟨List.ne_nil_of_length_pos ?_, fun d hd => digits.2 d (List.mem_of_mem_drop hd)⟩
          omega
        have places : -(((Text.digits c).drop (lead + 1)).length : ℤ) = e := by omega
        rw [textValue_point hs before behind, List.take_append_drop, natOfDigits_digits, places]
      · next small =>
        have zeros := isDigits_zeros_append digits ((-(e + (Text.digits c).length - 1)).toNat - 1)
        have places : -((List.replicate ((-(e + (Text.digits c).length - 1)).toNat - 1) '0' ++
            Text.digits c).length : ℤ) = e := by
          rw [List.length_append, List.length_replicate]
          omega
        have number : natOfDigits (['0'] ++ (List.replicate
            ((-(e + (Text.digits c).length - 1)).toNat - 1) '0' ++ Text.digits c)) = c := by
          rw [natOfDigits_append, natOfDigits_append, natOfDigits_zeros, natOfDigits_digits]
          simp [natOfDigits, Text.digitValue]
        have text := textValue_point hs isDigits_zero zeros
        rwa [number, places] at text

end

/-- The sign as a factor. -/
def factor (x : Binary64) : ℚ := if x.negative then -1 else 1

theorem signFactor_signText (x : Binary64) : signFactor x.signText = x.factor := by
  unfold signFactor signText factor
  cases x.negative <;> rfl

/-- A number is printed as a decimal that lies nearest to it. -/
theorem textValue_text (hx : x.Canonical) :
    ∃ q : ℚ, textValue x.text.toList = x.factor * q ∧ RoundsTo q x := by
  refine ⟨_, ?_, shortest_rounds hx⟩
  rw [text_toList, if_neg (Bool.eq_false_iff.1 hx.isZero),
    textValue_bodyText x.isSign_signText, signFactor_signText]

theorem textValue_zero (negative : Bool) : textValue (zero negative).text.toList = 0 := by
  have text := textValue_point (zero negative).isSign_signText isDigits_zero isDigits_zero
  rw [text_toList, if_pos (show (zero negative).isZero = true from rfl)]
  refine text.trans ?_
  simp [natOfDigits, Text.digitValue]

end Stencil.Binary64
