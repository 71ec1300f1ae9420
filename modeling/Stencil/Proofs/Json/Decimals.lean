import Stencil.Parameter.Value
import Stencil.Proofs.Json.RoundTrip
import Stencil.Proofs.Json.Significands

/-!
# Decimals in JSON texts

The text of a decimal is always read as a JSON number. A whole number of 64 bits stays what it is.
Any other is read as a floating point number that differs from the decimal by few roundings.
-/

namespace Stencil.Json

open Stencil.Path (IsDigits Stops stops_cons)
open Text (natOfDigits)
open Binary64 (Holds RoundsTo CloseTo)

/-! ## The text of a decimal -/

section

variable {m s : ℕ}

theorem wholeText_no_leading_zero {c : Char} {cs : List Char}
    (h : Decimal.wholeText m s = c :: cs) :
    ¬(c = '0' ∧ (cs.head?.map Char.isDigit).getD false = true) := by
  rintro ⟨rfl, more⟩
  unfold Decimal.wholeText at h
  dsimp only at h
  split at h
  · cases h
    cases more
  · have unpadded : Decimal.padded m s = Text.digits m := by
      have longer : s < (Decimal.padded m s).length := by
        have taken := congrArg List.length h
        rw [List.length_take, List.length_cons] at taken
        omega
      unfold Decimal.padded at longer ⊢
      split at longer
      · rw [List.length_replicate] at longer
        omega
      · next nonzero =>
        unfold Text.zeroPadded at longer ⊢
        rw [List.length_append, List.length_replicate] at longer
        have none : s - (Text.digits m).length = 0 := by omega
        rw [if_neg nonzero, none, List.replicate_zero, List.nil_append]
    rw [unpadded] at h
    have all := List.take_append_drop ((Text.digits m).length - s) (Text.digits m)
    rw [h, List.cons_append] at all
    refine digits_no_leading_zero all.symm ⟨rfl, ?_⟩
    cases cs with
    | nil => cases more
    | cons d cs => exact more

theorem fractionPart?_digits (negative : Bool) {n : ℕ} (fits : n < twoTo 64) (e : ℤ)
    {fs : List Char} (hf : IsDigits fs) :
    fractionPart? negative n e fs =
      (floatOfParts negative (significand n 0 fs).1 (e - (significand n 0 fs).2.1)).map
        fun x => (.float x, []) := by
  have ends : EndsNumber [] := nofun
  obtain ⟨used, unread, rfl, hread, -, -⟩ := significand_spec hf.2 fits 0
  have digits := (List.forall_mem_append.1 hf.2).2
  rw [fractionPart?, hread]
  dsimp only
  cases unread with
  | nil =>
    have some_digit : 0 + used.length ≠ 0 := by
      have nonempty := List.length_pos_iff.2 hf.1
      rw [List.append_nil] at nonempty
      omega
    dsimp only
    rw [if_neg some_digit, floatTail?_of_ends negative _ _ ends]
  | cons c unread =>
    have none_left : (c :: unread).dropWhile Char.isDigit = [] := List.dropWhile_eq_nil_iff.2 digits
    dsimp only
    rw [if_pos (digits c List.mem_cons_self), none_left, floatTail?_of_ends negative _ _ ends]

theorem unsignedNumber?_wholeText (negative : Bool) (m s : ℕ) {rest : List Char}
    (h : Stops Char.isDigit rest) :
    unsignedNumber? negative (Decimal.wholeText m s ++ rest) =
      afterDigits? negative (significand 0 0 (Decimal.wholeText m s)).1
        (significand 0 0 (Decimal.wholeText m s)).2.2 rest := by
  have digits := Decimal.isDigits_wholeText m s
  obtain ⟨c, cs, hwhole⟩ := List.exists_cons_of_ne_nil digits.1
  have noZero := wholeText_no_leading_zero hwhole
  obtain ⟨used, unread, hsplit, hread, -, -⟩ := significand_spec digits.2 (n := 0) (by decide) 0
  have left : ∀ c ∈ unread, c.isDigit = true :=
    fun c hc => digits.2 c (hsplit ▸ List.mem_append_right used hc)
  have first : ¬(!c.isDigit) = true := by
    simp [digits.2 c (hwhole ▸ List.mem_cons_self)]
  have head : ((cs ++ rest).head?.map Char.isDigit).getD false =
      (cs.head?.map Char.isDigit).getD false := by
    cases cs with
    | cons d cs => rfl
    | nil =>
      cases rest with
      | nil => rfl
      | cons d rest => exact h d rfl
  rw [hwhole, List.cons_append, unsignedNumber?_cons, if_neg first, head, if_neg noZero,
    ← List.cons_append, ← hwhole, significand_append h, hread]
  dsimp only
  rw [Path.takeWhile_run left h, Path.dropWhile_run left h]

theorem unsignedNumber?_fraction (negative : Bool) (m : ℕ) (hs : 0 < s) :
    unsignedNumber? negative (Decimal.placed m s s) =
      (floatOfParts negative (numberParts (Decimal.wholeText m s) (Decimal.fractionText m s)).1
        (numberParts (Decimal.wholeText m s) (Decimal.fractionText m s)).2).map
          fun x => (.float x, []) := by
  have digits : IsDigits (Decimal.fractionText m s) := by
    refine ⟨List.length_pos_iff.1 ?_, Decimal.isDigit_fractionText m s⟩
    rwa [Decimal.length_fractionText]
  have whole := Decimal.isDigits_wholeText m s
  obtain ⟨used, unread, -, hread, fits, -⟩ := significand_spec whole.2 (n := 0) (by decide) 0
  rw [Decimal.placed_eq, if_neg hs.ne', unsignedNumber?_wholeText negative m s (stops_cons rfl),
    numberParts, hread]
  exact fractionPart?_digits negative fits _ digits

theorem unsignedNumber?_placed_zero (negative : Bool) (m : ℕ) :
    unsignedNumber? negative (Decimal.placed m 0 0) =
      (wholeNumber? negative (significand 0 0 (Decimal.wholeText m 0)).1
        (significand 0 0 (Decimal.wholeText m 0)).2.2).map fun x => (x, []) := by
  have ends : Stops Char.isDigit [] := nofun
  rw [Decimal.placed_eq, if_pos rfl, unsignedNumber?_wholeText negative m 0 ends]
  exact afterDigits?_whole negative _ _ nofun

/-- The significand and the power of ten that a decimal is read as. -/
def decimalParts (d : Decimal) : ℕ × ℤ :=
  numberParts (Decimal.wholeText d.mantissa d.scale) (Decimal.fractionText d.mantissa d.scale)

theorem number?_text (d : Decimal) : number? d.text.toList =
    unsignedNumber? d.negative (Decimal.placed d.mantissa d.scale d.scale) := by
  obtain ⟨c, cs, hplaced, digit⟩ := (Decimal.isPositional_placed d.mantissa d.scale).head
  rw [Decimal.text_toList, hplaced]
  exact number?_signed d.negative digit cs

theorem number?_whole {d : Decimal} (whole : d.scale = 0) (fits : d.mantissa < twoTo 64) :
    number? d.text.toList = (wholeNumber? d.negative d.mantissa []).map fun x => (x, []) := by
  have digits := (Decimal.isDigits_wholeText d.mantissa 0).2
  have value : Nat.ofDigitChars 10 (Decimal.wholeText d.mantissa 0) 0 = d.mantissa := by
    rw [← natOfDigits_eq, Decimal.natOfDigits_wholeText]
  rw [number?_text, whole, unsignedNumber?_placed_zero,
    significand_digits digits 0 0 (by rwa [value]), value]

theorem number?_parts {d : Decimal} (h : 0 < d.scale ∨ twoTo 64 ≤ d.mantissa) :
    number? d.text.toList =
      (floatOfParts d.negative (decimalParts d).1 (decimalParts d).2).map
        fun x => (.float x, []) := by
  rw [number?_text]
  by_cases places : 0 < d.scale
  · exact unsignedNumber?_fraction d.negative d.mantissa places
  · have whole : d.scale = 0 := by omega
    have large := h.resolve_left places
    have digits := (Decimal.isDigits_wholeText d.mantissa 0).2
    obtain ⟨used, unread, hsplit, hread, fits, -⟩ := significand_spec digits (n := 0) (by decide) 0
    have some_left : unread ≠ [] := by
      rintro rfl
      have value := Decimal.natOfDigits_wholeText d.mantissa
      rw [hsplit, List.append_nil, natOfDigits_eq] at value
      omega
    have read : decimalParts d = (Nat.ofDigitChars 10 used 0, (unread.length : ℤ)) := by
      rw [decimalParts, whole, Decimal.fractionText_zero, numberParts, hread]
      simp [significand]
    rw [whole, unsignedNumber?_placed_zero, hread, read]
    dsimp only
    rw [wholeNumber?, if_pos (by simpa using some_left), Option.map_map]
    rfl

end

/-! ## What is read -/

section

variable {d : Decimal}

theorem decimalParts_spec (hd : d.Bounded) :
    (decimalParts d).1 < twoTo 64 ∧ -30 ≤ (decimalParts d).2 ∧ (decimalParts d).2 ≤ 30 ∧
      CloseTo 1 |d.value| ((decimalParts d).1 * 10 ^ (decimalParts d).2) := by
  obtain ⟨fits, ⟨low, high⟩, close⟩ :=
    numberParts_spec (Decimal.isDigits_wholeText d.mantissa d.scale).2
      (Decimal.isDigit_fractionText d.mantissa d.scale)
  rw [Decimal.natOfDigits_placed, Decimal.length_fractionText, ← Decimal.abs_value] at close
  rw [Decimal.length_fractionText] at low
  have whole := Decimal.length_wholeText_le hd.mantissa d.scale
  have places : d.scale ≤ 28 := hd.scale
  exact ⟨fits, by unfold decimalParts; omega, by unfold decimalParts; omega, close⟩

theorem decimalParts_of_fits (fits : d.mantissa < twoTo 64) :
    decimalParts d = (d.mantissa, -(d.scale : ℤ)) := by
  have read := numberParts_of_fits (Decimal.isDigits_wholeText d.mantissa d.scale).2
    (Decimal.isDigit_fractionText d.mantissa d.scale)
  rw [Decimal.natOfDigits_placed, Decimal.length_fractionText] at read
  exact read fits

theorem parse?_number {text : String} {w : JsonNumber} (h : number? text.toList = some (w, [])) :
    parse? text = some (.num w) := by
  obtain ⟨c, more, hcs, first⟩ := number?_start h
  have read : value? (text.toList.length + 1) maxDepth text.toList = some (.num w, []) := by
    rw [hcs] at h ⊢
    rw [value?_number first, h]
    rfl
  rw [parse?, parseTree?]
  simp only [read]
  rfl

theorem float_near {x : Binary64} {v : ℚ} {negative : Bool} (h : x.Approximates 4 |v|)
    (sign : v = (if negative then -1 else 1) * |v|) :
    |textValue (Binary64.text { x with negative }).toList - v| ≤ |v| / 10 ^ 15 := by
  obtain ⟨y, hy⟩ : ∃ y : Binary64, y = { x with negative } := ⟨_, rfl⟩
  have canonical : y.Canonical := by
    rw [hy]
    exact ⟨h.canonical.pos, h.canonical.lt, h.canonical.least, h.canonical.greatest,
      h.canonical.full⟩
  have same : y.size = x.size ∧ y.significand = x.significand ∧
      y.factor = if negative then -1 else 1 := by
    rw [hy]
    exact ⟨rfl, rfl, rfl⟩
  obtain ⟨q, htext, rounds⟩ := Binary64.textValue_text canonical
  have close := rounds.closeTo (same.2.1 ▸ h.full)
  rw [same.1] at close
  have near := (close.trans h.closeTo.symm).near (abs_nonneg v)
  have difference : textValue y.text.toList - v =
      (if negative then -1 else 1) * (q - |v|) := by
    rw [htext, same.2.2, mul_sub, ← sign]
  rw [← hy, difference, abs_mul]
  cases negative <;> simpa using near

theorem int_near {z : ℤ} (h : (z : ℚ) = d.value) :
    |textValue (JsonNumber.int z).text.toList - d.value| ≤ |d.value| / 10 ^ 15 := by
  have text : textValue (JsonNumber.int z).text.toList = z := textValue_intText z
  rw [text, h, sub_self, abs_zero]
  positivity

theorem zero_near (h : d.value = 0) (negative : Bool) :
    |textValue (JsonNumber.float (Binary64.zero negative)).text.toList - d.value| ≤
      |d.value| / 10 ^ 15 := by
  have text : textValue (JsonNumber.float (Binary64.zero negative)).text.toList = 0 :=
    Binary64.textValue_zero negative
  rw [text, h]
  simp

theorem wholeNumber?_near (whole : d.scale = 0) (fits : d.mantissa < twoTo 64) :
    ∃ w : JsonNumber, wholeNumber? d.negative d.mantissa [] = some w ∧
      |textValue w.text.toList - d.value| ≤ |d.value| / 10 ^ 15 := by
  have value := Decimal.value_whole whole
  have magnitude := Decimal.abs_value d
  rw [whole, pow_zero, div_one] at magnitude
  have sign := Decimal.value_eq_abs d
  unfold Decimal.signed at value
  cases hneg : d.negative with
  | false =>
    rw [hneg] at value
    exact ⟨_, wholeNumber?_unsigned _, int_near value.symm⟩
  | true =>
    rw [hneg] at value sign
    rw [wholeNumber?_negative]
    split
    · next far =>
      rcases far with zero | large
      · rw [zero]
        exact ⟨.float (Binary64.zero true), rfl, zero_near (by simpa [zero] using value) true⟩
      · have pos : 0 < d.mantissa := (Nat.zero_le _).trans_lt large
        have range := inRange_parts pos fits (e := 0) (by decide) (by decide)
        rw [zpow_zero, mul_one] at range
        obtain ⟨x, hx, approximates⟩ := Binary64.ofNat?_approximates range
        rw [hx]
        refine ⟨_, rfl, float_near ?_ sign⟩
        rw [magnitude]
        exact approximates.of_closeTo (.refl 3 (Nat.cast_nonneg _))
    · exact ⟨_, rfl, int_near value.symm⟩

/-- The decimal is read as a number near to it. -/
theorem number?_near (hd : d.Bounded) : ∃ w : JsonNumber, number? d.text.toList = some (w, []) ∧
    |textValue w.text.toList - d.value| ≤ |d.value| / 10 ^ 15 := by
  by_cases small : d.scale = 0 ∧ d.mantissa < twoTo 64
  · obtain ⟨w, hw, near⟩ := wholeNumber?_near small.1 small.2
    exact ⟨w, by rw [number?_whole small.1 small.2, hw]; rfl, near⟩
  · have large : 0 < d.scale ∨ twoTo 64 ≤ d.mantissa := by omega
    obtain ⟨fits, low, high, close⟩ := decimalParts_spec hd
    rw [number?_parts large]
    rcases Nat.eq_zero_or_pos (decimalParts d).1 with zero | pos
    · have none : d.value = 0 := by
        have upper := close.upper
        rw [zero, Nat.cast_zero, zero_mul, mul_zero] at upper
        exact abs_eq_zero.1 (le_antisymm upper (abs_nonneg _))
      rw [zero, floatOfParts_zero d.negative low high]
      exact ⟨_, rfl, zero_near none d.negative⟩
    · obtain ⟨x, hx, approximates⟩ := floatOfParts_approximates pos fits low high d.negative
      rw [hx]
      exact ⟨_, rfl, float_near (approximates.of_closeTo close) (Decimal.value_eq_abs d)⟩

/-- The mantissa fits 64 bits, and where there are places it is held exactly and so is the power of
ten. -/
structure ReadsExactly (d : Decimal) : Prop where
  fits : d.mantissa < twoTo 64
  held : d.scale = 0 ∨ d.scale ≤ 22 ∧ Holds d.mantissa

theorem number?_exact {x : Binary64} (hx : x.Canonical) (h : RoundsTo |d.value| x)
    (sign : d.negative = x.negative) (hd : ReadsExactly d) :
    ∃ w : JsonNumber, number? d.text.toList = some (w, []) ∧
      (w = .float x ∨ textValue w.text.toList = d.value) := by
  have magnitude := Decimal.abs_value d
  have pos : 0 < d.mantissa := by
    have some_value := h.pos hx
    rw [magnitude] at some_value
    refine Nat.pos_of_ne_zero fun zero => ?_
    rw [zero, Nat.cast_zero, zero_div] at some_value
    exact lt_irrefl 0 some_value
  by_cases whole : d.scale = 0
  · have value := Decimal.value_whole whole
    rw [number?_whole whole hd.fits]
    unfold Decimal.signed at value
    cases hneg : d.negative with
    | false =>
      rw [hneg] at value
      rw [wholeNumber?_unsigned]
      exact ⟨_, rfl, .inr ((textValue_intText _).trans value.symm)⟩
    | true =>
      rw [hneg] at value sign
      rw [wholeNumber?_negative]
      split
      · have rounds : RoundsTo (d.mantissa / (1 : ℕ) * 2 ^ (0 : ℤ)) x := by
          rw [magnitude, whole, pow_zero, div_one] at h
          simpa using h
        have read := Binary64.ofRatio_eq_some pos Nat.one_pos hx rounds false
        have same : { x with negative := true } = x := by rw [sign]
        refine ⟨.float x, ?_, .inl rfl⟩
        rw [Binary64.ofNat?, read, Option.map_some, same]
        rfl
      · exact ⟨_, rfl, .inr ((textValue_intText _).trans value.symm)⟩
  · obtain ⟨few, held⟩ := hd.held.resolve_left whole
    rw [magnitude] at h
    rw [number?_parts (.inl (Nat.pos_of_ne_zero whole)), decimalParts_of_fits hd.fits,
      floatOfParts_held held pos hd.fits few hx h, sign]
    exact ⟨_, rfl, .inl rfl⟩

end

/-! ## Whole numbers -/

theorem number?_ofParts {z : ℤ} (low : -(2 : ℤ) ^ 63 ≤ z) (high : z < 2 ^ 64) :
    number? (Decimal.ofParts (decide (z < 0)) z.natAbs 0).text.toList = some (.int z, []) := by
  obtain ⟨fits, read⟩ := wholeNumber?_natAbs low high
  have sign : (decide (z < 0) && z.natAbs != 0) = decide (z < 0) := by
    by_cases below : z < 0
    · have nonzero : z.natAbs ≠ 0 := by omega
      simp [below, nonzero]
    · simp [below]
  rw [Decimal.ofParts, sign, number?_whole rfl fits, read]
  rfl

end Stencil.Json
