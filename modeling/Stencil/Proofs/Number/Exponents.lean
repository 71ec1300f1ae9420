import Stencil.Proofs.Number.Reading

/-!
# Numbers with an exponent

Digits with an exponent behind them are read by moving the point, which decimals allow by at most
as many places as they have. So what is too small for their last place is not read at all.
-/

namespace Stencil

open Stencil.Path (IsDigits IsSign IsNumeral)
open Text (natOfDigits digitValue isBlank)

namespace Decimal

/-- What is read of a number with an exponent is neither too large nor below the last place. -/
def InReach (q : ℚ) : Prop := Fits q ∧ (q = 0 ∨ 1 / 10 ^ maxScale ≤ |q|)

instance (q : ℚ) : Decidable (InReach q) := inferInstanceAs (Decidable (_ ∧ _))

theorem lt_mantissaBound : 10 ^ maxScale < mantissaBound := by decide

theorem mantissaBound_le : mantissaBound ≤ 10 ^ (maxScale + 1) := by decide

/-! ## A few digits -/

section

variable {cs fs : List Char} {m s : ℕ}

theorem readDigits_digits (hf : ∀ c ∈ fs, c.isDigit = true) (room : s + fs.length ≤ maxScale)
    (fits : Nat.ofDigitChars 10 fs m < mantissaBound) (rest : List Char) :
    readDigits true true m s (fs ++ rest) =
      readDigits true true (Nat.ofDigitChars 10 fs m) (s + fs.length) rest := by
  induction fs generalizing m s with
  | nil => rfl
  | cons c fs ih =>
    rw [List.forall_mem_cons] at hf
    rw [List.length_cons] at room
    rw [ofDigitChars_cons] at fits
    have grows := le_ofDigitChars fs (10 * m + digitValue c)
    have next : 10 * m + digitValue c < mantissaBound := grows.trans_lt fits
    have step : readDigits true true m s (c :: fs ++ rest) =
        readDigits true true (10 * m + digitValue c) (s + 1) (fs ++ rest) := by
      have below : s ≠ maxScale := by omega
      rw [List.cons_append, readDigits]
      simp [hf.1, next, below]
    rw [step, ih hf.2 (by omega) fits, ofDigitChars_cons, List.length_cons, Nat.add_assoc,
      Nat.add_comm 1]

theorem readDigits_short (h : IsPositional cs) (short : cs.length ≤ maxScale) :
    ∃ point m s, m < mantissaBound ∧ s ≤ maxScale ∧ (m / 10 ^ s : ℚ) = magnitudeValue cs ∧
      ∀ rest, readDigits false false 0 0 (cs ++ rest) = readDigits point true m s rest := by
  have few {ds : List Char} (hd : ∀ c ∈ ds, c.isDigit = true) (h : ds.length ≤ maxScale) :
      natOfDigits ds < mantissaBound :=
    (natOfDigits_lt hd).trans_le ((Nat.pow_le_pow_right (by decide) h).trans lt_mantissaBound.le)
  rw [magnitudeValue_plain (h.not_mem rfl nofun)]
  cases h with
  | whole hd =>
    have fits := few hd.2 short
    refine ⟨false, natOfDigits cs, 0, fits, maxScale.zero_le, ?_, fun rest => ?_⟩
    · rw [plainValue_digits hd.2, pow_zero, div_one]
    · rw [readDigits_whole hd, ← natOfDigits_eq, if_pos fits]
  | @fraction ds fs hd hf =>
    rw [List.length_append, List.length_cons] at short
    have all : ∀ c ∈ ds ++ fs, c.isDigit = true :=
      fun c hc => (List.mem_append.1 hc).elim (hd.2 c) (hf.2 c)
    have both := ofDigitChars_natOfDigits ds fs
    have fits : natOfDigits (ds ++ fs) < mantissaBound :=
      few all (by rw [List.length_append]; omega)
    have whole : natOfDigits ds < mantissaBound := few hd.2 (by omega)
    refine ⟨true, natOfDigits (ds ++ fs), fs.length, fits, by omega, ?_, fun rest => ?_⟩
    · rw [plainValue_fraction hd.2, natOfDigits_add_fractionValue]
    · have point : readDigits false true (natOfDigits ds) 0 ('.' :: (fs ++ rest)) =
          readDigits true true (natOfDigits ds) 0 (fs ++ rest) := by
        rw [readDigits]
        simp
      rw [List.append_assoc, readDigits_whole hd, ← natOfDigits_eq, if_pos whole,
        List.cons_append, point, readDigits_digits hf.2 (by omega) (both ▸ fits), both,
        Nat.zero_add]

end

/-! ## Moving the point -/

section

variable {d : Decimal} {k : ℕ}

theorem rounded_signed (negative : Bool) (x : ℚ) :
    rounded ((if negative then -1 else 1) * x) = (if negative then -1 else 1) * rounded x := by
  cases negative
  · simp
  · simp [rounded_neg]

theorem divHalfUp_eq_units {q : ℚ} {p m drop : ℕ} (hq : |q| * 10 ^ p = m / 10 ^ drop) :
    divHalfUp m (tenTo drop) = units q p := by
  symm
  have down := Nat.div_mul_le_self (2 * m + 10 ^ drop) (2 * 10 ^ drop)
  have up := Nat.lt_div_mul_add (a := 2 * m + 10 ^ drop) (b := 2 * 10 ^ drop) (by positivity)
  rw [units_eq_iff, hq, divHalfUp, show tenTo drop = 10 ^ drop from rfl]
  generalize (2 * m + 10 ^ drop) / (2 * 10 ^ drop) = n at down up
  have down' : (n : ℚ) * (2 * 10 ^ drop) ≤ 2 * m + 10 ^ drop := by exact_mod_cast down
  have up' : (2 * m + 10 ^ drop : ℚ) < n * (2 * 10 ^ drop) + 2 * 10 ^ drop := by exact_mod_cast up
  have pos : (0 : ℚ) < 10 ^ drop := by positivity
  constructor
  · rw [div_add_div _ _ pos.ne' two_ne_zero, le_div_iff₀ (by positivity)]
    linarith
  · rw [div_add_div _ _ pos.ne' two_ne_zero, div_lt_iff₀ (by positivity)]
    linarith

theorem shiftDown?_eq_none (h : maxScale < k) : d.shiftDown? k = none := if_pos h

theorem units_le_of_drop {q : ℚ} {p m drop : ℕ} (hq : |q| * 10 ^ p = m / 10 ^ drop) :
    units q p ≤ m := by
  have less : (m / 10 ^ drop : ℚ) ≤ m := div_le_self m.cast_nonneg (one_le_pow₀ (by norm_num))
  have below := (units_eq_iff (q := q) (p := p)).1 rfl
  rw [hq] at below
  have bound : (units q p : ℚ) < m + 1 := by linarith
  exact Nat.lt_succ_iff.1 (by exact_mod_cast bound)

theorem shiftDown?_value (hm : d.mantissa < mantissaBound) (hk : k ≤ maxScale) :
    ∃ e, d.shiftDown? k = some e ∧ e.value = rounded (d.value / 10 ^ k) := by
  obtain ⟨q, hq⟩ : ∃ q : ℚ, q = d.mantissa / 10 ^ (d.scale + k) := ⟨_, rfl⟩
  have shifted : d.value / 10 ^ k = (if d.negative then -1 else 1) * q := by
    rw [value_eq, mul_div_assoc, hq, pow_add, div_div]
  have nonneg : 0 ≤ q := hq ▸ by positivity
  rw [shifted, rounded_signed]
  unfold shiftDown?
  rw [if_neg (not_lt.2 hk)]
  split
  · next room =>
    have held : IsHeld q := ⟨_, _, hm, room, by rw [abs_of_nonneg nonneg, hq]⟩
    refine ⟨_, rfl, ?_⟩
    rw [rounded_of_isHeld held, value_eq, hq]
  · next less =>
    -- the digits beyond the last place are rounded off; those that are left fit all the more
    have places : |q| * 10 ^ maxScale = d.mantissa / 10 ^ (d.scale + k - maxScale) := by
      have split : d.scale + k = maxScale + (d.scale + k - maxScale) := by omega
      rw [abs_of_nonneg nonneg, hq, div_mul_eq_mul_div, mul_comm, split, pow_add,
        mul_div_mul_left _ _ (by positivity), Nat.add_sub_cancel_left]
    have fits : units q maxScale < mantissaBound := (units_le_of_drop places).trans_lt hm
    refine ⟨_, rfl, ?_⟩
    rw [divHalfUp_eq_units places, value_ofParts, rounded_of_nonneg nonneg,
      heldPlaces_eq le_rfl fits (.inl rfl)]

theorem shiftUp?_eq_none (hs : d.scale ≤ maxScale) (h : maxScale < k) : d.shiftUp? k = none := by
  unfold shiftUp?
  rw [if_neg (by omega), if_pos h]

theorem value_normalize_whole (negative : Bool) (m : ℕ) :
    (normalize (ofParts negative m 0)).value = (ofParts negative m 0).value := by
  unfold normalize
  split
  · next zero =>
    have zero : m = 0 := zero
    rw [value_ofParts, value_ofParts, zero]
    simp
  · simp [ofParts, dropPlaces]

theorem shiftUp?_readsAs (hm : d.mantissa < mantissaBound) (hs : d.scale ≤ maxScale)
    (hk : k ≤ maxScale) : ReadsAs (d.shiftUp? k) (d.value * 10 ^ k) := by
  unfold shiftUp?
  split
  · next room =>
    obtain ⟨j, hj⟩ := Nat.exists_eq_add_of_le room
    -- places are taken away, and the digits stay
    have shifted : (⟨d.negative, d.mantissa, d.scale - k⟩ : Decimal).value = d.value * 10 ^ k := by
      rw [value_eq, value_eq, hj, Nat.add_sub_cancel_left, pow_add]
      field_simp
    exact readsAs_of_isHeld (shifted ▸ isHeld_value hm ((Nat.sub_le _ _).trans hs)) shifted
  · next beyond =>
    obtain ⟨j, hj⟩ := Nat.exists_eq_add_of_le (not_le.1 beyond).le
    -- zeros are put behind the digits, which may become too many
    have shifted : (ofParts d.negative (d.mantissa * tenTo (k - d.scale)) 0).value =
        d.value * 10 ^ k := by
      rw [value_ofParts, value_eq, hj, Nat.add_sub_cancel_left, pow_add]
      push_cast [cast_tenTo]
      field_simp
    rw [if_neg (not_lt.2 hk), ← shifted]
    dsimp only
    split
    · next fits =>
      exact readsAs_of_isHeld (isHeld_value fits maxScale.zero_le) (value_normalize_whole _ _)
    · next big =>
      refine ⟨fun fits => absurd fits (not_fits_of_le (not_lt.1 big) ?_), fun _ => rfl⟩
      rw [value_ofParts, abs_mul]
      split <;> simp

end

/-! ## Texts with an exponent -/

section

variable {sign base es : List Char} {k : ℕ} {q : ℚ}

theorem bounded_bind {shift : ℕ → Option Decimal} (he : IsDigits es)
    (far : ∀ k, maxScale < k → shift k = none) :
    ((Text.nat? es).bind fun n => if n < twoTo 32 then some n else none).bind shift =
      shift (natOfDigits es) := by
  rw [Text.nat?_of_isDigits he, Option.bind_some]
  split
  · rfl
  · next big =>
    have width : maxScale < twoTo 32 := by decide
    exact (far _ (width.trans_le (not_lt.1 big))).symm

theorem movePoint?_plus {d : Decimal} (hs : d.scale ≤ maxScale) (he : IsDigits es) :
    d.movePoint? ('+' :: es) = d.shiftUp? (natOfDigits es) :=
  bounded_bind he fun _ => shiftUp?_eq_none hs

theorem movePoint?_minus {d : Decimal} (he : IsDigits es) :
    d.movePoint? ('-' :: es) = d.shiftDown? (natOfDigits es) := by
  have unsigned : Text.unsigned? 32 es =
      (Text.nat? es).bind fun n => if n < twoTo 32 then some n else none := by
    obtain ⟨c, tail, rfl, digit⟩ := he.head
    unfold Text.unsigned?
    split
    · next he =>
      cases he
      cases digit
    · rfl
  rw [movePoint?, unsigned]
  exact bounded_bind he fun _ => shiftDown?_eq_none

theorem inReach_of_one_le (h : 1 ≤ |q|) : InReach q ↔ Fits q := by
  refine and_iff_left (.inr (le_trans ?_ h))
  rw [div_le_one (by positivity)]
  exact one_le_pow₀ (by norm_num)

theorem fits_of_lt_ten (h : |q| < 10) : Fits q := by
  refine not_le.1 fun big => ?_
  have large : (mantissaBound : ℚ) ≤ |q| * 10 ^ 0 + 1 / 2 := le_units_iff.1 big
  have ten : (11 : ℚ) ≤ mantissaBound := by exact_mod_cast (by decide : 11 ≤ mantissaBound)
  rw [pow_zero, mul_one] at large
  linarith

theorem inReach_div_pow (one : 1 ≤ |q|) (ten : |q| < 10) : InReach (q / 10 ^ k) ↔ k ≤ maxScale := by
  have pos : (0 : ℚ) < 10 ^ k := by positivity
  have magnitude : |q / 10 ^ k| = |q| / 10 ^ k := by rw [abs_div, abs_of_pos pos]
  constructor
  · rintro ⟨-, zero | enough⟩
    · have zero : q = 0 := (div_eq_zero_iff.1 zero).resolve_right pos.ne'
      rw [zero, abs_zero] at one
      exact absurd one (by norm_num)
    · by_contra! far
      have steep : (10 : ℚ) ^ (maxScale + 1) ≤ 10 ^ k := pow_le_pow_right₀ (by norm_num) far
      rw [magnitude, div_le_div_iff₀ (by positivity) pos, one_mul] at enough
      have short : |q| * 10 ^ maxScale < 10 * 10 ^ maxScale := by gcongr
      rw [pow_succ] at steep
      linarith
  · intro hk
    refine ⟨fits_of_lt_ten ?_, .inr ?_⟩
    · rw [magnitude]
      exact (div_le_self (abs_nonneg q) (one_le_pow₀ (by norm_num))).trans_lt ten
    · rw [magnitude]
      gcongr
      norm_num

theorem shiftUp?_readsIf {d : Decimal} (hm : d.mantissa < mantissaBound) (hs : d.scale ≤ maxScale)
    (one : 1 ≤ |d.value|) (k : ℕ) :
    ReadsIf (InReach (d.value * 10 ^ k)) (d.shiftUp? k) (d.value * 10 ^ k) := by
  have magnitude : |d.value * 10 ^ k| = |d.value| * 10 ^ k := by
    rw [abs_mul, abs_of_pos (by positivity : (0 : ℚ) < 10 ^ k)]
  have large : 1 ≤ |d.value * 10 ^ k| := by
    rw [magnitude]
    exact one_le_mul_of_one_le_of_one_le one (one_le_pow₀ (by norm_num))
  rw [inReach_of_one_le large]
  by_cases hk : k ≤ maxScale
  · exact shiftUp?_readsAs hm hs hk
  · have beyond : ¬Fits (d.value * 10 ^ k) := by
      refine not_fits_of_le mantissaBound_le ?_
      rw [magnitude]
      push_cast
      calc (10 : ℚ) ^ (maxScale + 1)
          ≤ 10 ^ k := pow_le_pow_right₀ (by norm_num) (not_le.1 hk)
        _ ≤ |d.value| * 10 ^ k := le_mul_of_one_le_left (by positivity) one
    exact ⟨fun fits => absurd fits beyond, fun _ => shiftUp?_eq_none hs (not_le.1 hk)⟩

theorem shiftDown?_readsIf {d : Decimal} (hm : d.mantissa < mantissaBound) (one : 1 ≤ |d.value|)
    (ten : |d.value| < 10) (k : ℕ) :
    ReadsIf (InReach (d.value / 10 ^ k)) (d.shiftDown? k) (d.value / 10 ^ k) := by
  rw [ReadsIf, inReach_div_pow one ten]
  exact ⟨fun hk => shiftDown?_value hm hk, fun hk => shiftDown?_eq_none (not_le.1 hk)⟩

theorem textValue_power (hs : IsSign sign) (hb : IsPositional base) (power : List Char) :
    textValue (sign ++ (base ++ 'e' :: power)) =
      textValue (sign ++ base) * 10 ^ powerValue power := by
  have none : 'e' ∉ base := hb.not_mem rfl nofun
  obtain ⟨c, tail, hbase, digit⟩ := hb.head
  have first : ∃ d rest, base ++ 'e' :: power = d :: rest ∧ d.isDigit = true :=
    ⟨c, _, by rw [hbase]; rfl, digit⟩
  rw [textValue_signed hs first, textValue_signed hs hb.head, magnitudeValue_power none,
    magnitudeValue_plain none, mul_assoc]

theorem abs_textValue (hs : IsSign sign) (hb : IsPositional base) :
    |textValue (sign ++ base)| = |magnitudeValue base| := by
  rw [textValue_signed hs hb.head, abs_mul]
  split <;> simp

theorem parse?_short (hs : IsSign sign) (hb : IsPositional base) (short : base.length ≤ maxScale) :
    ∃ d : Decimal, d.mantissa < mantissaBound ∧ d.scale ≤ maxScale ∧
      d.value = textValue (sign ++ base) ∧
      ∀ power, (∀ c ∈ power, isBlank c = false) →
        parse? (String.ofList (sign ++ (base ++ 'e' :: power))) = d.movePoint? power := by
  obtain ⟨point, m, s, hm, hscale, hvalue, hread⟩ := readDigits_short hb short
  have chars := chars_of_signed hs hb
  have plain : readPlain? (sign ++ base) = some (ofPair (sign != []) (m, s)) := by
    have read := hread []
    rw [List.append_nil] at read
    rw [readPlain?_signed hs hb.head, read]
    rfl
  refine ⟨ofPair (sign != []) (m, s), hm, hscale, ?_, fun power blank => ?_⟩
  · rw [ofPair, value_ofParts, hvalue, textValue_signed hs hb.head]
    rcases hs with rfl | rfl <;> rfl
  · obtain ⟨c, tail, hbase, digit⟩ := hb.head
    -- read as a plain number the text ends in no digit, so that it is read with its exponent
    have unread : readPlain? (sign ++ (base ++ 'e' :: power)) = none := by
      rw [readPlain?_signed hs ⟨c, _, by rw [hbase]; rfl, digit⟩, hread]
      rfl
    have nonblank : ∀ c ∈ sign ++ base ++ 'e' :: power, isBlank c = false := by
      intro c hc
      rcases List.mem_append.1 hc with hc | hc
      · exact isBlank_of_char (chars c hc)
      · rcases List.mem_cons.1 hc with rfl | hc
        · rfl
        · exact blank c hc
    rw [← List.append_assoc] at unread ⊢
    rw [parse?_ofList nonblank (by simp), unread, Option.none_or, readScientific?_power chars,
      plain, Option.bind_some]

theorem isBlank_of_power {c d : Char} (hc : c = '+' ∨ c = '-') (he : IsDigits es)
    (hd : d ∈ c :: es) : isBlank d = false := by
  rcases List.mem_cons.1 hd with rfl | hd
  · rcases hc with rfl | rfl <;> rfl
  · exact Text.isBlank_of_isDigit (he.2 d hd)

theorem parse?_power (hs : IsSign sign) (hb : IsPositional base) (short : base.length ≤ maxScale)
    (one : 1 ≤ magnitudeValue base) (ten : magnitudeValue base < 10) {c : Char}
    (hc : c = '+' ∨ c = '-') (he : IsDigits es) :
    ReadsIf (InReach (textValue (sign ++ (base ++ 'e' :: c :: es))))
      (parse? (String.ofList (sign ++ (base ++ 'e' :: c :: es))))
      (textValue (sign ++ (base ++ 'e' :: c :: es))) := by
  obtain ⟨d, hm, hscale, hvalue, hparse⟩ := parse?_short hs hb short
  have magnitude : |d.value| = magnitudeValue base := by
    rw [hvalue, abs_textValue hs hb, abs_of_nonneg (zero_le_one.trans one)]
  rw [← magnitude] at one ten
  rw [textValue_power hs hb, hparse _ fun _ => isBlank_of_power hc he, ← hvalue]
  rcases hc with rfl | rfl
  · have power : powerValue ('+' :: es) = natOfDigits es := rfl
    rw [movePoint?_plus hscale he, power, zpow_natCast]
    exact shiftUp?_readsIf hm hscale one _
  · have power : powerValue ('-' :: es) = -(natOfDigits es : ℤ) := rfl
    rw [movePoint?_minus he, power, zpow_neg, zpow_natCast, ← div_eq_mul_inv]
    exact shiftDown?_readsIf hm one ten _

end

/-! ## Texts of numbers -/

/-- The texts that numbers are printed as: whole, with no more digits behind the point than decimals
have places, or with few digits and an exponent. -/
inductive IsPrinted : List Char → Prop
  | whole {sign ds : List Char} : IsSign sign → IsDigits ds → IsPrinted (sign ++ ds)
  | fraction {sign ds fs : List Char} : IsSign sign → IsDigits ds → IsDigits fs →
      fs.length ≤ maxScale → IsPrinted (sign ++ (ds ++ '.' :: fs))
  | power {sign base es : List Char} {c : Char} : IsSign sign → IsPositional base →
      base.length ≤ maxScale → 1 ≤ magnitudeValue base → magnitudeValue base < 10 →
      c = '+' ∨ c = '-' → IsDigits es → IsPrinted (sign ++ (base ++ 'e' :: c :: es))

theorem inReach_of_places {q : ℚ} {m s : ℕ} (hq : |q| = m / 10 ^ s) (hs : s ≤ maxScale) :
    InReach q ↔ Fits q := by
  refine and_iff_left ?_
  rcases m.eq_zero_or_pos with rfl | pos
  · exact .inl (abs_eq_zero.1 (by rw [hq]; simp))
  · right
    have one : (1 : ℚ) ≤ m := by exact_mod_cast pos
    rw [hq]
    gcongr
    norm_num

/-- Of a printed number, just what is in reach is read. -/
theorem parse?_printed {cs : List Char} (h : IsPrinted cs) :
    ReadsIf (InReach (textValue cs)) (parse? (String.ofList cs)) (textValue cs) := by
  cases h with
  | @whole sign ds hs hd =>
    have magnitude : |textValue (sign ++ ds)| = natOfDigits ds / 10 ^ 0 := by
      have positional := IsPositional.whole hd
      rw [abs_textValue hs positional, magnitudeValue_plain (positional.not_mem rfl nofun),
        plainValue_digits hd.2, pow_zero, div_one, Nat.abs_cast]
    rw [inReach_of_places magnitude maxScale.zero_le]
    exact parse?_readsAs (.whole hs hd)
  | @fraction sign ds fs hs hd hf places =>
    have positional := IsPositional.fraction hd hf
    have magnitude : |textValue (sign ++ (ds ++ '.' :: fs))| =
        natOfDigits (ds ++ fs) / 10 ^ fs.length := by
      rw [abs_textValue hs positional, magnitudeValue_plain (positional.not_mem rfl nofun),
        plainValue_fraction hd.2, natOfDigits_add_fractionValue, abs_of_nonneg (by positivity)]
    rw [inReach_of_places magnitude places, ← List.append_assoc]
    exact parse?_readsAs (.fraction hs hd hf)
  | power hs hb short one ten hc he => exact parse?_power hs hb short one ten hc he

end Decimal

end Stencil
