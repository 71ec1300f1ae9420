import Stencil.Proofs.Slot.Formats

/-!
# Currency and number formats

Both formats round to the same digits and group them alike. The number format takes its minus sign
from the rounded number and the currency format from the number itself, so that they part where a
negative number is rounded to zero.
-/

namespace Stencil

open Text (natOfDigits)

namespace Decimal

/-! ## Zero carries no sign -/

/-- Where there is a sign, there is something behind it. -/
def NoNegativeZero (d : Decimal) : Prop := d.negative = true → d.mantissa ≠ 0

section

variable {m s k : ℕ} {d e : Decimal} {cs : List Char}

theorem ofParts_noNegativeZero (negative : Bool) (m s : ℕ) :
    (ofParts negative m s).NoNegativeZero := by
  intro h
  exact bne_iff_ne.1 (Bool.and_eq_true_iff.1 h).2

theorem readPlain?_noNegativeZero (h : readPlain? cs = some d) : d.NoNegativeZero := by
  unfold readPlain? at h
  split at h <;>
  · obtain ⟨p, -, rfl⟩ := Option.map_eq_some_iff.1 h
    exact ofParts_noNegativeZero _ _ _

theorem shiftDown?_noNegativeZero (hd : d.NoNegativeZero) (h : d.shiftDown? k = some e) :
    e.NoNegativeZero := by
  unfold shiftDown? at h
  split at h
  · cases h
  · split at h <;> cases h
    · exact hd
    · exact ofParts_noNegativeZero _ _ _

theorem shiftUp?_noNegativeZero (hd : d.NoNegativeZero) (h : d.shiftUp? k = some e) :
    e.NoNegativeZero := by
  unfold shiftUp? at h
  split at h
  · cases h
    exact hd
  · split at h
    · cases h
    · dsimp only at h
      split at h
      · cases h
        unfold normalize
        split <;> exact ofParts_noNegativeZero _ _ _
      · cases h

theorem readScientific?_noNegativeZero (h : readScientific? cs = some d) : d.NoNegativeZero := by
  unfold readScientific? at h
  dsimp only at h
  split at h
  · cases h
  · obtain ⟨base, hbase, h⟩ := Option.bind_eq_some_iff.1 h
    have sound := readPlain?_noNegativeZero hbase
    split at h
    · obtain ⟨k, -, h⟩ := Option.bind_eq_some_iff.1 h
      exact shiftDown?_noNegativeZero sound h
    · obtain ⟨k, -, h⟩ := Option.bind_eq_some_iff.1 h
      exact shiftUp?_noNegativeZero sound h

theorem parse?_noNegativeZero {text : String} (h : parse? text = some d) : d.NoNegativeZero := by
  unfold parse? at h
  dsimp only at h
  split at h
  · cases h
  · split at h
    · next hplain =>
      cases h
      exact readPlain?_noNegativeZero hplain
    · exact readScientific?_noNegativeZero h

theorem NoNegativeZero.negative_iff (hd : d.NoNegativeZero) : d.negative = true ↔ d.value < 0 := by
  have nonneg : (0 : ℚ) ≤ d.mantissa / 10 ^ d.scale := by positivity
  rw [value_eq]
  cases hn : d.negative with
  | false => simpa using nonneg
  | true =>
    have pos : (0 : ℚ) < d.mantissa := by exact_mod_cast Nat.pos_of_ne_zero (hd hn)
    have : (0 : ℚ) < d.mantissa / 10 ^ d.scale := by positivity
    simpa using this

end

/-! ## Rounding to places -/

/-- The number is negative and rounded to zero. -/
def Vanishes (d : Decimal) (places : ℕ) : Prop := d.value < 0 ∧ |d.value| * 10 ^ places < 1 / 2

instance (d : Decimal) (places : ℕ) : Decidable (d.Vanishes places) :=
  inferInstanceAs (Decidable (_ ∧ _))

section

variable {d : Decimal} {places : ℕ}

theorem roundTo_mantissa (h : places < d.scale) :
    (d.roundTo places).mantissa = units d.value places := by
  have split : d.scale = places + (d.scale - places) := by omega
  have ratio : |d.value| * 10 ^ places = d.mantissa / 10 ^ (d.scale - places) := by
    rw [abs_value]
    conv_lhs => rw [split, pow_add]
    field_simp
  unfold roundTo
  rw [if_neg (by omega)]
  exact divHalfUp_eq_units ratio

theorem roundTo_negative (h : places < d.scale) :
    (d.roundTo places).negative = (d.negative && (d.roundTo places).mantissa != 0) := by
  unfold roundTo
  rw [if_neg (by omega)]
  rfl

theorem one_le_abs_value (hm : d.mantissa ≠ 0) (h : d.scale ≤ places) :
    1 ≤ |d.value| * 10 ^ places := by
  have one : (1 : ℚ) ≤ d.mantissa := by exact_mod_cast Nat.one_le_iff_ne_zero.2 hm
  have more : (10 : ℚ) ^ d.scale ≤ 10 ^ places := pow_le_pow_right₀ (by norm_num) h
  rw [abs_value, div_mul_eq_mul_div, le_div_iff₀ (by positivity), one_mul]
  calc (10 : ℚ) ^ d.scale ≤ 10 ^ places := more
    _ ≤ d.mantissa * 10 ^ places := le_mul_of_one_le_left (by positivity) one

theorem NoNegativeZero.roundTo_negative_iff (hd : d.NoNegativeZero) :
    (d.roundTo places).negative = true ↔ d.value < 0 ∧ ¬d.Vanishes places := by
  have vanishes : (d.value < 0 ∧ ¬d.Vanishes places) ↔
      d.value < 0 ∧ 1 / 2 ≤ |d.value| * 10 ^ places := by
    unfold Vanishes
    rw [← not_lt]
    tauto
  rw [vanishes, ← hd.negative_iff]
  rcases le_or_gt d.scale places with h | h
  · have same : d.roundTo places = d := if_pos h
    rw [same]
    refine ⟨fun hn => ⟨hn, ?_⟩, And.left⟩
    linarith [one_le_abs_value (hd hn) h]
  · have rounded : units d.value places ≠ 0 ↔ 1 / 2 ≤ |d.value| * 10 ^ places := by
      rw [← Nat.one_le_iff_ne_zero, le_units_iff]
      push_cast
      constructor <;> intro h <;> linarith
    rw [roundTo_negative h, roundTo_mantissa h, ← rounded]
    simp

theorem roundTo_abs (d : Decimal) (places : ℕ) :
    d.abs.roundTo places = (d.roundTo places).abs := by
  rcases le_or_gt d.scale places with h | h
  · have held : d.abs.scale ≤ places := h
    rw [roundTo, roundTo, if_pos h, if_pos held]
  · have cut : ¬d.abs.scale ≤ places := not_le.2 h
    rw [roundTo, roundTo, if_neg cut, if_neg (not_le.2 h)]
    rfl

end

/-! ## The text of the digits -/

theorem placed_head (m s places : ℕ) :
    ∃ c tail, placed m s places = c :: tail ∧ c.isDigit = true := by
  obtain ⟨c, tail, hwhole, digit⟩ := (isDigits_wholeText m s).head
  have front : ∃ more, placed m s places = wholeText m s ++ more := ⟨_, rfl⟩
  obtain ⟨more, hplaced⟩ := front
  exact ⟨c, tail ++ more, by rw [hplaced, hwhole, List.cons_append], digit⟩

theorem textTo_toList (d : Decimal) (places : ℕ) :
    (d.textTo places).toList = d.signText ++ placed d.mantissa d.scale places :=
  String.toList_ofList

end Decimal

namespace Slot

open Decimal (NoNegativeZero Vanishes placed placed_head)

/-- The digits of the rounded number, grouped in front of the point. -/
def groupedBody (d : Decimal) (places : ℕ) : List Char :=
  let body := placed (d.roundTo places).mantissa (d.roundTo places).scale places
  groupDigits (body.takeWhile (· != '.')) ++ body.dropWhile (· != '.')

/-- The currency sign behind the minus sign, or in front where there is none. -/
def withCurrencySign : List Char → List Char
  | '-' :: cs => '-' :: currencySign :: cs
  | cs => currencySign :: cs

section

variable {d : Decimal} {places : ℕ} {cs : List Char}

theorem groupDigits_cons (c : Char) (cs : List Char) :
    ∃ tail, groupDigits (c :: cs) = c :: tail := by
  unfold groupDigits
  split <;> exact ⟨_, rfl⟩

theorem groupedBody_head (d : Decimal) (places : ℕ) :
    ∃ c tail, groupedBody d places = c :: tail ∧ c.isDigit = true := by
  obtain ⟨c, tail, hplaced, digit⟩ :=
    placed_head (d.roundTo places).mantissa (d.roundTo places).scale places
  have point : (c != '.') = true := ne_of_isDigit digit rfl
  obtain ⟨more, hgroups⟩ := groupDigits_cons c (tail.takeWhile (· != '.'))
  refine ⟨c, more ++ tail.dropWhile (· != '.'), ?_, digit⟩
  have first : (c :: tail).takeWhile (· != '.') = c :: tail.takeWhile (· != '.') :=
    List.takeWhile_cons_of_pos point
  have rest : (c :: tail).dropWhile (· != '.') = tail.dropWhile (· != '.') :=
    List.dropWhile_cons_of_pos point
  unfold groupedBody
  dsimp only
  rw [hplaced, first, rest, hgroups, List.cons_append]

theorem groupedBody_no_sign (d : Decimal) (places : ℕ) :
    (groupedBody d places).head? ≠ some '-' := by
  obtain ⟨c, tail, hbody, digit⟩ := groupedBody_head d places
  rw [hbody]
  rintro ⟨⟩
  cases digit

theorem grouped_toList (d : Decimal) (places : ℕ) :
    (grouped d places).toList = (d.roundTo places).signText ++ groupedBody d places := by
  obtain ⟨c, tail, hplaced, digit⟩ :=
    placed_head (d.roundTo places).mantissa (d.roundTo places).scale places
  unfold grouped groupedBody fixed Decimal.signText
  rw [String.toList_ofList, Decimal.textTo_toList, Decimal.signText, hplaced]
  cases (d.roundTo places).negative with
  | true => rfl
  | false =>
    have plain : c ≠ '-' := by
      rintro rfl
      cases digit
    dsimp only [Bool.false_eq_true, if_false, List.nil_append]
    split
    · next h => exact absurd (List.cons.inj h).1 plain
    · rfl

theorem groupedBody_abs (d : Decimal) (places : ℕ) :
    groupedBody d.abs places = groupedBody d places := by
  unfold groupedBody
  rw [Decimal.roundTo_abs]
  rfl

theorem currency_toList (hd : d.NoNegativeZero) (places : ℕ) :
    (currency d places).toList =
      (if d.value < 0 then ['-'] else []) ++ currencySign :: groupedBody d places := by
  have unsigned : (grouped d.abs places).toList = groupedBody d places := by
    rw [grouped_toList, Decimal.roundTo_abs, groupedBody_abs]
    rfl
  have sign : (d.negative && !d.isZero) = true ↔ d.value < 0 := by
    rw [← hd.negative_iff]
    unfold Decimal.isZero
    constructor
    · intro h
      exact (Bool.and_eq_true_iff.1 h).1
    · intro h
      simp [h, hd h]
  unfold currency
  dsimp only
  simp only [sign]
  split
  · rw [String.toList_append, String.toList_append, unsigned]
    rfl
  · rw [String.toList_append, unsigned]
    rfl

theorem withCurrencySign_plain (h : cs.head? ≠ some '-') :
    withCurrencySign cs = currencySign :: cs := by
  unfold withCurrencySign
  split
  · exact absurd rfl h
  · rfl

theorem currency_eq_grouped (hd : d.NoNegativeZero) (places : ℕ) :
    (currency d places).toList =
      (if d.Vanishes places then ['-'] else []) ++ withCurrencySign (grouped d places).toList := by
  have rounded : (d.roundTo places).negative = true ↔ d.value < 0 ∧ ¬d.Vanishes places :=
    hd.roundTo_negative_iff
  rw [currency_toList hd, grouped_toList, Decimal.signText]
  by_cases negative : d.value < 0
  · by_cases vanishes : d.Vanishes places
    · have no_sign : ¬(d.roundTo places).negative = true := fun h => (rounded.1 h).2 vanishes
      rw [if_pos negative, if_pos vanishes, if_neg no_sign, List.nil_append,
        withCurrencySign_plain (groupedBody_no_sign d places)]
    · rw [if_pos negative, if_neg vanishes, if_pos (rounded.2 ⟨negative, vanishes⟩)]
      rfl
  · have vanishes : ¬d.Vanishes places := fun h => negative h.1
    have no_sign : ¬(d.roundTo places).negative = true := fun h => negative (rounded.1 h).1
    rw [if_neg negative, if_neg vanishes, if_neg no_sign, List.nil_append, List.nil_append,
      List.nil_append, withCurrencySign_plain (groupedBody_no_sign d places)]

theorem grouped_minus_iff (hd : d.NoNegativeZero) (places : ℕ) :
    (grouped d places).toList.head? = some '-' ↔ d.value < 0 ∧ ¬d.Vanishes places := by
  rw [grouped_toList, Decimal.signText, ← hd.roundTo_negative_iff]
  cases (d.roundTo places).negative with
  | true => simp
  | false => simpa using groupedBody_no_sign d places

theorem currency_minus_iff (hd : d.NoNegativeZero) (places : ℕ) :
    (currency d places).toList.head? = some '-' ↔ d.value < 0 := by
  rw [currency_toList hd]
  split
  · next negative => simp [negative]
  · next positive => simp [positive, currencySign]

end

/-- The currency format writes what the number format writes, with the currency sign behind the
minus sign or in front. Only a negative number that is rounded to zero has a minus sign in one of
them: the currency format. -/
theorem apply_currency {r : Registry} {ds : List Char} {c n : Char} {text : String} {d : Decimal}
    (hds : IsPrecision ds) (hc : FormatKind.ofLetter? c = some .currency)
    (hn : FormatKind.ofLetter? n = some .number) (hrc : r.get? (specOf c ds) = none)
    (hrn : r.get? (specOf n ds) = none) (h : Decimal.parse? text = some d) :
    let places := (precisionOf ds).getD 2
    let currency := (r.apply (specOf c ds) text).toList
    let number := (r.apply (specOf n ds) text).toList
    currency = (if d.Vanishes places then ['-'] else []) ++ withCurrencySign number ∧
      (currency.head? = some '-' ↔ d.value < 0) ∧
      (number.head? = some '-' ↔ d.value < 0 ∧ ¬d.Vanishes places) := by
  have sound := Decimal.parse?_noNegativeZero h
  have currency_text : r.apply (specOf c ds) text = currency d ((precisionOf ds).getD 2) := by
    rw [apply_numeric hrc (parse?_specOf hds hc), NumericFormat.written?, h]
    rfl
  have number_text : r.apply (specOf n ds) text = grouped d ((precisionOf ds).getD 2) := by
    rw [apply_numeric hrn (parse?_specOf hds hn), NumericFormat.written?, h]
    rfl
  dsimp only
  rw [currency_text, number_text]
  exact ⟨currency_eq_grouped sound _, currency_minus_iff sound _, grouped_minus_iff sound _⟩

theorem apply_currency_thousands :
    IsPrecision ['2'] ∧ Decimal.parse? "-1234.5" = some ⟨true, 12345, 1⟩ ∧
    ¬(⟨true, 12345, 1⟩ : Decimal).Vanishes 2 ∧
    Registry.builtin.apply (specOf 'N' ['2']) "-1234.5" = "-1,234.50" ∧
    (Registry.builtin.apply (specOf 'C' ['2']) "-1234.5").toList =
      withCurrencySign (Registry.builtin.apply (specOf 'N' ['2']) "-1234.5").toList := by
  have read : Decimal.parse? "-1234.5" = some ⟨true, 12345, 1⟩ := by decide +kernel
  have kept : ¬(⟨true, 12345, 1⟩ : Decimal).Vanishes 2 := by decide +kernel
  have precision : IsPrecision ['2'] := by decide
  have same := (apply_currency (c := 'C') (n := 'N') precision rfl rfl
    (builtin_get?_numeric (parse?_specOf precision rfl))
    (builtin_get?_numeric (parse?_specOf precision rfl)) read).1
  have two : (precisionOf ['2']).getD 2 = 2 := rfl
  rw [two, if_neg kept, List.nil_append] at same
  exact ⟨precision, read, kept, by decide +kernel, same⟩

/-- A thousandth below zero is written with a minus sign by the currency format alone. -/
theorem currency_of_rounded_zero :
    Decimal.parse? "-0.001" = some ⟨true, 1, 3⟩ ∧
    Registry.builtin.apply (specOf 'N' ['2']) "-0.001" = "0.00" ∧
    Registry.builtin.apply (specOf 'C' ['2']) "-0.001" = "-¤0.00" ∧
    (Registry.builtin.apply (specOf 'C' ['2']) "-0.001").toList ≠
      withCurrencySign (Registry.builtin.apply (specOf 'N' ['2']) "-0.001").toList := by
  have number : Registry.builtin.apply (specOf 'N' ['2']) "-0.001" = "0.00" := by decide +kernel
  have currency : Registry.builtin.apply (specOf 'C' ['2']) "-0.001" = "-¤0.00" := by decide +kernel
  refine ⟨by decide +kernel, number, currency, ?_⟩
  rw [number, currency]
  decide

end Slot

end Stencil
