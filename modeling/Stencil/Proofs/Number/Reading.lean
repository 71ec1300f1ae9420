import Mathlib.Data.List.TakeWhile
import Stencil.Proofs.Number.Rounding
import Stencil.Proofs.Text.Digits
import Stencil.Proofs.Text.Stripping

/-!
# Numbers read as decimals

A number in positional notation is read as its value rounded to what decimals hold, however many
digits it has, unless it is too large for that.
-/

namespace Stencil

open Stencil.Path (IsDigits IsSign IsNumeral)
open Text (natOfDigits digitValue isBlank Tight)

/-! ## Digits -/

section

variable {c : Char} {ds es : List Char}

theorem natOfDigits_eq (ds : List Char) : natOfDigits ds = Nat.ofDigitChars 10 ds 0 :=
  Nat.ofDigitChars_eq_foldl.symm

theorem natOfDigits_append (ds es : List Char) :
    natOfDigits (ds ++ es) = 10 ^ es.length * natOfDigits ds + natOfDigits es := by
  simp only [natOfDigits_eq]
  rw [Nat.ofDigitChars_append, Nat.ofDigitChars_eq_ofDigitChars_zero]

theorem natOfDigits_cons (c : Char) (ds : List Char) :
    natOfDigits (c :: ds) = 10 ^ ds.length * digitValue c + natOfDigits ds := by
  have one : natOfDigits [c] = digitValue c := by simp [natOfDigits]
  rw [← List.singleton_append, natOfDigits_append, one]

theorem ofDigitChars_natOfDigits (ds es : List Char) :
    Nat.ofDigitChars 10 es (natOfDigits ds) = natOfDigits (ds ++ es) := by
  rw [natOfDigits_eq, natOfDigits_eq, Nat.ofDigitChars_append]

theorem ofDigitChars_cons (c : Char) (ds : List Char) (m : ℕ) :
    Nat.ofDigitChars 10 (c :: ds) m = Nat.ofDigitChars 10 ds (10 * m + digitValue c) :=
  Nat.ofDigitChars_cons

theorem le_ofDigitChars (ds : List Char) (m : ℕ) : m ≤ Nat.ofDigitChars 10 ds m := by
  rw [Nat.ofDigitChars_eq_ofDigitChars_zero]
  exact (Nat.le_mul_of_pos_left m (by positivity)).trans (Nat.le_add_right _ _)

theorem digitValue_lt (h : c.isDigit = true) : digitValue c < 10 := by
  have range := Char.isDigit_iff_toNat.1 h
  have bounds : '0'.toNat = 48 ∧ '9'.toNat = 57 := ⟨rfl, rfl⟩
  rw [digitValue]
  omega

theorem natOfDigits_lt (h : ∀ c ∈ ds, c.isDigit = true) : natOfDigits ds < 10 ^ ds.length := by
  induction ds with
  | nil => exact Nat.one_pos
  | cons c ds ih =>
    rw [List.forall_mem_cons] at h
    have first := digitValue_lt h.1
    have rest := ih h.2
    rw [natOfDigits_cons, List.length_cons, pow_succ]
    calc 10 ^ ds.length * digitValue c + natOfDigits ds
        < 10 ^ ds.length * digitValue c + 10 ^ ds.length := by omega
      _ = 10 ^ ds.length * (digitValue c + 1) := by ring
      _ ≤ 10 ^ ds.length * 10 := Nat.mul_le_mul_left _ first

end

/-! ## The value of a text -/

/-- Digits with at most one point between them. -/
inductive IsPositional : List Char → Prop
  | whole {ds : List Char} : IsDigits ds → IsPositional ds
  | fraction {ds fs : List Char} : IsDigits ds → IsDigits fs → IsPositional (ds ++ '.' :: fs)

/-- The value of digits behind a point. -/
def fractionValue (fs : List Char) : ℚ := natOfDigits fs / 10 ^ fs.length

/-- The value of digits with at most one point between them. -/
def plainValue (cs : List Char) : ℚ :=
  natOfDigits (cs.takeWhile (· != '.')) + fractionValue ((cs.dropWhile (· != '.')).drop 1)

/-- The value of an exponent, which may be left out. -/
def powerValue : List Char → ℤ
  | '-' :: ds => -natOfDigits ds
  | '+' :: ds => natOfDigits ds
  | ds => natOfDigits ds

def magnitudeValue (cs : List Char) : ℚ :=
  plainValue (cs.takeWhile (· != 'e')) * 10 ^ powerValue ((cs.dropWhile (· != 'e')).drop 1)

/-- The exact value of a number as it is written in JSON. -/
def textValue : List Char → ℚ
  | '-' :: cs => -magnitudeValue cs
  | cs => magnitudeValue cs

section

variable {ds fs cs power : List Char}

theorem fractionValue_nil : fractionValue [] = 0 := by simp [fractionValue, natOfDigits]

theorem fractionValue_cons (c : Char) (fs : List Char) :
    fractionValue (c :: fs) = (digitValue c + fractionValue fs) / 10 := by
  rw [fractionValue, fractionValue, natOfDigits_cons, List.length_cons, pow_succ]
  push_cast
  field_simp

theorem natOfDigits_add_fractionValue (ds fs : List Char) :
    natOfDigits ds + fractionValue fs = natOfDigits (ds ++ fs) / 10 ^ fs.length := by
  rw [fractionValue, natOfDigits_append]
  push_cast
  field_simp

theorem fractionValue_nonneg (fs : List Char) : 0 ≤ fractionValue fs := by
  unfold fractionValue
  positivity

theorem fractionValue_lt_one (h : ∀ c ∈ fs, c.isDigit = true) : fractionValue fs < 1 := by
  rw [fractionValue, div_lt_one (by positivity)]
  exact_mod_cast natOfDigits_lt h

theorem ne_of_isDigit {c d : Char} (hc : c.isDigit = true) (hd : d.isDigit = false) :
    (c != d) = true := by
  rw [bne_iff_ne]
  rintro rfl
  cases hc.symm.trans hd

theorem plainValue_digits (h : ∀ c ∈ ds, c.isDigit = true) : plainValue ds = natOfDigits ds := by
  have none : ∀ c ∈ ds, (c != '.') = true := fun c hc => ne_of_isDigit (h c hc) rfl
  rw [plainValue, List.takeWhile_eq_self_iff.2 none, List.dropWhile_eq_nil_iff.2 none,
    List.drop_nil, fractionValue_nil, add_zero]

theorem plainValue_fraction (h : ∀ c ∈ ds, c.isDigit = true) (fs : List Char) :
    plainValue (ds ++ '.' :: fs) = natOfDigits ds + fractionValue fs := by
  have none : ∀ c ∈ ds, (c != '.') = true := fun c hc => ne_of_isDigit (h c hc) rfl
  rw [plainValue, List.takeWhile_append_of_pos none, List.dropWhile_append_of_pos none]
  simp

theorem magnitudeValue_plain (h : 'e' ∉ cs) : magnitudeValue cs = plainValue cs := by
  have none : ∀ c ∈ cs, (c != 'e') = true := fun c hc => bne_iff_ne.2 fun he => h (he ▸ hc)
  rw [magnitudeValue, List.takeWhile_eq_self_iff.2 none, List.dropWhile_eq_nil_iff.2 none]
  simp [powerValue, natOfDigits]

theorem magnitudeValue_power (h : 'e' ∉ cs) (power : List Char) :
    magnitudeValue (cs ++ 'e' :: power) = plainValue cs * 10 ^ powerValue power := by
  have none : ∀ c ∈ cs, (c != 'e') = true := fun c hc => bne_iff_ne.2 fun he => h (he ▸ hc)
  rw [magnitudeValue, List.takeWhile_append_of_pos none, List.dropWhile_append_of_pos none]
  simp

end

section

variable {cs sign : List Char}

theorem IsPositional.head (h : IsPositional cs) : ∃ c tail, cs = c :: tail ∧ c.isDigit = true := by
  cases h with
  | whole hd => exact hd.head
  | fraction hd =>
    obtain ⟨c, tail, rfl, hc⟩ := hd.head
    exact ⟨c, _, rfl, hc⟩

theorem IsPositional.chars (h : IsPositional cs) : ∀ c ∈ cs, c.isDigit = true ∨ c = '.' := by
  intro c hc
  cases h with
  | whole hd => exact .inl (hd.2 c hc)
  | fraction hd hf =>
    rcases List.mem_append.1 hc with hc | hc
    · exact .inl (hd.2 c hc)
    · exact (List.mem_cons.1 hc).symm.imp_left (hf.2 c)

theorem IsPositional.not_mem {d : Char} (h : IsPositional cs) (digit : d.isDigit = false)
    (point : d ≠ '.') : d ∉ cs := by
  intro hd
  rcases h.chars d hd with hdigit | rfl
  · cases digit.symm.trans hdigit
  · exact point rfl

theorem isNumeral_iff : IsNumeral cs ↔ ∃ sign body, cs = sign ++ body ∧ IsSign sign ∧
    IsPositional body := by
  constructor
  · rintro (⟨hs, hd⟩ | ⟨hs, hd, hf⟩)
    · exact ⟨_, _, rfl, hs, .whole hd⟩
    · exact ⟨_, _, List.append_assoc _ _ _, hs, .fraction hd hf⟩
  · rintro ⟨sign, _, rfl, hs, hd | ⟨hd, hf⟩⟩
    · exact .whole hs hd
    · rw [← List.append_assoc]
      exact .fraction hs hd hf

theorem textValue_signed (hs : IsSign sign) (first : ∃ c tail, cs = c :: tail ∧ c.isDigit = true) :
    textValue (sign ++ cs) = (if sign = [] then 1 else -1) * magnitudeValue cs := by
  obtain ⟨c, tail, rfl, digit⟩ := first
  rcases hs with rfl | rfl
  · have plain : c ≠ '-' := by
      rintro rfl
      cases digit
    rw [if_pos rfl, one_mul, List.nil_append]
    unfold textValue
    split
    · next he => exact absurd (List.cons.inj he).1 plain
    · rfl
  · rw [if_neg nofun, neg_one_mul]
    rfl

end

/-! ## Reading -/

namespace Decimal

/-- Within its reach a reading finds the number as decimals hold it, and nothing beyond. -/
def ReadsIf (within : Prop) (read : Option Decimal) (q : ℚ) : Prop :=
  (within → ∃ d, read = some d ∧ d.value = rounded q) ∧ (¬within → read = none)

abbrev ReadsAs (read : Option Decimal) (q : ℚ) : Prop := ReadsIf (Fits q) read q

def ofPair (negative : Bool) (p : ℕ × ℕ) : Decimal := ofParts negative p.1 p.2

theorem value_eq (d : Decimal) :
    d.value = (if d.negative then -1 else 1) * (d.mantissa / 10 ^ d.scale) := by
  unfold value signed
  split <;> simp [neg_div]

theorem abs_value (d : Decimal) : |d.value| = d.mantissa / 10 ^ d.scale := by
  have nonneg : (0 : ℚ) ≤ d.mantissa / 10 ^ d.scale := by positivity
  rw [value_eq, abs_mul, abs_of_nonneg nonneg]
  split <;> simp

theorem value_eq_abs (d : Decimal) : d.value = (if d.negative then -1 else 1) * |d.value| := by
  rw [abs_value, value_eq]

theorem value_whole {d : Decimal} (whole : d.scale = 0) : d.value = d.signed := by
  rw [value, whole, pow_zero, div_one]

theorem value_ofParts (negative : Bool) (m s : ℕ) :
    (ofParts negative m s).value = (if negative then -1 else 1) * (m / 10 ^ s) := by
  rw [value_eq, ofParts]
  by_cases hm : m = 0
  · simp [hm]
  · simp [hm]

theorem isHeld_value {d : Decimal} (hm : d.mantissa < mantissaBound) (hs : d.scale ≤ maxScale) :
    IsHeld d.value := ⟨_, _, hm, hs, abs_value d⟩

theorem readsAs_of_isHeld {d : Decimal} {q : ℚ} (h : IsHeld q) (hd : d.value = q) :
    ReadsAs (some d) q :=
  ⟨fun _ => ⟨d, rfl, hd.trans (rounded_of_isHeld h).symm⟩, fun big => (big (fits_of_isHeld h)).elim⟩

theorem ReadsAs.neg {o : Option (ℕ × ℕ)} {q : ℚ} (h : ReadsAs (o.map (ofPair false)) q) :
    ReadsAs (o.map (ofPair true)) (-q) := by
  rw [ReadsAs, ReadsIf, fits_neg]
  refine ⟨fun fits => ?_, fun big => ?_⟩
  · obtain ⟨d, hread, hvalue⟩ := h.1 fits
    obtain ⟨p, rfl, rfl⟩ := Option.map_eq_some_iff.1 hread
    refine ⟨_, rfl, ?_⟩
    rw [rounded_neg, ← hvalue, ofPair, ofPair, value_ofParts, value_ofParts]
    simp
  · rw [Option.map_eq_none_iff.1 (h.2 big), Option.map_none]

section

variable {q : ℚ} {m s digit : ℕ}

theorem readsAs_of_units (hq : 0 ≤ q) (hs : s ≤ maxScale) (hm : units q s = m)
    (fits : m < mantissaBound) (last : s = maxScale ∨ mantissaBound ≤ units q (s + 1)) :
    ReadsAs (some (ofPair false (m, s))) q := by
  refine ⟨fun _ => ⟨_, rfl, ?_⟩, fun big => (big (fits_of_units_lt (hm ▸ fits))).elim⟩
  rw [ofPair, value_ofParts, rounded_of_nonneg hq, heldPlaces_eq hs (hm ▸ fits) last, hm]
  simp

/-- The digits read so far and the next one, behind which the mantissa or the places are full. -/
structure Cut (q : ℚ) (m s digit : ℕ) : Prop where
  fits : m < mantissaBound
  places : s ≤ maxScale
  below : m + digit / 10 ≤ q * 10 ^ s
  above : q * 10 ^ s < m + (digit + 1) / 10
  last : s = maxScale ∨ mantissaBound ≤ 10 * m + digit

namespace Cut

theorem nonneg (h : Cut q m s digit) : 0 ≤ q := by
  have below : 0 ≤ q * 10 ^ s := le_trans (by positivity) h.below
  exact nonneg_of_mul_nonneg_left below (by positivity)

theorem full (h : Cut q m s digit) : s = maxScale ∨ mantissaBound ≤ units q (s + 1) := by
  refine h.last.imp_right fun full => ?_
  have below := h.below
  rw [le_units_iff, abs_of_nonneg h.nonneg, pow_succ]
  have full' : (mantissaBound : ℚ) ≤ 10 * m + digit := by exact_mod_cast full
  linarith

theorem units_down (h : Cut q m s digit) (hd : digit < 5) : units q s = m := by
  have below := h.below
  have above := h.above
  have small : (digit : ℚ) + 1 ≤ 5 := by exact_mod_cast hd
  have digit_nonneg : (0 : ℚ) ≤ digit := digit.cast_nonneg
  rw [units_eq_iff, abs_of_nonneg h.nonneg]
  constructor <;> linarith

theorem units_up (h : Cut q m s digit) (hd : 5 ≤ digit) (hd' : digit ≤ 9) :
    units q s = m + 1 := by
  have below := h.below
  have above := h.above
  have large : (5 : ℚ) ≤ digit := by exact_mod_cast hd
  have small : (digit : ℚ) ≤ 9 := by exact_mod_cast hd'
  rw [units_eq_iff, abs_of_nonneg h.nonneg]
  push_cast
  constructor <;> linarith

theorem units_less {s : ℕ} (h : Cut q m (s + 1) digit) (hd : 5 ≤ digit) (hd' : digit ≤ 9) :
    units q s = (m + 5) / 10 := by
  have below := h.below
  have above := h.above
  rw [pow_succ] at below above
  have large : (5 : ℚ) ≤ digit := by exact_mod_cast hd
  have small : (digit : ℚ) ≤ 9 := by exact_mod_cast hd'
  have down : 10 * (((m + 5) / 10 : ℕ) : ℚ) ≤ m + 5 := by exact_mod_cast Nat.mul_div_le (m + 5) 10
  have up : (m : ℚ) + 6 ≤ 10 * (((m + 5) / 10 : ℕ) + 1) := by
    have : m + 6 ≤ 10 * ((m + 5) / 10 + 1) := by omega
    exact_mod_cast this
  rw [units_eq_iff, abs_of_nonneg h.nonneg]
  constructor <;> linarith

theorem roundUp?_readsAs (h : Cut q m s digit) (hd : digit ≤ 9) :
    ReadsAs ((roundUp? m s digit).map (ofPair false)) q := by
  unfold roundUp?
  split
  · next small => exact readsAs_of_units h.nonneg h.places (h.units_down small) h.fits h.full
  · next large =>
    have up := h.units_up (not_lt.1 large) hd
    split
    · next fits => exact readsAs_of_units h.nonneg h.places up fits h.full
    · next big =>
      -- rounding up made one digit too many, so that the last place is given up
      have full : mantissaBound ≤ units q s := up ▸ not_lt.1 big
      cases s with
      | zero => exact ⟨fun fits => absurd fits full.not_gt, fun _ => rfl⟩
      | succ s =>
        have fits : (m + 5) / 10 < mantissaBound := by
          have := h.fits
          omega
        exact readsAs_of_units h.nonneg (Nat.le_of_succ_le h.places)
          (h.units_less (not_lt.1 large) hd) fits (.inr full)

end Cut

theorem readDigits_fraction {fs : List Char} (hf : ∀ c ∈ fs, c.isDigit = true)
    (hm : m < mantissaBound) (hs : s ≤ maxScale) :
    ReadsAs ((readDigits true true m s fs).map (ofPair false))
      ((m + fractionValue fs) / 10 ^ s) := by
  induction fs generalizing m s with
  | nil =>
    rw [fractionValue_nil, add_zero]
    have held : IsHeld (m / 10 ^ s : ℚ) := ⟨m, s, hm, hs, abs_of_nonneg (by positivity)⟩
    exact readsAs_of_isHeld held (by simp [ofPair, value_ofParts])
  | cons c fs ih =>
    rw [List.forall_mem_cons] at hf
    have digit := digitValue_lt hf.1
    have fraction_nonneg := fractionValue_nonneg fs
    have fraction_lt := fractionValue_lt_one hf.2
    -- wherever the reading stops, the digits left unread are a fraction of the next place
    have cut (last : s = maxScale ∨ mantissaBound ≤ 10 * m + digitValue c) :
        Cut ((m + fractionValue (c :: fs)) / 10 ^ s) m s (digitValue c) := by
      refine ⟨hm, hs, ?_, ?_, last⟩
      all_goals
        rw [div_mul_cancel₀ _ (by positivity), fractionValue_cons]
        linarith
    have step : readDigits true true m s (c :: fs) =
        if s = maxScale then roundUp? m s (digitValue c)
        else if 10 * m + digitValue c < mantissaBound then
          readDigits true true (10 * m + digitValue c) (s + 1) fs
        else roundUp? m s (digitValue c) := by
      rw [readDigits]
      simp [hf.1]
    rw [step]
    split
    · next full => exact (cut (.inl full)).roundUp?_readsAs (Nat.le_of_lt_succ digit)
    · next room =>
      split
      · next fits =>
        have next := ih hf.2 fits (Nat.lt_of_le_of_ne hs room)
        have same : ((10 * m + digitValue c : ℕ) + fractionValue fs) / 10 ^ (s + 1) =
            (m + fractionValue (c :: fs)) / 10 ^ s := by
          rw [fractionValue_cons, pow_succ]
          push_cast
          field_simp
          ring
        rwa [same] at next
      · next big =>
        exact (cut (.inr (not_lt.1 big))).roundUp?_readsAs (Nat.le_of_lt_succ digit)

theorem readDigits_whole {ds : List Char} (hd : IsDigits ds) (started : Bool) (m : ℕ)
    (rest : List Char) :
    readDigits false started m 0 (ds ++ rest) =
      if Nat.ofDigitChars 10 ds m < mantissaBound then
        readDigits false true (Nat.ofDigitChars 10 ds m) 0 rest
      else none := by
  obtain ⟨hne, hd⟩ := hd
  induction ds generalizing started m with
  | nil => exact (hne rfl).elim
  | cons c ds ih =>
    rw [List.forall_mem_cons] at hd
    have step : readDigits false started m 0 (c :: ds ++ rest) =
        if 10 * m + digitValue c < mantissaBound then
          readDigits false true (10 * m + digitValue c) 0 (ds ++ rest)
        else none := by
      rw [List.cons_append, readDigits]
      simp [hd.1]
    rw [step, ofDigitChars_cons]
    cases ds with
    | nil => rfl
    | cons d ds =>
      rw [ih true _ (List.cons_ne_nil d ds) hd.2]
      have grows := le_ofDigitChars (d :: ds) (10 * m + digitValue c)
      split
      · rfl
      · next big => rw [if_neg (by omega)]

theorem not_fits_of_le {n : ℕ} (h : mantissaBound ≤ n) (hq : (n : ℚ) ≤ |q|) : ¬Fits q := by
  refine not_lt.2 (h.trans (le_units_iff.2 ?_))
  rw [pow_zero, mul_one]
  linarith

theorem readDigits_readsAs {cs : List Char} (h : IsPositional cs) :
    ReadsAs ((readDigits false false 0 0 cs).map (ofPair false)) (magnitudeValue cs) := by
  rw [magnitudeValue_plain (h.not_mem rfl nofun)]
  have beyond {ds : List Char} {f : ℚ} (hf : 0 ≤ f) (big : ¬natOfDigits ds < mantissaBound) :
      ¬Fits (natOfDigits ds + f) := by
    refine not_fits_of_le (not_lt.1 big) ?_
    rw [abs_of_nonneg (by positivity)]
    linarith
  cases h with
  | whole hd =>
    have read := readDigits_whole hd false 0 []
    rw [List.append_nil, ← natOfDigits_eq] at read
    rw [read, plainValue_digits hd.2]
    split
    · next fits => simpa [readDigits, fractionValue_nil] using
        readDigits_fraction (List.forall_mem_nil _) fits maxScale.zero_le
    · next big =>
      have big := beyond le_rfl big
      rw [add_zero] at big
      exact ⟨fun fits => absurd fits big, fun _ => rfl⟩
  | @fraction ds fs hd hf =>
    rw [readDigits_whole hd, ← natOfDigits_eq, plainValue_fraction hd.2]
    split
    · next fits => simpa [readDigits] using readDigits_fraction hf.2 fits maxScale.zero_le
    · next big =>
      exact ⟨fun fits => absurd fits (beyond (fractionValue_nonneg fs) big), fun _ => rfl⟩

theorem readPlain?_signed {sign cs : List Char} (hs : IsSign sign)
    (first : ∃ c tail, cs = c :: tail ∧ c.isDigit = true) :
    readPlain? (sign ++ cs) = (readDigits false false 0 0 cs).map (ofPair (sign != [])) := by
  obtain ⟨c, tail, rfl, digit⟩ := first
  rcases hs with rfl | rfl
  · unfold readPlain?
    split
    · next he =>
      cases he
      cases digit
    · next he =>
      cases he
      cases digit
    · rfl
  · rfl

theorem readPlain?_readsAs {cs : List Char} (h : IsNumeral cs) :
    ReadsAs (readPlain? cs) (textValue cs) := by
  obtain ⟨sign, body, rfl, hs, hbody⟩ := isNumeral_iff.1 h
  have digits := readDigits_readsAs hbody
  rw [readPlain?_signed hs hbody.head, textValue_signed hs hbody.head]
  rcases hs with rfl | rfl
  · rw [if_pos rfl, one_mul]
    exact digits
  · rw [if_neg nofun, neg_one_mul]
    exact digits.neg

theorem parse?_ofList {cs : List Char} (h : ∀ c ∈ cs, isBlank c = false) (hne : cs ≠ []) :
    parse? (String.ofList cs) = (readPlain? cs).or (readScientific? cs) := by
  have tight : Tight isBlank cs :=
    ⟨fun c hc => h c (List.mem_of_head? hc),
      fun c hc => h c (List.mem_reverse.1 (List.mem_of_head? hc))⟩
  unfold parse?
  rw [String.toList_ofList, Text.strip_tight tight, if_neg (by simpa using hne)]
  cases readPlain? cs <;> rfl

theorem chars_of_signed {sign body : List Char} (hs : IsSign sign) (hbody : IsPositional body) :
    ∀ c ∈ sign ++ body, c = '-' ∨ c.isDigit = true ∨ c = '.' := by
  intro c hc
  rcases List.mem_append.1 hc with hc | hc
  · rcases hs with rfl | rfl
    · cases hc
    · exact .inl (List.mem_singleton.1 hc)
  · exact .inr (hbody.chars c hc)

theorem isBlank_of_char {c : Char} (h : c = '-' ∨ c.isDigit = true ∨ c = '.') :
    isBlank c = false := by
  rcases h with rfl | digit | rfl
  · rfl
  · exact Text.isBlank_of_isDigit digit
  · rfl

theorem not_mark_of_char {c : Char} (h : c = '-' ∨ c.isDigit = true ∨ c = '.') :
    (!(c == 'e' || c == 'E')) = true := by
  rcases h with rfl | digit | rfl
  · rfl
  · have lower := ne_of_isDigit (d := 'e') digit rfl
    have upper := ne_of_isDigit (d := 'E') digit rfl
    rw [bne] at lower upper
    rw [Bool.not_or, lower, upper, Bool.and_self]
  · rfl

theorem readScientific?_plain {cs : List Char}
    (h : ∀ c ∈ cs, c = '-' ∨ c.isDigit = true ∨ c = '.') : readScientific? cs = none := by
  have none : cs.dropWhile (fun c => !(c == 'e' || c == 'E')) = [] :=
    List.dropWhile_eq_nil_iff.2 fun c hc => not_mark_of_char (h c hc)
  unfold readScientific?
  dsimp only
  rw [none]

/-- The point is moved as an exponent says. -/
def movePoint? (d : Decimal) : List Char → Option Decimal
  | '-' :: ds => (Text.unsigned? 32 ds).bind d.shiftDown?
  | ds => (Text.unsigned? 32 ds).bind d.shiftUp?

theorem readScientific?_power {cs : List Char}
    (h : ∀ c ∈ cs, c = '-' ∨ c.isDigit = true ∨ c = '.') (power : List Char) :
    readScientific? (cs ++ 'e' :: power) = (readPlain? cs).bind fun d => d.movePoint? power := by
  have unmarked : ∀ c ∈ cs, (!(c == 'e' || c == 'E')) = true :=
    fun c hc => not_mark_of_char (h c hc)
  have base : (cs ++ 'e' :: power).takeWhile (fun c => !(c == 'e' || c == 'E')) = cs := by
    rw [List.takeWhile_append_of_pos unmarked]
    simp
  have rest : (cs ++ 'e' :: power).dropWhile (fun c => !(c == 'e' || c == 'E')) = 'e' :: power := by
    rw [List.dropWhile_append_of_pos unmarked]
    rfl
  unfold readScientific?
  dsimp only
  rw [base, rest]
  rfl

/-- Every number in positional notation is read, if only it is not too large. -/
theorem parse?_readsAs {cs : List Char} (h : IsNumeral cs) :
    ReadsAs (parse? (String.ofList cs)) (textValue cs) := by
  have plain := readPlain?_readsAs h
  obtain ⟨sign, body, rfl, hs, hbody⟩ := isNumeral_iff.1 h
  have chars := chars_of_signed hs hbody
  have hne : sign ++ body ≠ [] := by
    obtain ⟨c, tail, rfl, -⟩ := hbody.head
    simp
  rw [parse?_ofList (fun c hc => isBlank_of_char (chars c hc)) hne, readScientific?_plain chars,
    Option.or_none]
  exact plain

end

end Decimal

end Stencil
