import Stencil.Path.Operand
import Stencil.Proofs.Number.Exponents
import Stencil.Proofs.Number.Shortest

/-!
# Printed numbers read back as decimals

The text of a JSON number is short enough for decimals to hold it exactly, but for its exponent.
-/

namespace Stencil

open Stencil.Path (IsDigits IsSign)
open Text (natOfDigits)
open Decimal (IsPrinted)

/-! ## Digits of a number -/

theorem isDigits_digits (n : ℕ) : IsDigits (Text.digits n) :=
  ⟨Nat.toDigits_ne_nil, fun _ => Nat.isDigit_of_mem_toDigits (by decide) (by decide)⟩

theorem natOfDigits_digits (n : ℕ) : natOfDigits (Text.digits n) = n := by
  rw [natOfDigits_eq]
  exact Nat.ofDigitChars_ten_toDigits

theorem isDigits_zero : IsDigits ['0'] := Text.isDigits_of_all nofun rfl

theorem isDigit_replicate_zero {n : ℕ} : ∀ c ∈ List.replicate n '0', c.isDigit = true := by
  intro c hc
  rw [(List.mem_replicate.1 hc).2]
  rfl

theorem isDigits_append_zeros {ds : List Char} (h : IsDigits ds) (n : ℕ) :
    IsDigits (ds ++ List.replicate n '0') :=
  ⟨by simp [h.1], fun c hc => (List.mem_append.1 hc).elim (h.2 c) (isDigit_replicate_zero c)⟩

theorem isDigits_zeros_append {ds : List Char} (h : IsDigits ds) (n : ℕ) :
    IsDigits (List.replicate n '0' ++ ds) :=
  ⟨by simp [h.1], fun c hc => (List.mem_append.1 hc).elim (isDigit_replicate_zero c) (h.2 c)⟩

theorem intText_eq (z : ℤ) : Text.intText z =
    String.ofList ((if decide (z < 0) then ['-'] else []) ++ Text.digits z.natAbs) := by
  unfold Text.intText Text.natText
  by_cases below : z < 0 <;> simp [below]

theorem isSign_ite (negative : Bool) : IsSign (if negative then ['-'] else []) := by
  cases negative
  · exact .inl rfl
  · exact .inr rfl

namespace Binary64

/-- The sign that stands in front of the digits. -/
def signText (x : Binary64) : List Char := if x.negative then ['-'] else []

theorem isSign_signText (x : Binary64) : IsSign x.signText := by
  unfold signText
  split
  · exact .inr rfl
  · exact .inl rfl

/-- Digits with the point behind the first of them, and with none if that is the only one. -/
def pointed (a : Char) (fs : List Char) : List Char :=
  [a] ++ if fs.isEmpty then [] else '.' :: fs

/-- The digits of a number with its point where the exponent of the leading digit puts it. -/
def bodyText (c : ℕ) (e : ℤ) : List Char :=
  let ds := Text.digits c
  let lead : ℤ := e + ds.length - 1
  if lead < -5 ∨ 15 < lead then
    let fraction := ds.drop 1
    ds.take 1 ++ (if fraction.isEmpty then [] else '.' :: fraction) ++
      'e' :: (exponentText lead).toList
  else if 0 ≤ e then ds ++ List.replicate e.toNat '0' ++ ['.', '0']
  else if 0 ≤ lead then ds.take (lead.toNat + 1) ++ '.' :: ds.drop (lead.toNat + 1)
  else '0' :: '.' :: (List.replicate ((-lead).toNat - 1) '0' ++ ds)

theorem text_toList (x : Binary64) :
    x.text.toList = x.signText ++
      if x.isZero then ['0', '.', '0'] else bodyText x.shortest.1 x.shortest.2 := by
  unfold text signText
  split <;> split <;> simp [bodyText]

theorem isPrinted_zero {sign : List Char} (hs : IsSign sign) :
    IsPrinted (sign ++ ['0', '.', '0']) :=
  @IsPrinted.fraction sign ['0'] ['0'] hs isDigits_zero isDigits_zero (by decide)

theorem exponentText_toList (e : ℤ) :
    ∃ c, (exponentText e).toList = c :: Text.digits e.natAbs ∧ (c = '+' ∨ c = '-') := by
  unfold exponentText Text.natText
  split
  · exact ⟨'-', by simp, .inr rfl⟩
  · exact ⟨'+', by simp, .inl rfl⟩

section

variable {sign fs : List Char} {a : Char} {c : ℕ}

theorem isPositional_pointed (ha : a.isDigit = true) (hfs : ∀ d ∈ fs, d.isDigit = true) :
    IsPositional (pointed a fs) := by
  have first : IsDigits [a] := ⟨nofun, List.forall_mem_singleton.2 ha⟩
  cases fs with
  | nil => exact .whole first
  | cons b fs => exact .fraction first ⟨nofun, hfs⟩

theorem magnitudeValue_pointed (ha : a.isDigit = true) (hfs : ∀ d ∈ fs, d.isDigit = true) :
    magnitudeValue (pointed a fs) = natOfDigits (a :: fs) / 10 ^ fs.length := by
  have first : ∀ d ∈ [a], d.isDigit = true := List.forall_mem_singleton.2 ha
  rw [magnitudeValue_plain ((isPositional_pointed ha hfs).not_mem rfl nofun)]
  cases fs with
  | nil => simp [pointed, plainValue_digits first]
  | cons b fs =>
    have parts : plainValue (pointed a (b :: fs)) = _ := plainValue_fraction first _
    rw [parts]
    exact natOfDigits_add_fractionValue [a] (b :: fs)

theorem isPrinted_scientific (hs : IsSign sign) (hc : 1 ≤ c) (hds : Text.digits c = a :: fs)
    (few : fs.length ≤ 17) (e : ℤ) :
    IsPrinted (sign ++ (pointed a fs ++ 'e' :: (exponentText e).toList)) := by
  have digits := (isDigits_digits c).2
  rw [hds, List.forall_mem_cons] at digits
  have count : Text.digitCount c = fs.length + 1 := by rw [Text.digitCount, hds, List.length_cons]
  have value : magnitudeValue (pointed a fs) = c / 10 ^ fs.length := by
    rw [magnitudeValue_pointed digits.1 digits.2, ← hds, natOfDigits_digits]
  have one : 1 ≤ magnitudeValue (pointed a fs) := by
    have low := pow_digitCount_le hc
    rw [count, Nat.add_sub_cancel] at low
    rw [value, le_div_iff₀ (by positivity), one_mul]
    exact_mod_cast low
  have ten : magnitudeValue (pointed a fs) < 10 := by
    have high := lt_pow_digitCount c
    rw [count, pow_succ, mul_comm] at high
    rw [value, div_lt_iff₀ (by positivity)]
    exact_mod_cast high
  have short : (pointed a fs).length ≤ Decimal.maxScale := by
    have places : Decimal.maxScale = 28 := rfl
    unfold pointed
    split <;> simp <;> omega
  obtain ⟨mark, hmark, hsign⟩ := exponentText_toList e
  rw [hmark]
  exact .power hs (isPositional_pointed digits.1 digits.2) short one ten hsign
    (isDigits_digits e.natAbs)

end

/-- However the digits are printed, decimals have places enough for them. -/
theorem isPrinted_bodyText {sign : List Char} (hs : IsSign sign) {c : ℕ} {e : ℤ}
    (few : c ≤ 10 ^ 17) (nonzero : 1 ≤ c ∨ (c, e) = (0, 0)) : IsPrinted (sign ++ bodyText c e) := by
  have digits := isDigits_digits c
  have length : (Text.digits c).length ≤ 18 := (digitCount_le_iff (by decide)).2 (by omega)
  have pos : 0 < (Text.digits c).length := digitCount_pos c
  have places : Decimal.maxScale = 28 := rfl
  unfold bodyText
  dsimp only
  split
  · next far =>
    -- digits that write zero come without an exponent, and so near the point
    have hc : 1 ≤ c := by
      refine nonzero.resolve_right fun zero => ?_
      cases zero
      have lead : ¬((0 : ℤ) + (Text.digits 0).length - 1 < -5 ∨
        15 < (0 : ℤ) + (Text.digits 0).length - 1) := by decide
      exact lead far
    obtain ⟨a, fs, hds⟩ := List.exists_cons_of_ne_nil digits.1
    have tail : fs.length ≤ 17 := by
      rw [hds, List.length_cons] at length
      omega
    have printed := isPrinted_scientific hs hc hds tail (e + (Text.digits c).length - 1)
    rw [hds] at printed ⊢
    exact printed
  · next near =>
    split
    · exact .fraction hs (isDigits_append_zeros digits e.toNat) isDigits_zero (by simp [places])
    · next fraction =>
      split
      · next inside =>
        have before :
            IsDigits ((Text.digits c).take ((e + (Text.digits c).length - 1).toNat + 1)) :=
          ⟨by simp [digits.1], fun d hd => digits.2 d (List.mem_of_mem_take hd)⟩
        have behind :
            IsDigits ((Text.digits c).drop ((e + (Text.digits c).length - 1).toNat + 1)) := by
          refine ⟨?_, fun d hd => digits.2 d (List.mem_of_mem_drop hd)⟩
          rw [Ne, List.drop_eq_nil_iff]
          omega
        refine .fraction hs before behind ?_
        rw [List.length_drop]
        omega
      · next small =>
        have zeros := isDigits_zeros_append digits ((-(e + (Text.digits c).length - 1)).toNat - 1)
        refine @IsPrinted.fraction sign ['0'] _ hs isDigits_zero zeros ?_
        rw [List.length_append, List.length_replicate]
        omega

end Binary64

theorem textValue_intText (z : ℤ) : textValue (Text.intText z).toList = z := by
  have digits := isDigits_digits z.natAbs
  have magnitude : magnitudeValue (Text.digits z.natAbs) = |(z : ℚ)| := by
    rw [magnitudeValue_plain ((IsPositional.whole digits).not_mem rfl nofun),
      plainValue_digits digits.2, natOfDigits_digits, Nat.cast_natAbs, Int.cast_abs]
  rw [intText_eq, String.toList_ofList, textValue_signed (isSign_ite _) digits.head, magnitude]
  by_cases below : z < 0
  · have negative : (z : ℚ) < 0 := by exact_mod_cast below
    simp [below, abs_of_neg negative]
  · have positive : (0 : ℚ) ≤ z := by exact_mod_cast not_lt.1 below
    simp [below, abs_of_nonneg positive]

theorem isPrinted_text (n : JsonNumber) : IsPrinted n.text.toList := by
  cases n with
  | int z =>
    have text : (JsonNumber.int z).text = Text.intText z := rfl
    rw [text, intText_eq, String.toList_ofList]
    exact .whole (isSign_ite _) (isDigits_digits z.natAbs)
  | float x =>
    have text : (JsonNumber.float x).text.toList = x.signText ++
        if x.isZero then ['0', '.', '0'] else Binary64.bodyText x.shortest.1 x.shortest.2 :=
      x.text_toList
    rw [text]
    split
    · exact Binary64.isPrinted_zero x.isSign_signText
    · next nonzero =>
      obtain ⟨few, start⟩ := Binary64.shortest_bounds (Bool.eq_false_iff.2 nonzero)
      exact Binary64.isPrinted_bodyText x.isSign_signText few start

end Stencil
