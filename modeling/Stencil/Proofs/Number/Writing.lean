import Stencil.Proofs.Number.Printing

/-!
# Decimals written out

The text of a decimal is a number in positional notation that writes its value. So a decimal that
was read from a text is read back from its own one as an equal decimal.
-/

namespace Stencil.Decimal

open Stencil.Path (IsDigits IsSign IsNumeral)
open Text (natOfDigits)

/-- The mantissa and the places are those that decimals have. -/
structure Bounded (d : Decimal) : Prop where
  mantissa : d.mantissa < mantissaBound
  scale : d.scale ≤ maxScale

/-! ## What is read is bounded -/

section

variable {m s digit : ℕ} {d e : Decimal}

theorem ofParts_bounded (negative : Bool) (hm : m < mantissaBound) (hs : s ≤ maxScale) :
    (ofParts negative m s).Bounded := ⟨hm, hs⟩

theorem roundUp?_bounded (hm : m < mantissaBound) (hs : s ≤ maxScale) {p : ℕ × ℕ}
    (h : roundUp? m s digit = some p) : p.1 < mantissaBound ∧ p.2 ≤ maxScale := by
  unfold roundUp? at h
  split at h
  · cases h
    exact ⟨hm, hs⟩
  · split at h
    · next fits =>
      cases h
      exact ⟨fits, hs⟩
    · split at h
      · cases h
      · cases h
        constructor
        · dsimp only
          omega
        · exact (Nat.sub_le s 1).trans hs

theorem readDigits_bounded {cs : List Char} {point started : Bool} (hm : m < mantissaBound)
    (hs : s ≤ maxScale) {p : ℕ × ℕ} (h : readDigits point started m s cs = some p) :
    p.1 < mantissaBound ∧ p.2 ≤ maxScale := by
  induction cs generalizing point started m s with
  | nil =>
    rw [readDigits] at h
    split at h
    · cases h
      exact ⟨hm, hs⟩
    · cases h
  | cons c cs ih =>
    rw [readDigits] at h
    dsimp only at h
    split at h
    · split at h
      · exact roundUp?_bounded hm hs h
      · next room =>
        split at h
        · next fits =>
          refine ih fits ?_ h
          cases point with
          | true =>
            have below : s ≠ maxScale := by simpa using room
            exact Nat.lt_of_le_of_ne hs below
          | false => exact maxScale.zero_le
        · split at h
          · exact roundUp?_bounded hm hs h
          · cases h
    · split at h
      · split at h
        · cases h
          exact ⟨hm, hs⟩
        · split at h
          · cases h
          · exact ih hm hs h
      · split at h
        · split at h
          · cases h
            exact ⟨hm, hs⟩
          · exact ih hm hs h
        · cases h

theorem readPlain?_bounded {cs : List Char} (h : readPlain? cs = some d) : d.Bounded := by
  unfold readPlain? at h
  split at h <;>
  · obtain ⟨p, hp, rfl⟩ := Option.map_eq_some_iff.1 h
    obtain ⟨hm, hs⟩ := readDigits_bounded (by decide) maxScale.zero_le hp
    exact ofParts_bounded _ hm hs

theorem divHalfUp_le (m : ℕ) {k : ℕ} (hk : 0 < k) : divHalfUp m (tenTo k) ≤ m := by
  have ten : 10 ≤ tenTo k := Nat.le_self_pow hk.ne' 10
  unfold divHalfUp
  rcases m.eq_zero_or_pos with rfl | pos
  · rw [Nat.div_eq_of_lt (by omega)]
  · refine Nat.div_le_of_le_mul ?_
    nlinarith

theorem shiftDown?_bounded (hd : d.Bounded) {k : ℕ} (h : d.shiftDown? k = some e) : e.Bounded := by
  unfold shiftDown? at h
  split at h
  · cases h
  · split at h
    · next room =>
      cases h
      exact ⟨hd.mantissa, room⟩
    · next less =>
      cases h
      exact ofParts_bounded _ ((divHalfUp_le _ (by omega)).trans_lt hd.mantissa) le_rfl

theorem shiftUp?_bounded (hd : d.Bounded) {k : ℕ} (h : d.shiftUp? k = some e) : e.Bounded := by
  unfold shiftUp? at h
  split at h
  · cases h
    exact ⟨hd.mantissa, (Nat.sub_le _ _).trans hd.scale⟩
  · split at h
    · cases h
    · dsimp only at h
      split at h
      · next fits =>
        cases h
        unfold normalize
        split
        · exact ⟨by decide, by decide⟩
        · exact ofParts_bounded _ fits maxScale.zero_le
      · cases h

theorem readScientific?_bounded {cs : List Char} (h : readScientific? cs = some d) :
    d.Bounded := by
  unfold readScientific? at h
  dsimp only at h
  split at h
  · cases h
  · obtain ⟨base, hbase, h⟩ := Option.bind_eq_some_iff.1 h
    have bounded := readPlain?_bounded hbase
    split at h
    · obtain ⟨k, -, h⟩ := Option.bind_eq_some_iff.1 h
      exact shiftDown?_bounded bounded h
    · obtain ⟨k, -, h⟩ := Option.bind_eq_some_iff.1 h
      exact shiftUp?_bounded bounded h

theorem parse?_bounded {text : String} (h : parse? text = some d) : d.Bounded := by
  unfold parse? at h
  dsimp only at h
  split at h
  · cases h
  · split at h
    · next hplain =>
      cases h
      exact readPlain?_bounded hplain
    · exact readScientific?_bounded h

end

/-! ## The text of a decimal -/

/-- The digits of a mantissa, as many as there are places at least. -/
def padded (m s : ℕ) : List Char :=
  if m = 0 then List.replicate s '0' else Text.zeroPadded s (Text.digits m)

theorem padded_isDigit (m s : ℕ) : ∀ c ∈ padded m s, c.isDigit = true := by
  unfold padded
  split
  · exact isDigit_replicate_zero
  · exact (isDigits_zeros_append (isDigits_digits m) _).2

theorem le_length_padded (m s : ℕ) : s ≤ (padded m s).length := by
  unfold padded Text.zeroPadded
  split
  · rw [List.length_replicate]
  · rw [List.length_append, List.length_replicate]
    omega

theorem natOfDigits_zeros (n : ℕ) : natOfDigits (List.replicate n '0') = 0 := by
  induction n with
  | zero => rfl
  | succ n ih =>
    rw [List.replicate_succ, natOfDigits_cons, ih]
    simp [Text.digitValue]

theorem natOfDigits_padded (m s : ℕ) : natOfDigits (padded m s) = m := by
  unfold padded Text.zeroPadded
  split
  · next zero => rw [natOfDigits_zeros, zero]
  · rw [natOfDigits_append, natOfDigits_zeros, natOfDigits_digits, Nat.mul_zero, Nat.zero_add]

/-- The digits in front of the point, at least a zero. -/
def wholeText (m s : ℕ) : List Char :=
  let whole := (padded m s).take ((padded m s).length - s)
  if whole.isEmpty then ['0'] else whole

def fractionText (m s : ℕ) : List Char := (padded m s).drop ((padded m s).length - s)

theorem length_fractionText (m s : ℕ) : (fractionText m s).length = s := by
  have enough := le_length_padded m s
  unfold fractionText
  rw [List.length_drop]
  omega

theorem placed_eq (m s : ℕ) :
    placed m s s = wholeText m s ++ if s = 0 then [] else '.' :: fractionText m s := by
  have length := length_fractionText m s
  have full : (fractionText m s).take s ++ List.replicate (s - (fractionText m s).length) '0' =
      fractionText m s := by
    rw [List.take_of_length_le length.le, length, Nat.sub_self]
    exact List.append_nil _
  show wholeText m s ++ (if s = 0 then [] else '.' :: ((fractionText m s).take s ++
    List.replicate (s - (fractionText m s).length) '0')) = _
  rw [full]

theorem isDigits_wholeText (m s : ℕ) : IsDigits (wholeText m s) := by
  unfold wholeText
  dsimp only
  split
  · exact isDigits_zero
  · next some =>
    exact ⟨by simpa using some, fun c hc => padded_isDigit m s c (List.mem_of_mem_take hc)⟩

theorem isDigit_fractionText (m s : ℕ) : ∀ c ∈ fractionText m s, c.isDigit = true :=
  fun c hc => padded_isDigit m s c (List.mem_of_mem_drop hc)

theorem natOfDigits_placed (m s : ℕ) : natOfDigits (wholeText m s ++ fractionText m s) = m := by
  have whole : natOfDigits (wholeText m s) =
      natOfDigits ((padded m s).take ((padded m s).length - s)) := by
    unfold wholeText
    dsimp only
    split
    · next none =>
      rw [List.isEmpty_iff.1 none]
      rfl
    · rfl
  rw [natOfDigits_append, whole, ← natOfDigits_append, fractionText, List.take_append_drop,
    natOfDigits_padded]

theorem fractionText_zero (m : ℕ) : fractionText m 0 = [] :=
  List.length_eq_zero_iff.1 (length_fractionText m 0)

theorem natOfDigits_wholeText (m : ℕ) : natOfDigits (wholeText m 0) = m := by
  have both := natOfDigits_placed m 0
  rwa [fractionText_zero, List.append_nil] at both

theorem length_wholeText_le {m : ℕ} (hm : m < mantissaBound) (s : ℕ) :
    (wholeText m s).length ≤ 30 := by
  have few : (Text.digits m).length ≤ 29 :=
    (digitCount_le_iff (by decide)).2 (hm.trans_le mantissaBound_le)
  have padded : (padded m s).length - s ≤ (Text.digits m).length := by
    unfold Decimal.padded Text.zeroPadded
    split
    · rw [List.length_replicate]
      omega
    · rw [List.length_append, List.length_replicate]
      omega
  unfold wholeText
  dsimp only
  split
  · decide
  · rw [List.length_take]
    omega

theorem isPositional_placed (m s : ℕ) : IsPositional (placed m s s) := by
  rw [placed_eq]
  split
  · rw [List.append_nil]
    exact .whole (isDigits_wholeText m s)
  · next places =>
    refine .fraction (isDigits_wholeText m s) ⟨?_, isDigit_fractionText m s⟩
    rw [← List.length_pos_iff, length_fractionText]
    omega

theorem magnitudeValue_placed (m s : ℕ) : magnitudeValue (placed m s s) = m / 10 ^ s := by
  have whole := (isDigits_wholeText m s).2
  rw [magnitudeValue_plain ((isPositional_placed m s).not_mem rfl nofun), placed_eq]
  split
  · next none =>
    subst none
    rw [List.append_nil, plainValue_digits whole, natOfDigits_wholeText, pow_zero, div_one]
  · rw [plainValue_fraction whole, natOfDigits_add_fractionValue, natOfDigits_placed,
      length_fractionText]

/-- The sign in front of the digits. -/
def signText (d : Decimal) : List Char := if d.negative then ['-'] else []

theorem isSign_signText (d : Decimal) : IsSign d.signText := by
  unfold signText
  split
  · exact .inr rfl
  · exact .inl rfl

theorem text_toList (d : Decimal) :
    d.text.toList = d.signText ++ placed d.mantissa d.scale d.scale :=
  String.toList_ofList

theorem isNumeral_text (d : Decimal) : IsNumeral d.text.toList :=
  isNumeral_iff.2 ⟨_, _, d.text_toList, d.isSign_signText, isPositional_placed _ _⟩

theorem textValue_text (d : Decimal) : textValue d.text.toList = d.value := by
  rw [text_toList, textValue_signed d.isSign_signText (isPositional_placed _ _).head,
    magnitudeValue_placed, value_eq]
  unfold signText
  cases d.negative <;> rfl

/-- The text of a decimal is read back as an equal decimal. -/
theorem Bounded.parse?_text {d : Decimal} (h : d.Bounded) :
    ∃ e, parse? d.text = some e ∧ e.value = d.value := by
  have held := isHeld_value h.mantissa h.scale
  have read := parse?_readsAs d.isNumeral_text
  rw [String.ofList_toList, textValue_text] at read
  obtain ⟨e, he, hvalue⟩ := read.1 (fits_of_isHeld held)
  exact ⟨e, he, hvalue.trans (rounded_of_isHeld held)⟩

/-! ## Whole numbers -/

theorem parse?_intText {z : ℤ} (fits : z.natAbs < mantissaBound) :
    parse? (Text.intText z) = some (ofParts (decide (z < 0)) z.natAbs 0) := by
  have sign := isSign_ite (decide (z < 0))
  have digits := isDigits_digits z.natAbs
  have chars := chars_of_signed sign (.whole digits)
  have read := readDigits_whole digits false 0 []
  rw [List.append_nil, ← natOfDigits_eq, natOfDigits_digits, if_pos fits] at read
  rw [intText_eq, parse?_ofList (fun c hc => isBlank_of_char (chars c hc)) (by simp [digits.1]),
    readPlain?_signed sign digits.head, read]
  cases decide (z < 0) <;> rfl

end Stencil.Decimal
