import Stencil.Json.Parser
import Stencil.Proofs.Number.Printing

/-!
# Numbers in JSON texts

A number is read in the same way whatever follows it, if only it does not go on. A whole number of
64 bits is read back from its digits.
-/

namespace Stencil.Json

open Stencil.Path (Stops stops_cons mem_takeWhile takeWhile_run)
open Text (natOfDigits dropWhile_append_stops)

/-! ## Numbers in front of other text -/

/-- The characters with which a number goes on. -/
def goesOnNumber (c : Char) : Bool := c.isDigit || c == '.' || c == 'e' || c == 'E'

/-- A number ends in front of the text. -/
def EndsNumber (rest : List Char) : Prop := Stops goesOnNumber rest

section

variable {rest : List Char}

theorem EndsNumber.digit (h : EndsNumber rest) : Stops Char.isDigit rest :=
  h.mono fun c hc => by simp [goesOnNumber, hc]

theorem EndsNumber.ne {c d : Char} {cs : List Char} (h : EndsNumber (c :: cs))
    (hd : goesOnNumber d = true) : c ≠ d := by
  rintro rfl
  cases (h c rfl).symm.trans hd

theorem takeWhile_append_stops {p : Char → Bool} (h : Stops p rest) (cs : List Char) :
    (cs ++ rest).takeWhile p = cs.takeWhile p := by
  induction cs with
  | nil => exact h.takeWhile
  | cons c cs ih =>
    rw [List.cons_append, List.takeWhile_cons, List.takeWhile_cons, ih]

theorem significand_append (h : Stops Char.isDigit rest) (n taken : ℕ) (cs : List Char) :
    significand n taken (cs ++ rest) =
      ((significand n taken cs).1, (significand n taken cs).2.1,
        (significand n taken cs).2.2 ++ rest) := by
  induction cs generalizing n taken with
  | nil =>
    cases rest with
    | nil => rfl
    | cons c rest =>
      have stop : c.isDigit = false := h c rfl
      simp [significand, stop]
  | cons c cs ih =>
    rw [List.cons_append, significand, significand]
    split
    · dsimp only
      split
      · exact ih _ _
      · rfl
    · rfl

/-- What is read from a text is read from a longer one as well. -/
def IsLocal (read : List Char → Option (JsonNumber × List Char)) : Prop :=
  ∀ cs n left rest, EndsNumber rest → read cs = some (n, left) →
    read (cs ++ rest) = some (n, left ++ rest)

/-- Whether an exponent is negative, and what stands behind its sign. -/
def exponentSign (cs : List Char) : Bool × List Char :=
  match cs with
  | '+' :: ds => (false, ds)
  | '-' :: ds => (true, ds)
  | _ => (false, cs)

/-- The number with the digits of its exponent. -/
def exponentDigits? (negative : Bool) (n : ℕ) (e : ℤ) (down : Bool) (ds : List Char) :
    Option (JsonNumber × List Char) := do
  let run := ds.takeWhile Char.isDigit
  let rest := ds.dropWhile Char.isDigit
  if run.isEmpty then none
  else
    let k := natOfDigits run
    if maxExponent < k then
      if n ≠ 0 ∧ !down then none
      else return (.float (Binary64.zero negative), rest)
    else
      let x ← floatOfParts negative n (if down then e - k else e + k)
      return (.float x, rest)

theorem exponentPart?_eq (negative : Bool) (n : ℕ) (e : ℤ) (cs : List Char) :
    exponentPart? negative n e cs =
      exponentDigits? negative n e (exponentSign cs).1 (exponentSign cs).2 := by
  unfold exponentPart?
  split
  next down ds heq =>
    have sign : exponentSign cs = (down, ds) := heq
    rw [sign]
    rfl

theorem exponentSign_append {cs : List Char} (hne : cs ≠ []) :
    exponentSign (cs ++ rest) = ((exponentSign cs).1, (exponentSign cs).2 ++ rest) := by
  obtain ⟨c, cs, rfl⟩ := List.exists_cons_of_ne_nil hne
  rw [List.cons_append]
  unfold exponentSign
  split <;> split <;> simp_all

theorem exponentDigits?_isLocal (negative : Bool) (n : ℕ) (e : ℤ) (down : Bool) :
    IsLocal (exponentDigits? negative n e down) := by
  intro ds m left rest hrest h
  unfold exponentDigits? at h ⊢
  rw [takeWhile_append_stops hrest.digit, dropWhile_append_stops hrest.digit]
  dsimp only at h ⊢
  split at h
  · cases h
  · next hne =>
    rw [if_neg hne]
    split at h
    · next far =>
      rw [if_pos far]
      split at h
      · cases h
      · next hzero =>
        rw [if_neg hzero]
        cases h
        rfl
    · next near =>
      rw [if_neg near]
      obtain ⟨x, hx, hpair⟩ := Option.bind_eq_some_iff.1 h
      cases hpair
      rw [hx]
      rfl

theorem exponentPart?_isLocal (negative : Bool) (n : ℕ) (e : ℤ) :
    IsLocal (exponentPart? negative n e) := by
  intro cs m left rest hrest h
  have hne : cs ≠ [] := by
    rintro rfl
    cases h
  rw [exponentPart?_eq] at h ⊢
  rw [exponentSign_append hne]
  exact exponentDigits?_isLocal negative n e _ _ m left rest hrest h

theorem floatTail?_of_ends (negative : Bool) (n : ℕ) (e : ℤ) {cs : List Char} (h : EndsNumber cs) :
    floatTail? negative n e cs =
      (floatOfParts negative n e).map fun x => (JsonNumber.float x, cs) := by
  unfold floatTail?
  split
  · exact absurd rfl (h.ne rfl)
  · exact absurd rfl (h.ne rfl)
  · rfl

theorem floatTail?_isLocal (negative : Bool) (n : ℕ) (e : ℤ) :
    IsLocal (floatTail? negative n e) := by
  intro cs m left rest hrest h
  cases cs with
  | nil =>
    have ends : EndsNumber [] := by
      rintro c ⟨⟩
    rw [floatTail?_of_ends negative n e ends] at h
    obtain ⟨x, hx, hpair⟩ := Option.map_eq_some_iff.1 h
    cases hpair
    rw [List.nil_append, floatTail?_of_ends negative n e hrest, hx]
    rfl
  | cons c cs =>
    rw [List.cons_append]
    unfold floatTail? at h ⊢
    split at h
    · next heq =>
      cases heq
      exact exponentPart?_isLocal negative n e cs m left rest hrest h
    · next heq =>
      cases heq
      exact exponentPart?_isLocal negative n e cs m left rest hrest h
    · next small capital =>
      obtain ⟨x, hx, hpair⟩ := Option.map_eq_some_iff.1 h
      cases hpair
      rw [hx]
      split
      · next heq => cases heq; exact absurd rfl (small cs)
      · next heq => cases heq; exact absurd rfl (capital cs)
      · rfl

theorem fractionPart?_isLocal (negative : Bool) (n : ℕ) (e : ℤ) :
    IsLocal (fractionPart? negative n e) := by
  intro cs m left rest hrest h
  unfold fractionPart? at h ⊢
  rw [significand_append hrest.digit]
  generalize significand n 0 cs = read at h ⊢
  obtain ⟨n', taken, unread⟩ := read
  dsimp only at h ⊢
  cases unread with
  | nil =>
    dsimp only at h
    split at h
    · cases h
    · next oneDigit =>
      have shorter := floatTail?_isLocal negative n' (e - taken) [] m left rest hrest h
      rw [List.nil_append] at shorter ⊢
      cases rest with
      | nil => rwa [if_neg oneDigit]
      | cons c rest =>
        dsimp only
        have stop : c.isDigit = false := hrest.digit c rfl
        rwa [stop, if_neg nofun, if_neg oneDigit]
  | cons c unread =>
    rw [List.cons_append]
    dsimp only at h ⊢
    split at h
    · next digit =>
      rw [if_pos digit, ← List.cons_append, dropWhile_append_stops hrest.digit]
      exact floatTail?_isLocal negative n' (e - taken) _ m left rest hrest h
    · next stop =>
      rw [if_neg stop]
      split at h
      · cases h
      · next oneDigit =>
        rw [if_neg oneDigit, ← List.cons_append]
        exact floatTail?_isLocal negative n' (e - taken) _ m left rest hrest h

/-- A number of digits alone, of which those from the first that does not fit are apart. -/
def wholeNumber? (negative : Bool) (n : ℕ) (extra : List Char) : Option JsonNumber :=
  if !extra.isEmpty then (floatOfParts negative n extra.length).map JsonNumber.float
  else if !negative then some (.int n)
  else if n = 0 ∨ twoTo 63 < n then
    (Binary64.ofNat? n).map fun x => .float { x with negative := true }
  else some (.int (-(n : ℤ)))

/-- The number with what follows its first digits. -/
def afterDigits? (negative : Bool) (n : ℕ) (extra cs : List Char) :
    Option (JsonNumber × List Char) :=
  match cs with
  | '.' :: more => fractionPart? negative n extra.length more
  | 'e' :: more => exponentPart? negative n extra.length more
  | 'E' :: more => exponentPart? negative n extra.length more
  | _ =>
    if !extra.isEmpty then
      (floatOfParts negative n extra.length).map fun x => (.float x, cs)
    else if !negative then some (.int n, cs)
    else if n = 0 ∨ twoTo 63 < n then
      (Binary64.ofNat? n).map fun x => (.float { x with negative := true }, cs)
    else some (.int (-(n : ℤ)), cs)

theorem unsignedNumber?_cons (negative : Bool) (c : Char) (cs : List Char) :
    unsignedNumber? negative (c :: cs) =
      if !c.isDigit then none
      else if c = '0' ∧ (cs.head?.map Char.isDigit).getD false then none
      else
        let (n, _, unread) := significand 0 0 (c :: cs)
        afterDigits? negative n (unread.takeWhile Char.isDigit)
          (unread.dropWhile Char.isDigit) := rfl

theorem afterDigits?_whole (negative : Bool) (n : ℕ) (extra : List Char) {cs : List Char}
    (h : ∀ c, cs.head? = some c → c ≠ '.' ∧ c ≠ 'e' ∧ c ≠ 'E') :
    afterDigits? negative n extra cs = (wholeNumber? negative n extra).map fun x => (x, cs) := by
  unfold afterDigits? wholeNumber?
  split
  · exact absurd rfl (h '.' rfl).1
  · exact absurd rfl (h 'e' rfl).2.1
  · exact absurd rfl (h 'E' rfl).2.2
  · split
    · rw [Option.map_map]
      rfl
    · split
      · rfl
      · split
        · rw [Option.map_map]
          rfl
        · rfl

theorem afterDigits?_isLocal (negative : Bool) (n : ℕ) (extra : List Char) :
    IsLocal (afterDigits? negative n extra) := by
  intro cs m left rest hrest h
  by_cases whole : ∀ c, cs.head? = some c → c ≠ '.' ∧ c ≠ 'e' ∧ c ≠ 'E'
  · have longer : ∀ c, (cs ++ rest).head? = some c → c ≠ '.' ∧ c ≠ 'e' ∧ c ≠ 'E' := by
      cases cs with
      | nil =>
        rintro c hc
        obtain ⟨more, rfl⟩ := List.head?_eq_some_iff.1 hc
        exact ⟨hrest.ne rfl, hrest.ne rfl, hrest.ne rfl⟩
      | cons d cs => exact whole
    rw [afterDigits?_whole negative n extra whole] at h
    obtain ⟨x, hx, hpair⟩ := Option.map_eq_some_iff.1 h
    cases hpair
    rw [afterDigits?_whole negative n extra longer, hx]
    rfl
  · push Not at whole
    obtain ⟨c, hc, part⟩ := whole
    obtain ⟨more, rfl⟩ := List.head?_eq_some_iff.1 hc
    by_cases point : c = '.'
    · subst point
      exact fractionPart?_isLocal negative n extra.length more m left rest hrest h
    · by_cases small : c = 'e'
      · subst small
        exact exponentPart?_isLocal negative n extra.length more m left rest hrest h
      · obtain rfl := part point small
        exact exponentPart?_isLocal negative n extra.length more m left rest hrest h

theorem unsignedNumber?_isLocal (negative : Bool) : IsLocal (unsignedNumber? negative) := by
  intro cs m left rest hrest h
  cases cs with
  | nil => cases h
  | cons c cs =>
    rw [unsignedNumber?_cons] at h
    rw [List.cons_append, unsignedNumber?_cons, ← List.cons_append, significand_append hrest.digit]
    have head : ((cs ++ rest).head?.map Char.isDigit).getD false =
        (cs.head?.map Char.isDigit).getD false := by
      cases cs with
      | cons d cs => rfl
      | nil =>
        cases rest with
        | nil => rfl
        | cons d rest => exact hrest.digit d rfl
    rw [head]
    dsimp only at h ⊢
    split at h
    · cases h
    · next digit =>
      rw [if_neg digit]
      split at h
      · cases h
      · next noZero =>
        rw [if_neg noZero, takeWhile_append_stops hrest.digit,
          dropWhile_append_stops hrest.digit]
        exact afterDigits?_isLocal negative _ _ _ m left rest hrest h

theorem number?_signed (negative : Bool) {c : Char} (digit : c.isDigit = true) (cs : List Char) :
    number? ((if negative then ['-'] else []) ++ c :: cs) = unsignedNumber? negative (c :: cs) := by
  cases negative with
  | true => rfl
  | false =>
    have text : (if false = true then ['-'] else []) ++ c :: cs = c :: cs := rfl
    rw [text]
    unfold number?
    split
    · next heq =>
      cases heq
      cases digit
    · rfl

theorem number?_isLocal : IsLocal number? := by
  intro cs m left rest hrest h
  cases cs with
  | nil => cases h
  | cons c cs =>
    by_cases minus : c = '-'
    · subst minus
      exact unsignedNumber?_isLocal true cs m left rest hrest h
    · have positive (ds : List Char) : number? (c :: ds) = unsignedNumber? false (c :: ds) := by
        unfold number?
        split
        · next heq => cases heq; exact absurd rfl minus
        · rfl
      rw [positive] at h
      rw [List.cons_append, positive]
      exact unsignedNumber?_isLocal false (c :: cs) m left rest hrest h

end

/-! ## Whole numbers -/

theorem significand_digits {ds : List Char} (hds : ∀ c ∈ ds, c.isDigit = true) (n taken : ℕ)
    (fits : Nat.ofDigitChars 10 ds n < twoTo 64) :
    significand n taken ds = (Nat.ofDigitChars 10 ds n, taken + ds.length, []) := by
  induction ds generalizing n taken with
  | nil => rfl
  | cons c ds ih =>
    rw [List.forall_mem_cons] at hds
    rw [ofDigitChars_cons] at fits ⊢
    have next : 10 * n + Text.digitValue c < twoTo 64 := (le_ofDigitChars ds _).trans_lt fits
    rw [significand, if_pos hds.1]
    dsimp only
    rw [if_pos next, ih hds.2 _ _ fits, List.length_cons, Nat.add_right_comm, Nat.add_assoc]

theorem digits_no_leading_zero {n : ℕ} {c : Char} {cs : List Char}
    (h : Text.digits n = c :: cs) : ¬(c = '0' ∧ (cs.head?.map Char.isDigit).getD false = true) := by
  rintro ⟨rfl, more⟩
  have count : Text.digitCount n = cs.length + 1 := by rw [Text.digitCount, h, List.length_cons]
  have value : natOfDigits cs = n := by
    have whole := natOfDigits_digits n
    rw [h, natOfDigits_cons] at whole
    simpa [Text.digitValue] using whole
  have digits := (isDigits_digits n).2
  rw [h, List.forall_mem_cons] at digits
  have small := natOfDigits_lt digits.2
  rw [value] at small
  obtain rfl | pos := Nat.eq_zero_or_pos n
  · cases h
    cases more
  · have large := pow_digitCount_le pos
    rw [count, Nat.add_sub_cancel] at large
    omega

theorem unsignedNumber?_digits {n : ℕ} (fits : n < twoTo 64) (negative : Bool) :
    unsignedNumber? negative (Text.digits n) =
      (wholeNumber? negative n []).map fun x => (x, []) := by
  obtain ⟨c, cs, hds⟩ := List.exists_cons_of_ne_nil (isDigits_digits n).1
  have digits := (isDigits_digits n).2
  have value : Nat.ofDigitChars 10 (c :: cs) 0 = n := by
    rw [← hds, ← natOfDigits_eq, natOfDigits_digits]
  have noZero := digits_no_leading_zero hds
  rw [hds] at digits ⊢
  have first : ¬(!c.isDigit) = true := by simp [digits c List.mem_cons_self]
  rw [unsignedNumber?_cons, if_neg first, if_neg noZero,
    significand_digits digits 0 0 (by rwa [value]), value]
  exact afterDigits?_whole negative n [] nofun

theorem wholeNumber?_unsigned (n : ℕ) : wholeNumber? false n [] = some (.int n) := rfl

theorem wholeNumber?_negative (n : ℕ) : wholeNumber? true n [] =
    if n = 0 ∨ twoTo 63 < n then
      (Binary64.ofNat? n).map fun x => .float { x with negative := true }
    else some (.int (-(n : ℤ))) := rfl

theorem wholeNumber?_natAbs {z : ℤ} (low : -(2 : ℤ) ^ 63 ≤ z) (high : z < 2 ^ 64) :
    z.natAbs < twoTo 64 ∧ wholeNumber? (decide (z < 0)) z.natAbs [] = some (.int z) := by
  have width : twoTo 64 = 2 ^ 64 ∧ twoTo 63 = 2 ^ 63 := ⟨rfl, rfl⟩
  refine ⟨by omega, ?_⟩
  by_cases below : z < 0
  · have exactly : ¬(z.natAbs = 0 ∨ twoTo 63 < z.natAbs) := by omega
    have value : -(z.natAbs : ℤ) = z := by omega
    rw [decide_eq_true below, wholeNumber?_negative, if_neg exactly, value]
  · have value : (z.natAbs : ℤ) = z := by omega
    rw [decide_eq_false below, wholeNumber?_unsigned, value]

theorem number?_intText {z : ℤ} (low : -(2 : ℤ) ^ 63 ≤ z) (high : z < 2 ^ 64) :
    number? (Text.intText z).toList = some (.int z, []) := by
  obtain ⟨fits, read⟩ := wholeNumber?_natAbs low high
  obtain ⟨c, cs, hds, digit⟩ := (isDigits_digits z.natAbs).head
  rw [intText_eq, String.toList_ofList, hds, number?_signed _ digit, ← hds,
    unsignedNumber?_digits fits, read]
  rfl

end Stencil.Json
