import Mathlib.Data.List.Infix
import Stencil.Proofs.Slot.Formats

/-!
# Formats of integers

What the formats for whole numbers write can be read back: decimal digits behind a sign, or the bits
of the integer in hexadecimal or binary digits. Texts that are no integer of 64 bits stay as they
are.
-/

namespace Stencil

open Stencil.Path (IsDigits)
open Text (natOfDigits zeroPadded strip isBlank)

/-! ## Texts that are integers -/

namespace Decimal

variable {d : Decimal} {n : ℤ}

theorem value_of_whole (h : d.isWhole = true) :
    d.value = ((if d.negative then -1 else 1) * (d.mantissa / tenTo d.scale : ℕ) : ℤ) := by
  have whole : d.mantissa / tenTo d.scale * tenTo d.scale = d.mantissa :=
    Nat.div_mul_cancel (Nat.dvd_of_mod_eq_zero (beq_iff_eq.1 h))
  have ratio : (d.mantissa / 10 ^ d.scale : ℚ) = (d.mantissa / tenTo d.scale : ℕ) := by
    rw [div_eq_iff (by positivity), ← cast_tenTo, ← Nat.cast_mul, whole]
  rw [value_eq, ratio]
  generalize d.mantissa / tenTo d.scale = k
  cases d.negative <;> simp

theorem isWhole_of_value (h : d.value = n) : d.isWhole = true := by
  have magnitude : (n.natAbs : ℚ) = d.mantissa / 10 ^ d.scale := by
    rw [← abs_value, h, Nat.cast_natAbs, Int.cast_abs]
  rw [eq_div_iff (by positivity), ← cast_tenTo] at magnitude
  have product : n.natAbs * tenTo d.scale = d.mantissa := by exact_mod_cast magnitude
  rw [isWhole, beq_iff_eq, ← product, Nat.mul_mod_left]

theorem toInt64?_eq_some_iff (h : d.isWhole = true) :
    d.toInt64? = some n ↔ (-2 ^ 63 ≤ n ∧ n < 2 ^ 63) ∧ d.value = n := by
  have width : (twoTo 63 : ℤ) = 2 ^ 63 := rfl
  have sign : (if d.negative then -((d.mantissa : ℤ) / tenTo d.scale)
      else (d.mantissa : ℤ) / tenTo d.scale) =
      (if d.negative then -1 else 1) * (d.mantissa / tenTo d.scale : ℕ) := by
    cases d.negative <;> simp
  rw [value_of_whole h, Int.cast_inj, toInt64?, sign, width, Option.ite_none_right_eq_some,
    Option.some_inj]
  constructor
  · rintro ⟨range, rfl⟩
    exact ⟨range, rfl⟩
  · rintro ⟨range, rfl⟩
    exact ⟨range, rfl⟩

theorem readDigits_natOfDigits {ds : List Char} (hd : IsDigits ds)
    (fits : natOfDigits ds < mantissaBound) :
    readDigits false false 0 0 ds = some (natOfDigits ds, 0) := by
  have read := readDigits_whole hd false 0 []
  rw [List.append_nil, ← natOfDigits_eq, if_pos fits] at read
  exact read

theorem readPlain?_of_int {cs : List Char} (h : Text.int? cs = some n)
    (fits : n.natAbs < mantissaBound) : ∃ d, readPlain? cs = some d ∧ d.value = n := by
  have read (negative : Bool) {ds : List Char} (hd : IsDigits ds)
      (hn : n = (if negative then -1 else 1) * (natOfDigits ds : ℤ)) :
      ∃ d, (readDigits false false 0 0 ds).map (ofPair negative) = some d ∧ d.value = n := by
    have size : natOfDigits ds < mantissaBound := by
      cases negative <;> simp at hn <;> omega
    refine ⟨_, by rw [readDigits_natOfDigits hd size, Option.map_some], ?_⟩
    rw [ofPair, value_ofParts, hn]
    cases negative <;> simp
  unfold Text.int? at h
  split at h
  · obtain ⟨k, hk, rfl⟩ := Option.map_eq_some_iff.1 h
    obtain ⟨hd, rfl⟩ := Text.nat?_eq_some_iff.1 hk
    exact read false hd (by simp)
  · obtain ⟨k, hk, rfl⟩ := Option.map_eq_some_iff.1 h
    obtain ⟨hd, rfl⟩ := Text.nat?_eq_some_iff.1 hk
    exact read true hd (by simp)
  · next plus minus =>
    obtain ⟨k, hk, rfl⟩ := Option.map_eq_some_iff.1 h
    obtain ⟨hd, rfl⟩ := Text.nat?_eq_some_iff.1 hk
    unfold readPlain?
    split
    · exact absurd rfl (minus _)
    · exact absurd rfl (plus _)
    · exact read false hd (by simp)

end Decimal

namespace Slot

/-- The text is an integer of 64 bits, as it stands or read as a decimal. -/
def ReadsInteger (text : String) (n : ℤ) : Prop :=
  (-2 ^ 63 ≤ n ∧ n < 2 ^ 63) ∧
    (Text.signed? 64 (strip isBlank text.toList) = some n ∨
      ∃ d, Decimal.parse? text = some d ∧ d.value = n)

section

variable {text : String} {cs : List Char} {n z : ℤ}

theorem signed?_eq_some_iff :
    Text.signed? 64 cs = some z ↔ Text.int? cs = some z ∧ -2 ^ 63 ≤ z ∧ z < 2 ^ 63 := by
  have width : (twoTo (64 - 1) : ℤ) = 2 ^ 63 := rfl
  unfold Text.signed?
  rw [width, Option.bind_eq_some_iff]
  constructor
  · rintro ⟨i, hi, h⟩
    obtain ⟨range, ⟨⟩⟩ := Option.ite_none_right_eq_some.1 h
    exact ⟨hi, range⟩
  · rintro ⟨hz, range⟩
    exact ⟨z, hz, if_pos range⟩

theorem parse?_strip (text : String) :
    Decimal.parse? (String.ofList (strip isBlank text.toList)) = Decimal.parse? text := by
  unfold Decimal.parse?
  rw [String.toList_ofList, Text.strip_strip]

theorem parse?_of_signed (h : Text.signed? 64 (strip isBlank text.toList) = some z) :
    ∃ d, Decimal.parse? text = some d ∧ d.value = z := by
  obtain ⟨hint, range⟩ := signed?_eq_some_iff.1 h
  have size : z.natAbs < Decimal.mantissaBound := by
    have : Decimal.mantissaBound = 2 ^ 96 := rfl
    omega
  obtain ⟨d, hd, hvalue⟩ := Decimal.readPlain?_of_int hint size
  refine ⟨d, ?_, hvalue⟩
  unfold Decimal.parse?
  dsimp only
  rw [hd, if_neg]
  intro hempty
  rw [List.isEmpty_iff.1 hempty] at hint
  cases hint

theorem int64?_eq_some_iff : int64? text = some n ↔ ReadsInteger text n := by
  unfold int64? ReadsInteger
  dsimp only
  rw [parse?_strip]
  cases hs : Text.signed? 64 (strip isBlank text.toList) with
  | some z =>
    have range := (signed?_eq_some_iff.1 hs).2
    obtain ⟨d, hd, hvalue⟩ := parse?_of_signed hs
    constructor
    · rintro ⟨⟩
      exact ⟨range, .inl rfl⟩
    · rintro ⟨-, he | ⟨e, he, hn⟩⟩
      · exact he
      · cases hd.symm.trans he
        rw [hvalue, Int.cast_inj] at hn
        rw [hn]
  | none =>
    dsimp only
    rw [Option.bind_eq_some_iff]
    constructor
    · rintro ⟨d, hd, h⟩
      obtain ⟨whole, h⟩ := Option.ite_none_right_eq_some.1 h
      obtain ⟨range, hvalue⟩ := (Decimal.toInt64?_eq_some_iff whole).1 h
      exact ⟨range, .inr ⟨d, hd, hvalue⟩⟩
    · rintro ⟨range, h | ⟨d, hd, hvalue⟩⟩
      · cases h
      · have whole := Decimal.isWhole_of_value hvalue
        refine ⟨d, hd, ?_⟩
        rw [if_pos whole, Decimal.toInt64?_eq_some_iff whole]
        exact ⟨range, hvalue⟩

end

/-! ## Digits in a base -/

/-- The digits of bases up to sixteen. -/
def digitAlphabet (capital : Bool) : List Char :=
  if capital then "0123456789ABCDEF".toList else "0123456789abcdef".toList

/-- The number that digits write. -/
def valueIn (base : ℕ) (capital : Bool) (zs : List Char) : ℕ :=
  zs.foldl (fun n c => base * n + (digitAlphabet capital).idxOf c) 0

/-- Digits of a number, at least so many. Zeros stand in front only to make up their count. -/
structure WritesIn (base : ℕ) (capital : Bool) (width value : ℕ) (zs : List Char) : Prop where
  digits : ∀ c ∈ zs, c ∈ (digitAlphabet capital).take base
  value : valueIn base capital zs = value
  enough : width ≤ zs.length
  minimal : zs.head? = some '0' → zs.length ≤ max width 1

/-- A digit as it is written. -/
def digitOf (capital : Bool) (d : ℕ) : Char :=
  if capital then d.digitChar.toUpper else d.digitChar

section

variable {base d n width : ℕ} {capital : Bool} {zs : List Char}

theorem digitOf_spec : ∀ capital, ∀ d < 16, digitOf capital d ∈ digitAlphabet capital ∧
    (digitAlphabet capital).idxOf (digitOf capital d) = d := by
  decide

theorem digitOf_mem (hd : d < base) (hbase : base ≤ 16) :
    digitOf capital d ∈ (digitAlphabet capital).take base := by
  obtain ⟨hmem, hidx⟩ := digitOf_spec capital d (hd.trans_le hbase)
  rw [List.mem_take_iff_idxOf_lt hmem, hidx]
  exact hd

theorem digitOf_eq_zero (hd : d < 16) (h : digitOf capital d = '0') : d = 0 := by
  have zero : (digitAlphabet capital).idxOf '0' = 0 := by cases capital <;> decide
  rw [← (digitOf_spec capital d hd).2, h, zero]

theorem valueIn_append_singleton (base : ℕ) (capital : Bool) (zs : List Char) (c : Char) :
    valueIn base capital (zs ++ [c]) =
      base * valueIn base capital zs + (digitAlphabet capital).idxOf c := by
  rw [valueIn, List.foldl_append]
  rfl

theorem valueIn_zeros_append (base : ℕ) (capital : Bool) (k : ℕ) (zs : List Char) :
    valueIn base capital (List.replicate k '0' ++ zs) = valueIn base capital zs := by
  have zero : (digitAlphabet capital).idxOf '0' = 0 := by cases capital <;> decide
  induction k with
  | zero => rfl
  | succ k ih =>
    rw [List.replicate_succ, List.cons_append, ← ih, valueIn, List.foldl_cons, zero]
    rfl

/-- The digits of a number, in the case that is asked for. -/
def digitsIn (base : ℕ) (capital : Bool) (n : ℕ) : List Char :=
  let zs := Nat.toDigits base n
  if capital then zs.map Char.toUpper else zs

theorem digitsIn_eq (hbase : 1 < base) (capital : Bool) (n : ℕ) :
    digitsIn base capital n =
      if n < base then [digitOf capital n]
      else digitsIn base capital (n / base) ++ [digitOf capital (n % base)] := by
  unfold digitsIn digitOf
  dsimp only
  rw [Nat.toDigits_eq_if hbase]
  by_cases small : n < base
  · rw [if_pos small, if_pos small]
    cases capital <;> rfl
  · rw [if_neg small, if_neg small]
    cases capital <;> simp

theorem digitsIn_spec (hbase : 1 < base) (h16 : base ≤ 16) (capital : Bool) (n : ℕ) :
    (∀ c ∈ digitsIn base capital n, c ∈ (digitAlphabet capital).take base) ∧
      valueIn base capital (digitsIn base capital n) = n ∧
      ((digitsIn base capital n).head? = some '0' → n = 0) := by
  induction n using Nat.strongRecOn with
  | ind n ih =>
    rw [digitsIn_eq hbase]
    split
    · next small =>
      have below := small.trans_le h16
      refine ⟨?_, ?_, ?_⟩
      · intro c hc
        rw [List.mem_singleton.1 hc]
        exact digitOf_mem small h16
      · have one := valueIn_append_singleton base capital [] (digitOf capital n)
        rw [List.nil_append, (digitOf_spec capital n below).2] at one
        exact one.trans (Nat.zero_add n)
      · intro hhead
        exact digitOf_eq_zero below (Option.some.inj hhead)
    · next large =>
      have last : n % base < base := Nat.mod_lt _ (by omega)
      have fewer : n / base < n := Nat.div_lt_self (by omega) hbase
      obtain ⟨hdigits, hvalue, hzero⟩ := ih (n / base) fewer
      refine ⟨?_, ?_, ?_⟩
      · intro c hc
        rcases List.mem_append.1 hc with hc | hc
        · exact hdigits c hc
        · rw [List.mem_singleton.1 hc]
          exact digitOf_mem last h16
      · rw [valueIn_append_singleton, hvalue, (digitOf_spec capital _ (last.trans_le h16)).2]
        exact Nat.div_add_mod n base
      · intro hhead
        have some : digitsIn base capital (n / base) ≠ [] := by
          unfold digitsIn
          cases capital <;> simp [Nat.toDigits_ne_nil]
        rw [List.head?_append_of_ne_nil _ some] at hhead
        have quotient := Nat.div_pos (not_lt.1 large) (by omega : 0 < base)
        exact absurd (hzero hhead) quotient.ne'

theorem length_digitsIn_zero (base : ℕ) (capital : Bool) :
    (digitsIn base capital 0).length = 1 := by
  unfold digitsIn
  rw [Nat.toDigits_zero]
  cases capital <;> rfl

theorem writesIn_zeroPadded (hbase : 1 < base) (h16 : base ≤ 16) (capital : Bool) (width n : ℕ) :
    WritesIn base capital width n (zeroPadded width (digitsIn base capital n)) := by
  obtain ⟨hdigits, hvalue, hzero⟩ := digitsIn_spec hbase h16 capital n
  have zero : digitOf capital 0 = '0' := by cases capital <;> rfl
  have length : (zeroPadded width (digitsIn base capital n)).length =
      max width (digitsIn base capital n).length := by
    unfold zeroPadded
    rw [List.length_append, List.length_replicate]
    omega
  refine ⟨?_, ?_, ?_, ?_⟩
  · intro c hc
    rcases List.mem_append.1 hc with hc | hc
    · rw [(List.mem_replicate.1 hc).2, ← zero]
      exact digitOf_mem (by omega) h16
    · exact hdigits c hc
  · exact (valueIn_zeros_append base capital _ _).trans hvalue
  · rw [length]
    exact le_max_left _ _
  · -- where no zero was put in front, the first digit is the number's own
    intro hhead
    rw [length]
    rcases le_or_gt (digitsIn base capital n).length width with enough | more
    · omega
    · have none : width - (digitsIn base capital n).length = 0 := by omega
      rw [zeroPadded, none, List.replicate_zero, List.nil_append] at hhead
      rw [hzero hhead, length_digitsIn_zero]

end

/-! ## What the formats write -/

/-- The formats of integers. -/
def FormatKind.isIntegral : FormatKind → Bool
  | decimal | hex _ | binary => true
  | _ => false

/-- Decimal digits behind the sign of the integer, which read back as it. -/
def WritesDecimal (width : ℕ) (n : ℤ) (out : List Char) : Prop :=
  ∃ zs, out = (if n < 0 then ['-'] else []) ++ zs ∧ WritesIn 10 false width n.natAbs zs ∧
    Text.signed? 64 out = some n

/-- Digits of a number of 64 bits, which is the integer in two's complement. -/
def WritesBits (base : ℕ) (capital : Bool) (width : ℕ) (n : ℤ) (out : List Char) : Prop :=
  ∃ v < 2 ^ 64, WritesIn base capital width v out ∧ (Int64.ofNat v).toInt = n

/-- What a format of integers writes for one. -/
def FormatKind.Writes (width : ℕ) (n : ℤ) (out : List Char) : FormatKind → Prop
  | decimal => WritesDecimal width n out
  | hex capital => WritesBits 16 capital width n out
  | binary => WritesBits 2 false width n out
  | _ => False

section

variable {base width : ℕ} {n : ℤ} {text : String}

theorem writesBits (hbase : 1 < base) (h16 : base ≤ 16) (capital : Bool) (width : ℕ)
    (range : -2 ^ 63 ≤ n ∧ n < 2 ^ 63) :
    WritesBits base capital width n (bitDigits base width capital n).toList := by
  have modulus : (twoTo 64 : ℤ) = 2 ^ 64 := rfl
  have bits : (bits64 n : ℤ) = n % 2 ^ 64 := by
    unfold bits64
    rw [modulus]
    omega
  refine ⟨bits64 n, by omega, ?_, ?_⟩
  · rw [bitDigits, String.toList_ofList]
    exact writesIn_zeroPadded hbase h16 capital width (bits64 n)
  · rw [Int64.toInt_ofNat', bits, show Int64.size = 2 ^ 64 from rfl]
    have wrapped : (n % (2 ^ 64 : ℕ)).bmod (2 ^ 64) = n.bmod (2 ^ 64) := Int.emod_bmod n _
    exact wrapped.trans (Int.bmod_eq_of_le (by omega) (by omega))

theorem int?_signed {zs : List Char} (hd : IsDigits zs) (negative : Bool) :
    Text.int? ((if negative then ['-'] else []) ++ zs) =
      some ((if negative then -1 else 1) * (natOfDigits zs : ℤ)) := by
  have read := Text.nat?_of_isDigits hd
  obtain ⟨c, tail, rfl, digit⟩ := hd.head
  cases negative with
  | true =>
    show (Text.nat? (c :: tail)).map _ = _
    rw [read]
    simp
  | false =>
    have unsigned : Text.int? (c :: tail) = (Text.nat? (c :: tail)).map Int.ofNat := by
      unfold Text.int?
      split
      · next h =>
        cases h
        cases digit
      · next h =>
        cases h
        cases digit
      · rfl
    show Text.int? (c :: tail) = _
    rw [unsigned, read]
    simp

theorem writesDecimal (width : ℕ) (range : -2 ^ 63 ≤ n ∧ n < 2 ^ 63) :
    WritesDecimal width n ((if n < 0 then "-" else "") ++
      String.ofList (zeroPadded width (Text.digits n.natAbs))).toList := by
  have digits : IsDigits (zeroPadded width (Text.digits n.natAbs)) :=
    isDigits_zeros_append (isDigits_digits _) _
  have value : natOfDigits (zeroPadded width (Text.digits n.natAbs)) = n.natAbs := by
    rw [zeroPadded, natOfDigits_append, Decimal.natOfDigits_zeros, natOfDigits_digits,
      Nat.mul_zero, Nat.zero_add]
  have out : ((if n < 0 then "-" else "") ++
      String.ofList (zeroPadded width (Text.digits n.natAbs))).toList =
      (if decide (n < 0) then ['-'] else []) ++ zeroPadded width (Text.digits n.natAbs) := by
    rw [String.toList_append, String.toList_ofList]
    by_cases negative : n < 0 <;> simp [negative]
  rw [out]
  refine ⟨zeroPadded width (Text.digits n.natAbs), by simp only [decide_eq_true_eq], ?_, ?_⟩
  · exact writesIn_zeroPadded (by omega) (by omega) false width n.natAbs
  · rw [signed?_eq_some_iff, int?_signed digits, value]
    refine ⟨congrArg some ?_, range⟩
    by_cases negative : n < 0
    · simp only [negative, decide_true, if_true]
      omega
    · simp only [negative, decide_false, Bool.false_eq_true, if_false]
      omega

/-- The text that a format of integers gives one. -/
def integerText (width : ℕ) (n : ℤ) : FormatKind → String
  | .decimal =>
    (if n < 0 then "-" else "") ++ String.ofList (zeroPadded width (Text.digits n.natAbs))
  | .hex capital => bitDigits 16 width capital n
  | .binary => bitDigits 2 width false n
  | _ => ""

theorem written?_integral {f : NumericFormat} (h : f.kind.isIntegral = true) (text : String) :
    f.written? text =
      (int64? text).map fun n => integerText (f.precision.getD 0) n f.kind := by
  obtain ⟨kind, precision⟩ := f
  cases kind with
  | fixed | number | currency | percent | exponent | general | roundTrip => cases h
  | decimal | hex | binary => rfl

theorem writes_integerText {kind : FormatKind} (h : kind.isIntegral = true) (width : ℕ)
    (range : -2 ^ 63 ≤ n ∧ n < 2 ^ 63) :
    kind.Writes width n (integerText width n kind).toList := by
  cases kind with
  | fixed | number | currency | percent | exponent | general | roundTrip => cases h
  | decimal => exact writesDecimal width range
  | hex capital => exact writesBits (by omega) (by omega) capital width range
  | binary => exact writesBits (by omega) (by omega) false width range

end

/-- Formats of integers write every integer of 64 bits so that it can be read back, and leave every
other text as it is. -/
theorem apply_integral {r : Registry} {letter : Char} {ds : List Char} {kind : FormatKind}
    (hds : IsPrecision ds) (hletter : FormatKind.ofLetter? letter = some kind)
    (hkind : kind.isIntegral = true) (hr : r.get? (specOf letter ds) = none) (text : String) :
    (∀ n, ReadsInteger text n →
      kind.Writes ((precisionOf ds).getD 0) n (r.apply (specOf letter ds) text).toList) ∧
    ((∀ n, ¬ReadsInteger text n) → r.apply (specOf letter ds) text = text) := by
  have written := written?_integral (f := ⟨kind, precisionOf ds⟩) hkind text
  rw [apply_numeric hr (parse?_specOf hds hletter), written]
  constructor
  · intro n hn
    rw [int64?_eq_some_iff.2 hn]
    exact writes_integerText hkind _ hn.1
  · intro hn
    have unread : int64? text = none :=
      Option.eq_none_iff_forall_ne_some.2 fun n h => hn n (int64?_eq_some_iff.1 h)
    rw [unread]
    rfl

-- A number with an exponent and blanks around it, and a fraction.
theorem apply_integral_scientific :
    ReadsInteger "\t-4.2E1\n" (-42) ∧
    Registry.builtin.apply (specOf 'X' ['4']) "\t-4.2E1\n" = "FFFFFFFFFFFFFFD6" ∧
    WritesBits 16 true 4 (-42) "FFFFFFFFFFFFFFD6".toList ∧
    Registry.builtin.apply (specOf 'X' ['4']) "-4.25E1" = "-4.25E1" := by
  have precision : IsPrecision ['4'] := by decide
  have read : int64? "\t-4.2E1\n" = some (-42) := by decide +kernel
  have fraction : int64? "-4.25E1" = none := by decide +kernel
  have integer : ReadsInteger "\t-4.2E1\n" (-42) := int64?_eq_some_iff.1 read
  have applied : Registry.builtin.apply (specOf 'X' ['4']) "\t-4.2E1\n" = "FFFFFFFFFFFFFFD6" := by
    decide +kernel
  have named : Registry.builtin.get? (specOf 'X' ['4']) = none :=
    builtin_get?_numeric (parse?_specOf precision rfl)
  have writes := (apply_integral precision rfl rfl named "\t-4.2E1\n").1 _ integer
  rw [applied] at writes
  refine ⟨integer, applied, writes, (apply_integral precision rfl rfl named "-4.25E1").2 ?_⟩
  intro n hn
  cases fraction.symm.trans (int64?_eq_some_iff.2 hn)

end Slot

end Stencil
