import Stencil.Number.Decimal

/-!
# Numeric formats

A letter and at most two digits, such as `F2` or `X8`. Formats for fractions take any decimal and
round half away from zero, those for whole numbers take integers of 64 bits. A text that is no
number of the right kind has no formatted form.
-/

namespace Stencil.Slot

inductive FormatKind where
  /-- A fixed number of places. -/
  | fixed
  /-- The same with groups of three digits. -/
  | number
  /-- The same with the currency sign. -/
  | currency
  /-- A hundred times the number and a percent sign. -/
  | percent
  /-- One digit before the point and an exponent. -/
  | exponent (upper : Bool)
  /-- The fewest places, rounded to a number of significant digits. -/
  | general
  | decimal
  | hex (upper : Bool)
  | binary
  /-- The number as it is, without idle zeros. -/
  | roundTrip
deriving DecidableEq, Repr

structure NumericFormat where
  kind : FormatKind
  precision : Option Nat
deriving DecidableEq, Repr

namespace FormatKind

def ofLetter? : Char → Option FormatKind
  | 'C' | 'c' => some currency
  | 'E' => some (exponent true)
  | 'e' => some (exponent false)
  | 'F' | 'f' => some fixed
  | 'G' | 'g' => some general
  | 'N' | 'n' => some number
  | 'P' | 'p' => some percent
  | 'B' | 'b' => some binary
  | 'D' | 'd' => some decimal
  | 'X' => some (hex true)
  | 'x' => some (hex false)
  | 'R' | 'r' => some roundTrip
  | _ => none

end FormatKind

/-- The number with exactly the given number of places. -/
def fixed (d : Decimal) (places : Nat) : String := (d.roundTo places).textTo places

/-- The digits with a comma in front of every third one from the end, the first excepted. -/
def groupDigits : List Char → List Char
  | [] => []
  | c :: cs =>
    if cs.length % 3 = 0 ∧ cs ≠ [] then c :: ',' :: groupDigits cs else c :: groupDigits cs

/-- The number with the given number of places and groups of three digits before the point. -/
def grouped (d : Decimal) (places : Nat) : String :=
  let text := (fixed d places).toList
  let (sign, body) := match text with
    | '-' :: rest => (['-'], rest)
    | _ => ([], text)
  let whole := body.takeWhile (· != '.')
  String.ofList (sign ++ groupDigits whole ++ body.dropWhile (· != '.'))

/-- The sign that stands for any currency. -/
def currencySign : Char := '¤'

/-- The grouped number behind a currency sign, a minus sign in front of both. -/
def currency (d : Decimal) (places : Nat) : String :=
  let text := String.ofList [currencySign] ++ grouped d.abs places
  if d.negative && !d.isZero then "-" ++ text else text

/-- The nearest floating point number in scientific form, its exponent signed and of three
digits. -/
def scientific? (d : Decimal) (places : Nat) (upper : Bool) : Option String :=
  d.toBinary64?.map fun x =>
    let (ds, e) := x.scientificDigits places
    let sign := if x.negative then ['-'] else []
    let fraction := if places = 0 then [] else '.' :: ds.drop 1
    let exponent := (if e < 0 then '-' else '+') :: Text.zeroPadded 3 (Text.digits e.natAbs)
    String.ofList (sign ++ ds.take 1 ++ fraction ++ (if upper then 'E' else 'e') :: exponent)

/-- The integer of 64 bits that a text writes, also as a decimal without a fraction. -/
def int64? (text : String) : Option Int :=
  let cs := Text.strip Text.isBlank text.toList
  match Text.signed? 64 cs with
  | some z => some z
  | none =>
    (Decimal.parse? (String.ofList cs)).bind fun d => if d.isWhole then d.toInt64? else none

/-- The bits of an integer in two's complement. -/
def bits64 (z : Int) : Nat := (z % twoTo 64).toNat

/-- The digits of an integer's bits in a base, zeros in front up to the width. -/
def bitDigits (base width : Nat) (upper : Bool) (z : Int) : String :=
  let ds := Nat.toDigits base (bits64 z)
  String.ofList (Text.zeroPadded width (if upper then ds.map Char.toUpper else ds))

namespace NumericFormat

/-- The format that a spec names: a letter, and at most two digits for the precision. -/
def parse? (spec : String) : Option NumericFormat :=
  match spec.toList with
  | [] => none
  | letter :: ds =>
    match FormatKind.ofLetter? letter with
    | none => none
    | some kind =>
      if ds.isEmpty then some ⟨kind, none⟩
      else if ds.length ≤ 2 ∧ ds.all Char.isDigit then some ⟨kind, some (Text.natOfDigits ds)⟩
      else none

/-- The formatted form of a text that is a number of the right kind. -/
def written? (f : NumericFormat) (text : String) : Option String :=
  match f.kind with
  | .fixed => (Decimal.parse? text).map fun d => fixed d (f.precision.getD 2)
  | .number => (Decimal.parse? text).map fun d => grouped d (f.precision.getD 2)
  | .currency => (Decimal.parse? text).map fun d => currency d (f.precision.getD 2)
  | .percent =>
    ((Decimal.parse? text).bind Decimal.timesHundred?).map fun d =>
      grouped d (f.precision.getD 2) ++ " %"
  | .exponent upper =>
    (Decimal.parse? text).bind fun d => scientific? d (f.precision.getD 6) upper
  | .general =>
    (Decimal.parse? text).bind fun d =>
      let rounded := match f.precision with
        | some n => if 0 < n then d.roundSignificant? n else some d
        | none => some d
      rounded.map fun d => d.normalize.text
  | .decimal =>
    (int64? text).map fun z =>
      (if z < 0 then "-" else "") ++
        String.ofList (Text.zeroPadded (f.precision.getD 0) (Text.digits z.natAbs))
  | .hex upper => (int64? text).map (bitDigits 16 (f.precision.getD 0) upper)
  | .binary => (int64? text).map (bitDigits 2 (f.precision.getD 0) false)
  | .roundTrip =>
    match Text.signed? 128 (Text.strip Text.isBlank text.toList) with
    | some z => some (Text.intText z)
    | none => (Decimal.parse? text).map fun d => d.normalize.text

end NumericFormat

end Stencil.Slot
