import Stencil.Text.Digits

/-!
# Binary floating point

Finite numbers of the 64-bit binary format, as a sign, a significand and an exponent of two.
Every operation rounds the exact result once, ties to the even significand. The shortest text is
the one with the fewest digits among the decimals that round back to the number.
-/

namespace Stencil

/-- The number `± significand · 2 ^ exponent`. A number that is not zero has either a significand
of 53 bits or the least exponent, `-1074`; zero has the exponent 0. -/
structure Binary64 where
  negative : Bool
  significand : Nat
  exponent : Int
deriving DecidableEq, Repr, Inhabited

namespace Binary64

def zero (negative : Bool) : Binary64 := ⟨negative, 0, 0⟩

def isZero (x : Binary64) : Bool := x.significand == 0

/-- Numeric equality: the two zeros are equal. -/
def equal (x y : Binary64) : Bool :=
  x == y || (x.isZero && y.isZero)

/-- The nearest integer to `num / den`, ties to the even one. -/
def divNearest (num den : Nat) : Nat :=
  let q := num / den
  let r := num % den
  if 2 * r < den then q
  else if 2 * r = den then (if q % 2 = 0 then q else q + 1)
  else q + 1

/-- The fraction `num / den · 2 ^ e` with the power of two on the side where it is whole. -/
def scaled (num den : Nat) (e : Int) : Nat × Nat :=
  if 0 ≤ e then (num * twoTo e.toNat, den) else (num, den * twoTo (-e).toNat)

/-- The nearest number to `± num / den · 2 ^ e`, and none where that is beyond the largest one. -/
def ofRatio (negative : Bool) (num den : Nat) (e : Int) : Option Binary64 :=
  if num = 0 then some (zero negative)
  else
    let top : Int := (Nat.log2 num : Int) - (Nat.log2 den : Int) + e
    let guess := top - 52
    let (n, d) := scaled num den (e - guess)
    let wanted := if n < twoTo 52 * d then guess - 1 else guess
    let exponent := if wanted < -1074 then -1074 else wanted
    let (n, d) := scaled num den (e - exponent)
    let m := divNearest n d
    let (m, exponent) := if m = twoTo 53 then (twoTo 52, exponent + 1) else (m, exponent)
    if m = 0 then some (zero negative)
    else if 971 < exponent then none
    else some ⟨negative, m, exponent⟩

def ofNat? (n : Nat) : Option Binary64 := ofRatio false n 1 0

def mul? (x y : Binary64) : Option Binary64 :=
  ofRatio (x.negative != y.negative) (x.significand * y.significand) 1 (x.exponent + y.exponent)

/-- The quotient. The divisor is not zero where this is used. -/
def div? (x y : Binary64) : Option Binary64 :=
  ofRatio (x.negative != y.negative) x.significand y.significand (x.exponent - y.exponent)

/-- The sum of two numbers that are not negative. -/
def addAbs? (x y : Binary64) : Option Binary64 :=
  let e := min x.exponent y.exponent
  let whole (z : Binary64) : Nat := z.significand * twoTo (z.exponent - e).toNat
  ofRatio false (whole x + whole y) 1 e

/-- The nearest whole number, ties away from zero. -/
def roundWhole? (x : Binary64) : Option Binary64 :=
  if 0 ≤ x.exponent then some x
  else
    let d := twoTo (-x.exponent).toNat
    ofRatio x.negative ((2 * x.significand + d) / (2 * d)) 1 0

/-- The nearest number to `± num · 10 ^ e`. -/
def ofDecimal? (negative : Bool) (num : Nat) (e : Int) : Option Binary64 :=
  if 0 ≤ e then ofRatio negative (num * tenTo e.toNat) 1 0
  else ofRatio negative num (tenTo (-e).toNat) 0

/-- The magnitude as a fraction. -/
def magnitude (x : Binary64) : Nat × Nat := scaled x.significand 1 x.exponent

/-- The exponent of the leading decimal digit of a fraction that is not zero. -/
def leadingExponent (num den : Nat) : Int :=
  if den ≤ num then (Text.digitCount (num / den) : Int) - 1
  else
    let k := Text.digitCount (den / num)
    if den ≤ num * tenTo (k - 1) then -((k : Int) - 1) else -(k : Int)

/-- The fraction `num / den` in units of `10 ^ e`. -/
def inUnits (num den : Nat) (e : Int) : Nat × Nat :=
  if 0 ≤ e then (num, den * tenTo e.toNat) else (num * tenTo (-e).toNat, den)

/-- Whether `c · 10 ^ e` rounds to the number: it lies between the middles of the gaps on either
side, which count only where the significand is even. -/
def readsBack (x : Binary64) (c : Nat) (e : Int) : Bool :=
  let m := x.significand
  let narrow := m = twoTo 52 ∧ -1074 < x.exponent
  let low := if narrow then 4 * m - 1 else 4 * m - 2
  let high := 4 * m + 2
  let (n, d) := if 0 ≤ e then (c * tenTo e.toNat, 1) else (c, tenTo (-e).toNat)
  let (a, b) := scaled 1 4 x.exponent
  if m % 2 = 0 then low * a * d ≤ n * b && n * b ≤ high * a * d
  else low * a * d < n * b && n * b < high * a * d

/-- The decimals of `count` digits next to the number on either side, if they read back: the
nearer one, of two equally near ones the even one. -/
def candidate (x : Binary64) (count : Nat) : Option (Nat × Int) :=
  let (num, den) := x.magnitude
  let e := leadingExponent num den + 1 - count
  let (n, d) := inUnits num den e
  let below := n / d
  let above := below + 1
  match x.readsBack below e, x.readsBack above e with
  | false, false => none
  | true, false => some (below, e)
  | false, true => some (above, e)
  | true, true => some (divNearest n d, e)

/-- The number without trailing zeros, and the exponent raised accordingly. -/
def dropZeros : Nat → Nat → Int → Nat × Int
  | 0, c, e => (c, e)
  | fuel + 1, c, e => if c % 10 = 0 then dropZeros fuel (c / 10) (e + 1) else (c, e)

/-- The shortest decimal `c · 10 ^ e` that reads back as the magnitude of the number. Seventeen
digits always suffice. -/
def shortest (x : Binary64) : Nat × Int :=
  match (List.range 17).findSome? (fun k => x.candidate (k + 1)) with
  | some (c, e) => dropZeros 20 c e
  | none => (0, 0)

/-- An exponent with its sign always written. -/
def exponentText (e : Int) : String :=
  (if e < 0 then "-" else "+") ++ Text.natText e.natAbs

/-- The shortest text: positional where the leading digit stands for `10 ^ -5` to `10 ^ 15`, with
`.0` behind a whole number, and otherwise in exponent form. -/
def text (x : Binary64) : String :=
  let sign := if x.negative then "-" else ""
  if x.isZero then sign ++ "0.0"
  else
    let (c, e) := x.shortest
    let ds := Text.digits c
    let lead : Int := e + ds.length - 1
    let body :=
      if lead < -5 ∨ 15 < lead then
        let fraction := ds.drop 1
        ds.take 1 ++ (if fraction.isEmpty then [] else '.' :: fraction) ++
          'e' :: (exponentText lead).toList
      else if 0 ≤ e then ds ++ List.replicate e.toNat '0' ++ ['.', '0']
      else if 0 ≤ lead then ds.take (lead.toNat + 1) ++ '.' :: ds.drop (lead.toNat + 1)
      else '0' :: '.' :: (List.replicate ((-lead).toNat - 1) '0' ++ ds)
    sign ++ String.ofList body

/-- The exact number rounded to `decimals + 1` significant digits, ties to even: the digits and the
exponent of the leading one. -/
def scientificDigits (x : Binary64) (decimals : Nat) : List Char × Int :=
  if x.isZero then (List.replicate (decimals + 1) '0', 0)
  else
    let (num, den) := x.magnitude
    let lead := leadingExponent num den
    let (n, d) := inUnits num den (lead - decimals)
    let q := divNearest n d
    if q = tenTo (decimals + 1) then (Text.digits (tenTo decimals), lead + 1)
    else (Text.digits q, lead)

end Binary64

end Stencil
