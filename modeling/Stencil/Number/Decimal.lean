import Stencil.Number.Binary64
import Stencil.Text.Blank

/-!
# Decimal numbers

Fixed point decimals of at most 96 bits with up to 28 places. The number of places is kept, so that
`1.50` stays `1.50`; comparisons go by the value alone.
-/

namespace Stencil

/-- The number `± mantissa / 10 ^ scale`. -/
structure Decimal where
  negative : Bool
  mantissa : Nat
  scale : Nat
deriving DecidableEq, Repr, Inhabited

namespace Decimal

/-- Every mantissa is below this. -/
def mantissaBound : Nat := twoTo 96

/-- The largest number of places. -/
def maxScale : Nat := 28

/-- A decimal in which zero carries no sign. -/
def ofParts (negative : Bool) (mantissa scale : Nat) : Decimal :=
  ⟨negative && mantissa != 0, mantissa, scale⟩

def ofNat (n : Nat) : Decimal := ofParts false n 0

def isZero (d : Decimal) : Bool := d.mantissa == 0

def abs (d : Decimal) : Decimal := { d with negative := false }

/-- The mantissa with the sign of the number. -/
def signed (d : Decimal) : Int := if d.negative then -(d.mantissa : Int) else d.mantissa

/-- The order of the values: both are brought to the sum of the scales. -/
def compare (a b : Decimal) : Ordering :=
  Ord.compare (a.signed * tenTo b.scale) (b.signed * tenTo a.scale)

/-- Equality of the values. -/
def equal (a b : Decimal) : Bool := a.compare b == .eq

/-! ## Text -/

/-- The characters of a mantissa with `scale` of its digits after the point, cut or filled with
zeros to `places`. -/
def placed (mantissa scale places : Nat) : List Char :=
  let ds := Text.digits mantissa
  let ds := if mantissa = 0 then List.replicate scale '0' else Text.zeroPadded scale ds
  let whole := ds.take (ds.length - scale)
  let fraction := ds.drop (ds.length - scale)
  let fraction := fraction.take places ++ List.replicate (places - fraction.length) '0'
  (if whole.isEmpty then ['0'] else whole) ++ (if places = 0 then [] else '.' :: fraction)

/-- The text with the given number of places, longer fractions cut. -/
def textTo (d : Decimal) (places : Nat) : String :=
  String.ofList ((if d.negative then ['-'] else []) ++ placed d.mantissa d.scale places)

/-- The text with all places of the number. -/
def text (d : Decimal) : String := d.textTo d.scale

/-! ## Rounding -/

/-- `n / d` rounded to the nearest whole number, ties up. -/
def divHalfUp (n d : Nat) : Nat := (2 * n + d) / (2 * d)

/-- The number rounded to at most the given number of places, ties away from zero. -/
def roundTo (d : Decimal) (places : Nat) : Decimal :=
  if d.scale ≤ places then d
  else ofParts d.negative (divHalfUp d.mantissa (tenTo (d.scale - places))) places

/-- Trailing zeros of the fraction taken off. -/
def dropPlaces : Nat → Nat → Nat × Nat
  | m, 0 => (m, 0)
  | m, s + 1 => if m % 10 = 0 then dropPlaces (m / 10) s else (m, s + 1)

/-- The same value with the fewest places. -/
def normalize (d : Decimal) : Decimal :=
  if d.mantissa = 0 then ofParts false 0 0
  else
    let (m, s) := dropPlaces d.mantissa d.scale
    ofParts d.negative m s

/-- The number rounded to the given number of significant digits, ties to even, if the result fits
the mantissa. -/
def roundSignificant? (d : Decimal) (count : Nat) : Option Decimal :=
  if d.mantissa = 0 ∨ count = 0 then some (ofParts false 0 0)
  else
    let present := Text.digitCount d.mantissa
    if present ≤ count then some d
    else
      let drop := present - count
      let m := Binary64.divNearest d.mantissa (tenTo drop)
      if drop ≤ d.scale then some (ofParts d.negative m (d.scale - drop))
      else
        let m := m * tenTo (drop - d.scale)
        if m < mantissaBound then some (ofParts d.negative m 0) else none

/-- A product brought below the mantissa's bound by giving up as few places as that takes, ties to
even. -/
def fit? (negative : Bool) (product : Nat) : Nat → Nat → Option Decimal
  | 0, dropped =>
    let m := Binary64.divNearest product (tenTo dropped)
    if m < mantissaBound then some (ofParts negative m 0) else none
  | scale + 1, dropped =>
    let m := Binary64.divNearest product (tenTo dropped)
    if m < mantissaBound then some (ofParts negative m (scale + 1))
    else fit? negative product scale (dropped + 1)

/-- A hundred times the number, if that fits. -/
def timesHundred? (d : Decimal) : Option Decimal :=
  fit? d.negative (d.mantissa * 100) d.scale 0

/-- Whether the number has no fraction. -/
def isWhole (d : Decimal) : Bool := d.mantissa % tenTo d.scale == 0

/-- The whole part as an integer of 64 bits. -/
def toInt64? (d : Decimal) : Option Int :=
  let n : Int := d.mantissa / tenTo d.scale
  let z := if d.negative then -n else n
  if -(twoTo 63 : Int) ≤ z ∧ z < twoTo 63 then some z else none

/-- A power by repeated squaring, each product rounded. -/
def floatPower : Nat → Binary64 → Binary64 → Nat → Option Binary64
  | 0, r, _, _ => some r
  | fuel + 1, r, a, n => do
    let r ← if n % 2 = 1 then r.mul? a else some r
    if n / 2 = 0 then return r
    else
      let a ← a.mul? a
      floatPower fuel r a (n / 2)

/-- The floating point number for a decimal. The whole part and the fraction are converted apart,
added, and the sum is rounded to the places of the decimal. -/
def toBinary64? (d : Decimal) : Option Binary64 := do
  if d.scale = 0 then Binary64.ofRatio d.negative d.mantissa 1 0
  else
    let unit := tenTo d.scale
    let fraction ← (← Binary64.ofNat? (d.mantissa % unit)).div? (← Binary64.ofNat? unit)
    let whole ← Binary64.ofNat? (d.mantissa / unit)
    if fraction.isZero then return { whole with negative := d.negative }
    else
      let power ← floatPower 6 (← Binary64.ofNat? 1) (← Binary64.ofNat? 10) d.scale
      let sum ← whole.addAbs? fraction
      let rounded ← (← (← sum.mul? power).roundWhole?).div? power
      return { rounded with negative := d.negative }

/-! ## Reading -/

/-- The last digit kept is raised when the digit after it is five or more; a mantissa that gets too
large gives up its last place. -/
def roundUp? (mantissa scale digit : Nat) : Option (Nat × Nat) :=
  if digit < 5 then some (mantissa, scale)
  else if mantissa + 1 < mantissaBound then some (mantissa + 1, scale)
  else if scale = 0 then none
  else some ((mantissa + 5) / 10, scale - 1)

/-- The digits of a number behind its sign: `point` says that the point was read and `started` that
a digit was. Digits past the 28th place, or past what the mantissa holds, only round; nothing after
the first such digit is looked at. -/
def readDigits (point started : Bool) (mantissa scale : Nat) : List Char → Option (Nat × Nat)
  | [] => if started then some (mantissa, scale) else none
  | c :: cs =>
    let full := point && scale = maxScale
    if c.isDigit then
      let digit := Text.digitValue c
      let next := 10 * mantissa + digit
      if full then roundUp? mantissa scale digit
      else if next < mantissaBound then
        readDigits point true next (if point then scale + 1 else 0) cs
      else if point then roundUp? mantissa scale digit
      else none
    else if c = '.' then
      if full then some (mantissa, scale)
      else if point then none
      else readDigits true started mantissa scale cs
    else if c = '_' ∧ started then
      if full then some (mantissa, scale) else readDigits point started mantissa scale cs
    else none

/-- A number in positional notation: a sign, digits with underscores between or behind them, and at
most one point. -/
def readPlain? (cs : List Char) : Option Decimal :=
  let read (negative : Bool) (cs : List Char) : Option Decimal :=
    (readDigits false false 0 0 cs).map fun (m, s) => ofParts negative m s
  match cs with
  | '-' :: rest => read true rest
  | '+' :: rest => read false rest
  | _ => read false cs

/-- The decimal shifted by a power of ten downwards. Places beyond the last one are rounded off. -/
def shiftDown? (d : Decimal) (k : Nat) : Option Decimal :=
  if maxScale < k then none
  else if d.scale + k ≤ maxScale then some ⟨d.negative, d.mantissa, d.scale + k⟩
  else
    let drop := d.scale + k - maxScale
    some (ofParts d.negative (divHalfUp d.mantissa (tenTo drop)) maxScale)

/-- The decimal shifted by a power of ten upwards. -/
def shiftUp? (d : Decimal) (k : Nat) : Option Decimal :=
  if k ≤ d.scale then some ⟨d.negative, d.mantissa, d.scale - k⟩
  else if maxScale < k then none
  else
    let m := d.mantissa * tenTo (k - d.scale)
    if m < mantissaBound then some (normalize (ofParts d.negative m 0)) else none

/-- A number with an exponent of ten behind its first `e`. -/
def readScientific? (cs : List Char) : Option Decimal :=
  let isMark (c : Char) : Bool := c == 'e' || c == 'E'
  let base := cs.takeWhile fun c => !isMark c
  match cs.dropWhile fun c => !isMark c with
  | [] => none
  | _ :: power => do
    let d ← readPlain? base
    match power with
    | '-' :: ds => (Text.unsigned? 32 ds).bind d.shiftDown?
    | ds => (Text.unsigned? 32 ds).bind d.shiftUp?

/-- The decimal that a text writes, blanks around it ignored. -/
def parse? (s : String) : Option Decimal :=
  let cs := Text.strip Text.isBlank s.toList
  if cs.isEmpty then none
  else
    match readPlain? cs with
    | some d => some d
    | none => readScientific? cs

end Decimal

end Stencil
