import Stencil.Number.Power

/-!
# Digits

Natural numbers written in digits, digits read back, and integers with an optional sign.
-/

namespace Stencil.Text

/-- The value of a decimal digit. -/
def digitValue (c : Char) : Nat :=
  c.toNat - '0'.toNat

/-- The number that a run of decimal digits writes. -/
def natOfDigits (cs : List Char) : Nat :=
  cs.foldl (fun n c => 10 * n + digitValue c) 0

/-- The value of a hexadecimal digit in either case. -/
def hexValue? (c : Char) : Option Nat :=
  if c.isDigit then some (digitValue c)
  else if 'a' ≤ c ∧ c ≤ 'f' then some (c.toNat - 'a'.toNat + 10)
  else if 'A' ≤ c ∧ c ≤ 'F' then some (c.toNat - 'A'.toNat + 10)
  else none

/-- The decimal digits of a number, with no leading zero except in `0` itself. -/
def digits (n : Nat) : List Char :=
  Nat.toDigits 10 n

/-- The decimal text of a number. -/
def natText (n : Nat) : String :=
  String.ofList (digits n)

/-- The decimal text of an integer, a minus sign in front of a negative one. -/
def intText (z : Int) : String :=
  if z < 0 then "-" ++ natText z.natAbs else natText z.natAbs

/-- How many decimal digits a number has. -/
def digitCount (n : Nat) : Nat :=
  (digits n).length

/-- The characters with zeros in front, up to the given width. -/
def zeroPadded (width : Nat) (cs : List Char) : List Char :=
  List.replicate (width - cs.length) '0' ++ cs

/-- A number in digits only, at least one. -/
def nat? (cs : List Char) : Option Nat :=
  if cs.isEmpty then none
  else if cs.all Char.isDigit then some (natOfDigits cs)
  else none

/-- An integer in digits with at most one sign in front. -/
def int? : List Char → Option Int
  | '+' :: cs => (nat? cs).map Int.ofNat
  | '-' :: cs => (nat? cs).map fun n => - Int.ofNat n
  | cs => (nat? cs).map Int.ofNat

/-- A natural number of at most `bits` bits, an optional plus sign in front. -/
def unsigned? (bits : Nat) (cs : List Char) : Option Nat :=
  let body := match cs with
    | '+' :: rest => rest
    | _ => cs
  (nat? body).bind fun n => if n < twoTo bits then some n else none

/-- An integer in the two's complement range of `bits` bits. -/
def signed? (bits : Nat) (cs : List Char) : Option Int :=
  (int? cs).bind fun z =>
    if -(twoTo (bits - 1) : Int) ≤ z ∧ z < twoTo (bits - 1) then some z else none

end Stencil.Text
