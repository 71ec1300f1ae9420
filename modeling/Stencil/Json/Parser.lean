import Stencil.Json.Basic

/-!
# Reading JSON texts

A document is one value with blanks around it. Whole numbers of 64 bits stay exact. Every other
number is read as at most twenty significant digits times a power of ten, in binary floating point
arithmetic; one beyond the largest finite number is refused. Values nest at most 127 deep. A name
that an object repeats keeps its first place and takes its last value.
-/

namespace Stencil.Json

/-- The blanks of the format. -/
def isSpace (c : Char) : Bool :=
  c == ' ' || c == '\t' || c == '\n' || c == '\r'

def skipSpace (cs : List Char) : List Char := cs.dropWhile isSpace

/-- How deep arrays and objects may nest. -/
def maxDepth : Nat := 127

/-! ## Strings -/

/-- Four hexadecimal digits. -/
def hexUnit? : List Char → Option (Nat × List Char)
  | a :: b :: c :: d :: rest => do
    let a ← Text.hexValue? a
    let b ← Text.hexValue? b
    let c ← Text.hexValue? c
    let d ← Text.hexValue? d
    return (((a * 16 + b) * 16 + c) * 16 + d, rest)
  | _ => none

/-- The character of a `\u` escape whose digits follow. A leading surrogate needs a trailing one
right after it. -/
def unicodeEscape? (cs : List Char) : Option (Char × List Char) := do
  let (unit, rest) ← hexUnit? cs
  if 0xD800 ≤ unit ∧ unit < 0xDC00 then
    match rest with
    | '\\' :: 'u' :: more =>
      let (low, rest) ← hexUnit? more
      if 0xDC00 ≤ low ∧ low < 0xE000 then
        return (Char.ofNat (0x10000 + (unit - 0xD800) * 0x400 + (low - 0xDC00)), rest)
      else none
    | _ => none
  else if 0xDC00 ≤ unit ∧ unit < 0xE000 then none
  else return (Char.ofNat unit, rest)

/-- The characters up to the closing quote, newest first in `acc`. The fuel bounds the number of
characters read. -/
def stringBody? : Nat → List Char → List Char → Option (String × List Char)
  | 0, _, _ => none
  | _, _, [] => none
  | fuel + 1, acc, c :: cs =>
    if c = '"' then some (String.ofList acc.reverse, cs)
    else if c = '\\' then
      match cs with
      | [] => none
      | e :: rest =>
        match e with
        | '"' => stringBody? fuel ('"' :: acc) rest
        | '\\' => stringBody? fuel ('\\' :: acc) rest
        | '/' => stringBody? fuel ('/' :: acc) rest
        | 'b' => stringBody? fuel ('\x08' :: acc) rest
        | 'f' => stringBody? fuel ('\x0c' :: acc) rest
        | 'n' => stringBody? fuel ('\n' :: acc) rest
        | 'r' => stringBody? fuel ('\r' :: acc) rest
        | 't' => stringBody? fuel ('\t' :: acc) rest
        | 'u' =>
          match unicodeEscape? rest with
          | some (u, rest) => stringBody? fuel (u :: acc) rest
          | none => none
        | _ => none
    else if c.toNat < 32 then none
    else stringBody? fuel (c :: acc) cs

/-! ## Numbers -/

/-- The significand keeps the digits that fit 64 bits: the number read, how many digits of `cs` it
took, and what is left from the first digit that does not fit. -/
def significand : Nat → Nat → List Char → Nat × Nat × List Char
  | n, taken, [] => (n, taken, [])
  | n, taken, c :: cs =>
    if c.isDigit then
      let next := 10 * n + Text.digitValue c
      if next < twoTo 64 then significand next (taken + 1) cs else (n, taken, c :: cs)
    else (n, taken, c :: cs)

/-- `10 ^ k` as a floating point number, for a `k` up to 308. -/
def powerOfTen (k : Nat) : Binary64 :=
  (Binary64.ofNat? (tenTo k)).getD (Binary64.zero false)

/-- Divide by `10 ^ 308` until the exponent is in reach, then by the power that is left. -/
def divideByPower : Nat → Binary64 → Nat → Option Binary64
  | 0, f, _ => some f
  | fuel + 1, f, k =>
    if k ≤ 308 then f.div? (powerOfTen k)
    else if f.isZero then some f
    else (f.div? (powerOfTen 308)).bind fun f => divideByPower fuel f (k - 308)

/-- The floating point number for a significand and a power of ten: the significand is rounded, and
so is the product or quotient. -/
def floatOfParts (negative : Bool) (n : Nat) (e : Int) : Option Binary64 := do
  let f ← Binary64.ofNat? n
  let f ←
    if 0 ≤ e then
      if e ≤ 308 then f.mul? (powerOfTen e.toNat)
      else if f.isZero then some f
      else none
    else divideByPower ((-e).toNat / 308 + 1) f (-e).toNat
  return { f with negative := negative }

/-- The largest exponent that is written out; beyond it only zero and underflow are left. -/
def maxExponent : Nat := twoTo 31 - 1

/-- The exponent part after `e`, and the number. -/
def exponentPart? (negative : Bool) (n : Nat) (e : Int) (cs : List Char) :
    Option (JsonNumber × List Char) := do
  let (down, ds) := match cs with
    | '+' :: rest => (false, rest)
    | '-' :: rest => (true, rest)
    | _ => (false, cs)
  let run := ds.takeWhile Char.isDigit
  let rest := ds.dropWhile Char.isDigit
  if run.isEmpty then none
  else
    let k := Text.natOfDigits run
    if maxExponent < k then
      if n ≠ 0 ∧ !down then none
      else return (.float (Binary64.zero negative), rest)
    else
      let x ← floatOfParts negative n (if down then e - k else e + k)
      return (.float x, rest)

/-- What follows the digits of a floating point number: an exponent or nothing. -/
def floatTail? (negative : Bool) (n : Nat) (e : Int) : List Char → Option (JsonNumber × List Char)
  | 'e' :: cs => exponentPart? negative n e cs
  | 'E' :: cs => exponentPart? negative n e cs
  | cs => (floatOfParts negative n e).map fun x => (.float x, cs)

/-- The fraction after the point, at least one digit of it. Digits beyond 64 bits are dropped. -/
def fractionPart? (negative : Bool) (n : Nat) (e : Int) (cs : List Char) :
    Option (JsonNumber × List Char) :=
  let (n', taken, rest) := significand n 0 cs
  match rest with
  | c :: _ =>
    if c.isDigit then floatTail? negative n' (e - taken) (rest.dropWhile Char.isDigit)
    else if taken = 0 then none
    else floatTail? negative n' (e - taken) rest
  | [] => if taken = 0 then none else floatTail? negative n' (e - taken) []

/-- A number without its sign. -/
def unsignedNumber? (negative : Bool) (cs : List Char) : Option (JsonNumber × List Char) :=
  match cs with
  | [] => none
  | c :: rest =>
    if !c.isDigit then none
    else if c = '0' ∧ (rest.head?.map Char.isDigit).getD false then none
    else
      let (n, _, rest) := significand 0 0 cs
      let extra := rest.takeWhile Char.isDigit
      let rest := rest.dropWhile Char.isDigit
      match rest with
      | '.' :: more => fractionPart? negative n extra.length more
      | 'e' :: more => exponentPart? negative n extra.length more
      | 'E' :: more => exponentPart? negative n extra.length more
      | _ =>
        if !extra.isEmpty then
          (floatOfParts negative n extra.length).map fun x => (.float x, rest)
        else if !negative then some (.int n, rest)
        else if n = 0 ∨ twoTo 63 < n then
          (Binary64.ofNat? n).map fun x => (.float { x with negative := true }, rest)
        else some (.int (-(n : Int)), rest)

def number? : List Char → Option (JsonNumber × List Char)
  | '-' :: cs => unsignedNumber? true cs
  | cs => unsignedNumber? false cs

/-! ## Values -/

/-- What is left after a keyword. -/
def keyword? (word : String) (cs : List Char) : Option (List Char) :=
  if word.toList.isPrefixOf cs then some (cs.drop word.length) else none

mutual

/-- A value, after blanks. The fuel bounds the number of calls and the depth the nesting. -/
def value? : Nat → Nat → List Char → Option (Json × List Char)
  | 0, _, _ => none
  | fuel + 1, depth, cs =>
    match skipSpace cs with
    | [] => none
    | c :: rest =>
      match c with
      | 'n' => (keyword? "ull" rest).map fun r => (.null, r)
      | 't' => (keyword? "rue" rest).map fun r => (.bool true, r)
      | 'f' => (keyword? "alse" rest).map fun r => (.bool false, r)
      | '"' => (stringBody? (rest.length + 1) [] rest).map fun (s, r) => (.str s, r)
      | '[' =>
        match depth with
        | 0 => none
        | depth + 1 =>
          match skipSpace rest with
          | ']' :: r => some (.arr [], r)
          | r => (items? fuel depth r).map fun (xs, r) => (.arr xs, r)
      | '\x7b' =>
        match depth with
        | 0 => none
        | depth + 1 =>
          match skipSpace rest with
          | '\x7d' :: r => some (.obj [], r)
          | r => (members? fuel depth r).map fun (ms, r) => (.obj ms, r)
      | _ => (number? (c :: rest)).map fun (n, r) => (.num n, r)

/-- The items of an array that is not empty, up to its end. -/
def items? : Nat → Nat → List Char → Option (List Json × List Char)
  | 0, _, _ => none
  | fuel + 1, depth, cs =>
    match value? fuel depth cs with
    | none => none
    | some (x, rest) =>
      match skipSpace rest with
      | ',' :: r => (items? fuel depth r).map fun (xs, r) => (x :: xs, r)
      | ']' :: r => some ([x], r)
      | _ => none

/-- The members of an object that is not empty, up to its end, repeated names included. -/
def members? : Nat → Nat → List Char → Option (Members × List Char)
  | 0, _, _ => none
  | fuel + 1, depth, cs =>
    match skipSpace cs with
    | '"' :: r =>
      match stringBody? (r.length + 1) [] r with
      | none => none
      | some (name, r) =>
        match skipSpace r with
        | ':' :: r =>
          match value? fuel depth r with
          | none => none
          | some (v, r) =>
            match skipSpace r with
            | ',' :: r => (members? fuel depth r).map fun (ms, r) => ((name, v) :: ms, r)
            | '\x7d' :: r => some ([(name, v)], r)
            | _ => none
        | _ => none
    | _ => none

end

/-- The value that a text writes, if it is one JSON document, with the members of its objects as
they are written. -/
def parseTree? (text : String) : Option Json :=
  let cs := text.toList
  match value? (cs.length + 1) maxDepth cs with
  | some (v, rest) => if (skipSpace rest).isEmpty then some v else none
  | none => none

mutual

/-- The value with every name once in its objects. -/
def merged : Json → Json
  | .arr xs => .arr (mergedItems xs)
  | .obj ms => .obj (mergedMembers [] ms)
  | v => v

def mergedItems : List Json → List Json
  | [] => []
  | x :: xs => merged x :: mergedItems xs

def mergedMembers (acc : Members) : Members → Members
  | [] => acc
  | (k, v) :: ms => mergedMembers (Entries.insert acc k (merged v)) ms

end

/-- The value that a text writes, if it is one JSON document. -/
def parse? (text : String) : Option Json := (parseTree? text).map merged

end Stencil.Json
