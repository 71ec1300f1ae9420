import Stencil.Text.Digits
import Stencil.Text.Split

/-!
# Network addresses

The two kinds of addresses that can stand for a host: four bytes, of which the last number written
may fill all that are left, and eight units of 16 bits, of which one run of zeros may be left out.
-/

namespace Stencil.Url

open Text (hexValue? nat? natOfDigits natText splitAt)

/-! ## Four bytes -/

/-- A number of an address in four bytes. -/
inductive AddressNumber where
  | value (n : Nat)
  | tooLarge
deriving DecidableEq, Repr

/-- A number in decimal, in hexadecimal after `0x`, or in octal after a zero. -/
def addressNumber? (cs : List Char) : Option AddressNumber :=
  match cs with
  | [] => none
  | '0' :: 'x' :: ds | '0' :: 'X' :: ds => inBase 16 ds
  | '0' :: d :: ds => inBase 8 (d :: ds)
  | _ => inBase 10 cs
where
  inBase (base : Nat) (ds : List Char) : Option AddressNumber :=
    match ds.mapM fun d => (hexValue? d).filter (· < base) with
    | none => none
    | some ns =>
      let n := ns.foldl (fun n d => base * n + d) 0
      if n < twoTo 32 then some (.value n) else some .tooLarge

/-- Whether the last part of a name, an empty one apart, is a number. Such a name has to be an
address. -/
def endsInNumber (cs : List Char) : Bool :=
  let last? := match (splitAt '.' cs).reverse with
    | [] :: last :: _ => some last
    | [] :: [] => none
    | last :: _ => some last
    | [] => none
  match last? with
  | none => false
  | some last => (!last.isEmpty && last.all Char.isDigit) || (addressNumber? last).isSome

/-- The address that a name writes. -/
def address4? (cs : List Char) : Option Nat :=
  let parts := match (splitAt '.' cs).reverse with
    | [] :: rest => rest
    | rest => rest
  let numbers := parts.mapM fun part =>
    match addressNumber? part with
    | some (.value n) => some n
    | _ => none
  match numbers with
  | some (last :: front) =>
    let bytes := front.reverse
    if bytes.length ≤ 3 ∧ last < twoTo (8 * (4 - bytes.length)) ∧ bytes.all (· < 256) then
      some (bytes.foldl (fun n b => 256 * n + b) 0 * twoTo (8 * (4 - bytes.length)) + last)
    else none
  | _ => none

def address4Text (n : Nat) : String :=
  ".".intercalate ([n / twoTo 24, n / twoTo 16 % 256, n / twoTo 8 % 256, n % 256].map natText)

/-! ## Eight units -/

/-- A unit in one to four hexadecimal digits. -/
def unit? (cs : List Char) : Option Nat :=
  if cs.isEmpty ∨ 4 < cs.length then none
  else (cs.mapM hexValue?).map (·.foldl (fun n d => 16 * n + d) 0)

/-- A byte in decimal without leading zeros. -/
def byte? (cs : List Char) : Option Nat :=
  match cs with
  | '0' :: _ :: _ => none
  | _ => (nat? cs).filter (· < 256)

/-- Two units in the form of an address in four bytes. -/
def unitPair? (cs : List Char) : Option (List Nat) :=
  match (splitAt '.' cs).mapM byte? with
  | some [a, b, c, d] => some [256 * a + b, 256 * c + d]
  | _ => none

/-- The units between colons. The last part may write two. -/
def units? (lastMayPair : Bool) : List (List Char) → Option (List Nat)
  | [] => some []
  | [part] =>
    match unit? part with
    | some n => some [n]
    | none => if lastMayPair then unitPair? part else none
  | part :: parts =>
    match unit? part, units? lastMayPair parts with
    | some n, some ns => some (n :: ns)
    | _, _ => none

/-- What is before and after the first pair of colons. -/
def splitPair : List Char → Option (List Char × List Char)
  | [] => none
  | ':' :: ':' :: cs => some ([], cs)
  | c :: cs => (splitPair cs).map fun (front, back) => (c :: front, back)

/-- One side of a pair of colons, which may be empty. -/
def side? (lastMayPair : Bool) (cs : List Char) : Option (List Nat) :=
  if cs.isEmpty then some [] else units? lastMayPair (splitAt ':' cs)

/-- The eight units of an address. A pair of colons stands for at least one zero. -/
def address6? (cs : List Char) : Option (List Nat) :=
  match splitPair cs with
  | some (front, back) =>
    match side? false front, side? true back with
    | some ns, some ms =>
      if ns.length + ms.length ≤ 7 then
        some (ns ++ List.replicate (8 - ns.length - ms.length) 0 ++ ms)
      else none
    | _, _ => none
  | none => (side? true cs).filter fun ns => ns.length == 8

/-- How many zeros a list starts with. -/
def leadingZeros (ns : List Nat) : Nat := (ns.takeWhile (· == 0)).length

/-- The start and the length of the longest run of zeros, the first of several. -/
def longestZeros : Nat → List Nat → Nat × Nat
  | _, [] => (0, 0)
  | start, n :: ns =>
    let here := leadingZeros (n :: ns)
    let (later, length) := longestZeros (start + 1) ns
    if length ≤ here then (start, here) else (later, length)

def unitTexts (ns : List Nat) : String :=
  ":".intercalate (ns.map fun n => String.ofList (Nat.toDigits 16 n))

/-- The units with the longest run of at least two zeros left out. -/
def address6Text (ns : List Nat) : String :=
  let (start, length) := longestZeros 0 ns
  if length < 2 then unitTexts ns
  else unitTexts (ns.take start) ++ "::" ++ unitTexts (ns.drop (start + length))

end Stencil.Url
