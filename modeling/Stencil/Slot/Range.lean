import Stencil.Slot.Token
import Stencil.Text.Blank

/-!
# Ranges of characters

A range is a bound, or two bounds with `..` between them, the end excluded. A bound counts from the
start, or behind `^` from the end, and may have any number of digits. Positions are computed in 64
bits, a bound beyond them coming to the nearest one within, and ranges are cut to the text.
-/

namespace Stencil.Slot

/-- The difference, or the integer of 64 bits nearest to it. -/
def saturatingSub (a b : Int64) : Int64 := .ofIntClamp (a.toInt - b.toInt)

/-- The position that a bound means in a text of `length` characters. -/
def bound? (length : Int64) (text : List Char) : Option Int64 :=
  match Text.strip Text.isBlank text with
  | '^' :: rest =>
    (Text.nat? (Text.strip Text.isBlank rest)).map fun n : Nat =>
      saturatingSub length (.ofIntClamp n)
  | '-' :: rest => (Text.nat? rest).map fun n : Nat => .ofIntClamp (-n)
  | digits => (Text.nat? digits).map fun n : Nat => .ofIntClamp n

/-- The texts on either side of the first `..`. -/
def splitRange : List Char → Option (List Char × List Char)
  | '.' :: '.' :: rest => some ([], rest)
  | c :: cs => (splitRange cs).map fun (a, b) => (c :: a, b)
  | [] => none

/-- A bound, or the default where its text is blank. The error is the text that is no bound. -/
def boundOr (length default : Int64) (text : List Char) : Except (List Char) Int64 :=
  let text := Text.strip Text.isBlank text
  if text.isEmpty then .ok default
  else
    match bound? length text with
    | some b => .ok b
    | none => .error text

/-- The characters from one position on and in front of another, both cut to the text. -/
def slice (cs : List Char) (first past : Int64) : List Char :=
  let length := Int64.ofNat cs.length
  let first := max 0 (min first length)
  let past := max 0 (min past length)
  if past ≤ first then [] else (cs.take past.toNatClampNeg).drop first.toNatClampNeg

/-- The characters in a range. The error is the text that is no bound. -/
def cut (cs range : List Char) : Except (List Char) (List Char) :=
  let range := Text.strip Text.isBlank range
  let length := Int64.ofNat cs.length
  if range.isEmpty ∨ range = ['.', '.'] then .ok cs
  else
    match splitRange range with
    | some (start, stop) => do
      let first ← boundOr length 0 start
      let past ← boundOr length length stop
      return slice cs first past
    | none =>
      match bound? length range with
      | some i => .ok (if 0 ≤ i ∧ i < length then (cs[i.toNatClampNeg]?).toList else [])
      | none => .error range

/-- The characters of a text in a range. A malformed range is an error at the given position. -/
def substring (value range : String) (position : Nat) : Except SlotError String :=
  match cut value.toList range.toList with
  | .ok part => .ok (String.ofList part)
  | .error text => .error (.malformed position (.invalidBound (String.ofList text)))

end Stencil.Slot
