import Stencil.Json.Basic

/-!
# Decoding JSON values

A decoder takes a JSON value to a value of some type, or refuses it. Whole numbers have to be
written whole and lie in the range of their type. A record comes from an object by the names of its
fields, or from an array by their order.
-/

namespace Stencil.Json

/-- Values of a type from JSON values. -/
abbrev Decoder (α : Type) := Json → Option α

namespace Decoder

/-- A whole number from `low` to `high`. -/
def intBetween (low high : Int) : Decoder Int
  | .num (.int z) => if low ≤ z ∧ z ≤ high then some z else none
  | _ => none

/-- A natural number of at most `bits` bits. -/
def unsigned (bits : Nat) : Decoder Int := intBetween 0 (twoTo bits - 1)

/-- An integer in the two's complement range of `bits` bits. -/
def signed (bits : Nat) : Decoder Int := intBetween (-(twoTo (bits - 1))) (twoTo (bits - 1) - 1)

/-- A floating point number; a whole number is rounded to one. -/
def float : Decoder Binary64
  | .num (.float x) => some x
  | .num (.int z) => (Binary64.ofNat? z.natAbs).map fun x => { x with negative := decide (z < 0) }
  | _ => none

def bool : Decoder Bool
  | .bool b => some b
  | _ => none

def string : Decoder String
  | .str s => some s
  | _ => none

/-- Every value as it is. -/
def json : Decoder Json := some

variable {α : Type}

/-- Nothing from null, or what the decoder makes of any other value. -/
def option (d : Decoder α) : Decoder (Option α)
  | .null => some none
  | v => (d v).map some

/-- The items of an array, all of one type. -/
def list (d : Decoder α) : Decoder (List α)
  | .arr xs => xs.mapM d
  | _ => none

/-- The members of an object, all of one type, in their order. -/
def table (d : Decoder α) : Decoder (List (String × α))
  | .obj ms => ms.mapM fun (k, v) => (d v).map fun a => (k, a)
  | _ => none

/-- The fields of a record, in the order of their names; an absent one is none. Other members of an
object are passed over, but no field may be there twice. An array may be shorter than the record. -/
def fields (names : List String) : Decoder (List (Option Json))
  | .obj ms =>
    if names.all fun name => (ms.filter fun m => m.1 == name).length ≤ 1 then
      some (names.map (Entries.find? ms))
    else none
  | .arr xs =>
    if xs.length ≤ names.length then
      some (xs.map some ++ List.replicate (names.length - xs.length) none)
    else none
  | _ => none

end Decoder

end Stencil.Json
