import Stencil.Dictionary
import Stencil.Number.Binary64

/-!
# JSON values

Numbers are integers of 64 bits, signed or unsigned, or binary floating point numbers. The members
of an object keep their order, and every name occurs once. Two objects are equal when they hold
equal values under the same names, in whatever order.
-/

namespace Stencil

/-- A number is whole in the file, and then kept exactly, or a binary floating point number. -/
inductive JsonNumber where
  | int (value : Int)
  | float (value : Binary64)
deriving DecidableEq, Repr, Inhabited

namespace JsonNumber

/-- Numbers of the two kinds are never equal, and the two zeros of the second kind are. -/
def equal : JsonNumber → JsonNumber → Bool
  | .int a, .int b => a == b
  | .float a, .float b => a.equal b
  | _, _ => false

def text : JsonNumber → String
  | .int z => Text.intText z
  | .float x => x.text

end JsonNumber

inductive Json where
  | null
  | bool (value : Bool)
  | num (value : JsonNumber)
  | str (value : String)
  | arr (items : List Json)
  | obj (members : List (String × Json))
deriving Repr, Inhabited

namespace Json

abbrev Members := Entries Json

/-- The member of an object. -/
def get? : Json → String → Option Json
  | .obj members, name => Entries.find? members name
  | _, _ => none

def int (z : Int) : Json := .num (.int z)

/-- The kind of a value, as it is named in messages. -/
def kindName : Json → String
  | .null => "null"
  | .bool _ => "boolean"
  | .num _ => "number"
  | .str _ => "string"
  | .arr _ => "array"
  | .obj _ => "object"

mutual

/-- Equality of values. The members of an object are compared by name. -/
def equal : Json → Json → Bool
  | .null, .null => true
  | .bool a, .bool b => a == b
  | .num a, .num b => a.equal b
  | .str a, .str b => a == b
  | .arr xs, .arr ys => equalItems xs ys
  | .obj ms, .obj ns => ms.length == ns.length && equalMembers ms ns
  | _, _ => false

def equalItems : List Json → List Json → Bool
  | [], [] => true
  | x :: xs, y :: ys => equal x y && equalItems xs ys
  | _, _ => false

/-- Every member on the left has an equal one of the same name on the right. -/
def equalMembers : Members → Members → Bool
  | [], _ => true
  | (k, v) :: ms, ns =>
    (match Entries.find? ns k with
      | some w => equal v w
      | none => false) && equalMembers ms ns

end

end Json

end Stencil
