import Stencil.Parameter.Value

/-!
# Named values

Values under exact names, in the order in which the names were first added. Adding a name again
replaces its value in place.
-/

namespace Stencil

structure Store where
  values : Dictionary Value

namespace Store

def empty : Store := ⟨.empty⟩

def add (s : Store) (name : String) (value : Value) : Store := ⟨s.values.insert name value⟩

def get? (s : Store) (name : String) : Option Value := s.values.find? name

def size (s : Store) : Nat := s.values.size

/-- A field of a JSON object as a value. A number beyond the reach of decimals stays JSON, and null
is no value. -/
def ofField : Json → Option Value
  | .null => none
  | .bool b => some (.bool b)
  | .str s => some (.string s)
  | .num n => some (match n.toDecimal? with
    | some d => .number d
    | none => .json (.num n))
  | v => some (.json v)

def addFields (s : Store) : Json.Members → Store
  | [] => s
  | (k, v) :: rest =>
    match ofField v with
    | some value => addFields (s.add k value) rest
    | none => addFields s rest

/-- Add the fields of a JSON object. -/
def extend? (s : Store) : Json → Option Store
  | .obj ms => some (s.addFields ms)
  | _ => none

/-- Why a JSON value that is not an object adds no names. -/
def refusal (v : Json) : String :=
  "key/value parameters need a JSON object, got " ++ v.kindName

/-- All values under their names. -/
def toJson (s : Store) : Json :=
  .obj (s.values.entries.map fun (k, v) => (k, v.toJson))

end Store

end Stencil
