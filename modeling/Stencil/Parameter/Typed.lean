import Stencil.Error
import Stencil.Json.Decode
import Stencil.Parameter.Scope

/-!
# Typed reads

What a path finds in a document, and what a key stands for in a scope, as a value of a chosen type.
-/

namespace Stencil

variable {α : Type}

/-- The decoded value, or an error where it does not fit. -/
def decodeWith (decode : Json.Decoder α) (v : Json) : Except Error α :=
  match decode v with
  | some a => .ok a
  | none => .error .json

/-- What a path finds in a document, decoded. -/
def readValue (decode : Json.Decoder α) (doc : Json) (path : String) : Except Error (Option α) :=
  match Path.evaluate doc path with
  | .error e => .error (.path e)
  | .ok none => .ok none
  | .ok (some v) => (decodeWith decode v).map some

/-- What a key stands for in a scope, decoded. -/
def Scope.resolveAs (decode : Json.Decoder α) (s : Scope) (key : String) :
    Except Error (Option α) :=
  match s.resolve key with
  | .error e => .error (.path e)
  | .ok v => if v.isUndefined then .ok none else (decodeWith decode v.toJson).map some

end Stencil
