import Stencil.Dictionary
import Stencil.Json.Decode
import Stencil.Json.Parser

/-!
# File formats

How the values of a file format are taken apart, so that a record is read in the same way from each.
-/

namespace Stencil

/-- The views of a value of type `ν`. Each is none where the value is of another shape. -/
structure Format (ν : Type) where
  /-- The fields of a record in the order of the names given; an absent one is none. -/
  fields? : List String → ν → Option (List (Option ν))
  items? : ν → Option (List ν)
  /-- Values under names, which may be repeated. -/
  entries? : ν → Option (Entries ν)
  text? : ν → Option String
  /-- The value of an optional field, where null stands for none. -/
  value? : ν → Option (Option ν)
  json? : ν → Option Json

namespace Format

variable {ν α : Type}

/-- A field that may be absent or null. -/
def optional (f : Format ν) (read : ν → Option α) : Option ν → Option (Option α)
  | none => some none
  | some v =>
    match f.value? v with
    | some (some v) => (read v).map some
    | some none => some none
    | none => none

/-- Texts under names. The last value of a name counts. -/
def texts? (f : Format ν) (v : ν) : Option (Dictionary String) := do
  let es ← f.entries? v
  let es ← es.mapM fun (name, w) => (f.text? w).map fun text => (name, text)
  some (.ofList es)

end Format

namespace Json

/-- JSON values in which every name occurs once. -/
def format : Format Json where
  fields? := Decoder.fields
  items? v := match v with
    | .arr xs => some xs
    | _ => none
  entries? v := match v with
    | .obj ms => some ms
    | _ => none
  text? := Decoder.string
  value? v := match v with
    | .null => some none
    | v => some (some v)
  json? := some

/-- JSON values as they are written. A record may not repeat a field; in all other objects the last
value of a name counts. -/
def treeFormat : Format Json := { format with json? := fun v => some (merged v) }

end Json

end Stencil
