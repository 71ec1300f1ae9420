import Stencil.Slot.NumericFormat
import Stencil.Text.Percent

/-!
# Formats

What a modifier `:format` does to a text. Named operations come first, then the numeric formats. A
format that is unknown or does not fit the text changes nothing.
-/

namespace Stencil.Slot

/-- A named operation on texts. -/
structure Operation where
  name : String
  apply : String → String

/-- The characters that `Trim` takes off at either end. -/
def isTrimmed (c : Char) : Bool :=
  c == '\r' || c == '\n' || c == '\t' || c == '\x0c' || c == '\x0b' || c == ' '

def urlEncodeOperation : Operation := ⟨"urlEncode", Text.urlEncode⟩

def trimOperation : Operation :=
  ⟨"Trim", fun s => String.ofList (Text.strip isTrimmed s.toList)⟩

/-- The named operations, the latest first. -/
structure Registry where
  operations : List Operation

namespace Registry

def builtin : Registry := ⟨[trimOperation, urlEncodeOperation]⟩

/-- Add an operation, which takes the place of one of the same name. -/
def register (r : Registry) (op : Operation) : Registry := ⟨op :: r.operations⟩

def get? (r : Registry) (name : String) : Option Operation :=
  r.operations.find? fun op => op.name == name

/-- Apply a format to a text. A numeric format leaves the empty text empty. -/
def apply (r : Registry) (format value : String) : String :=
  match r.get? format with
  | some op => op.apply value
  | none =>
    if value.isEmpty then ""
    else
      match NumericFormat.parse? format with
      | some numeric => (numeric.written? value).getD value
      | none => value

end Registry

end Stencil.Slot
