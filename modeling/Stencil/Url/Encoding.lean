import Stencil.Text.Percent

/-!
# Characters of the parts of a URL

Which characters stay as they are in each part; all others are percent-encoded.
-/

namespace Stencil.Url

/-- A printed ASCII character other than the space. -/
def isVisible (c : Char) : Bool := 32 < c.toNat && c.toNat < 127

def keptInFragment (c : Char) : Bool := isVisible c && c ∉ ['"', '<', '>', '\x60']

def keptInPath (c : Char) : Bool := keptInFragment c && c ∉ ['#', '?', '\x7b', '\x7d']

def keptInUserInfo (c : Char) : Bool :=
  keptInPath c && c ∉ ['/', ':', ';', '=', '@', '[', '\\', ']', '^', '|']

/-- A quote is encoded too, since the scheme is one with a host. -/
def keptInQuery (c : Char) : Bool := isVisible c && c ∉ ['"', '#', '\'', '<', '>']

/-- The value of two hexadecimal digits. -/
def hexPair? (a b : Char) : Option UInt8 :=
  match Text.hexValue? a, Text.hexValue? b with
  | some x, some y => some (UInt8.ofNat (16 * x + y))
  | _, _ => none

/-- The bytes of a text in UTF-8, with every encoded byte decoded. -/
def percentDecode : List Char → List UInt8
  | '%' :: a :: b :: cs =>
    match hexPair? a b with
    | some x => x :: percentDecode cs
    | none => '%'.toUInt8 :: percentDecode (a :: b :: cs)
  | c :: cs => String.utf8EncodeChar c ++ percentDecode cs
  | [] => []

end Stencil.Url
