import Stencil.Text.Digits

/-!
# Percent-encoding

Every byte of the UTF-8 form that is not left as it is becomes a percent sign and two hexadecimal
digits in capitals.
-/

namespace Stencil.Text

/-- A hexadecimal digit in capitals. -/
def hexDigit (n : Nat) : Char :=
  if n < 10 then Char.ofNat (48 + n) else Char.ofNat (55 + n)

/-- The encoded form of one byte. -/
def percentByte (b : UInt8) : List Char :=
  ['%', hexDigit (b.toNat / 16), hexDigit (b.toNat % 16)]

/-- The encoded form of one character. -/
def percentChar (c : Char) : List Char :=
  (String.utf8EncodeChar c).flatMap percentByte

/-- The characters, encoded where `keep` does not hold. -/
def percentEncode (keep : Char → Bool) (cs : List Char) : List Char :=
  cs.flatMap fun c => if keep c then [c] else percentChar c

/-- The characters that need no encoding anywhere in a URL. -/
def isUnreserved (c : Char) : Bool :=
  c.isAlphanum || c == '-' || c == '_' || c == '.' || c == '~'

/-- The text as one component of a URL. -/
def urlEncode (s : String) : String :=
  String.ofList (percentEncode isUnreserved s.toList)

end Stencil.Text
