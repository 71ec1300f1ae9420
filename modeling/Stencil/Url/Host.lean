import Stencil.Url.Address
import Stencil.Url.Domain
import Stencil.Url.Encoding
import Stencil.Url.Error

/-!
# Hosts

The host of a URL is a domain name or a network address. A name whose last part is a number is an
address.
-/

namespace Stencil.Url

inductive Host where
  | domain (name : String)
  | address4 (n : Nat)
  | address6 (units : List Nat)
deriving DecidableEq, Repr

namespace Host

def text : Host → String
  | domain name => name
  | address4 n => address4Text n
  | address6 units => "[" ++ address6Text units ++ "]"

/-- An address in brackets, of which the first is read. -/
def parseBracketed (cs : List Char) : Except Fault Host :=
  match cs.reverse with
  | ']' :: inner =>
    match address6? inner.reverse with
    | some units => .ok (.address6 units)
    | none => .error .invalidIpv6
  | _ => .error .invalidIpv6

/-- The host of a URL whose scheme is one of the web. -/
def parse (cs : List Char) : Except Fault Host :=
  match cs with
  | '[' :: rest => parseBracketed rest
  | _ =>
    let decoded := (String.fromUTF8? ⟨(percentDecode cs).toArray⟩).bind fun s =>
      Domain.toAscii? s.toList
    match decoded with
    | none => .error .invalidDomain
    | some [] => .error .emptyHost
    | some name =>
      if endsInNumber name then
        match address4? name with
        | some n => .ok (.address4 n)
        | none => .error .invalidIpv4
      else .ok (.domain (String.ofList name))

/-- Characters that no host of any scheme holds. -/
def isForbidden (c : Char) : Bool :=
  [Char.ofNat 0, ' ', '#', '/', ':', '<', '>', '?', '@', '[', '\\', ']', '^', '|'].contains c

/-- The host of a URL of another scheme, which is kept as it is. -/
def parseOpaque (cs : List Char) : Except Fault Host :=
  match cs with
  | '[' :: rest => parseBracketed rest
  | _ =>
    if cs.any isForbidden then .error .forbiddenCharacter else .ok (.domain (String.ofList cs))

end Host

end Stencil.Url
