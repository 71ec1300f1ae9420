import Stencil.Unicode.Direction
import Stencil.Unicode.Joining
import Stencil.Url.Punycode

/-!
# Domain names

A domain name of any characters in its ASCII form. Characters are replaced or left out by the
mapping for domain names, marks are composed, and every label that is not ASCII then becomes its
Punycode behind `xn--`. Labels that come encoded are decoded, and all that is not ASCII has to be
valid.
-/

namespace Stencil.Url.Domain

open Unicode (Direction direction domainMapping?)

/-- ASCII characters that no domain name holds. -/
def isForbidden (c : Char) : Bool :=
  c.toNat ≤ 32 || c.toNat == 127 ||
    ['%', '#', '/', ':', '<', '>', '?', '@', '[', '\\', ']', '^', '|'].contains c

def isAscii (cs : List Char) : Bool := cs.all fun c => c.toNat < 128

/-- What an encoded label starts with. -/
def encodedStart : List Char := ['x', 'n', '-', '-']

def spacingMarks : Unicode.Ranges := Unicode.mcTable.ranges

def isMark (c : Char) : Bool :=
  Unicode.marks.contains c.toNat || spacingMarks.contains c.toNat

/-- A label in its composed form whose characters may all stand in domain names. -/
def isValid (label : List Char) : Bool :=
  label.all (fun c => domainMapping? c == some [c]) && Unicode.composed label == label &&
    !(label.head?.map isMark).getD false && Unicode.joinersFit [] label

/-! ## Direction -/

/-- Whether a character makes the whole name one that has to keep the rules of direction. -/
def isDirected (c : Char) : Bool :=
  direction c == .rightToLeft || direction c == .arabicNumber

/-- The directions of the label without the marks at its end. -/
def endDirection? (label : List Char) : Option Direction :=
  ((label.map direction).reverse.dropWhile (· == .mark)).head?

/-- A label runs in one direction, which its first character gives. -/
def runsOneWay (label : List Char) : Bool :=
  let all := label.map direction
  match all with
  | [] => true
  | .leftToRight :: _ =>
    all.all (fun d => d != .rightToLeft && d != .arabicNumber) &&
      [some .leftToRight, some .europeanNumber].contains (endDirection? label)
  | .rightToLeft :: _ =>
    all.all (· != .leftToRight) &&
      [some .rightToLeft, some .europeanNumber, some .arabicNumber].contains
        (endDirection? label) &&
      !(all.contains .europeanNumber && all.contains .arabicNumber)
  | _ => false

/-! ## Labels -/

/-- A label as it reads and as it is written in ASCII. -/
structure Label where
  read : List Char
  written : List Char

/-- A label of mapped characters. -/
def label? (cs : List Char) : Option Label :=
  if encodedStart.isPrefixOf cs then
    match if isAscii cs then Punycode.decode? (cs.drop encodedStart.length) else none with
    | some read => if !isAscii read && isValid read then some ⟨read, cs⟩ else none
    | none => none
  else if isAscii cs then some ⟨cs, cs⟩
  else if isValid cs then some ⟨cs, encodedStart ++ Punycode.encode cs⟩
  else none

/-- The ASCII form of a domain name. -/
def toAscii? (cs : List Char) : Option (List Char) := do
  let mapped ← cs.mapM domainMapping?
  let name := Unicode.composed mapped.flatten
  if name.any isForbidden then none
  else
    let labels ← (Text.splitAt '.' name).mapM label?
    if labels.any (fun l => l.read.any isDirected) && !labels.all (fun l => runsOneWay l.read) then
      none
    else some (Text.joinWith '.' (labels.map Label.written))

end Stencil.Url.Domain
