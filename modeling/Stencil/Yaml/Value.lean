import Stencil.Format
import Stencil.Yaml.Node

/-!
# The values of nodes

Plain text may write null, a truth value or a number; all other text is a string. A whole number has
to fit 64 bits. A run of digits behind a zero is a string, and so is a number too large for a
floating point number.
-/

namespace Stencil.Yaml

def isNullText (text : String) : Bool :=
  text.isEmpty || ["null", "Null", "NULL", "~"].contains text

def bool? (text : String) : Option Bool :=
  if ["true", "True", "TRUE"].contains text then some true
  else if ["false", "False", "FALSE"].contains text then some false
  else none

/-- A number in digits of a base. -/
def inBase? (base : Nat) (cs : List Char) : Option Nat :=
  if cs.isEmpty then none
  else
    (cs.mapM fun c => (Text.hexValue? c).filter (· < base)).map
      (·.foldl (fun n d => base * n + d) 0)

/-- A number without a sign: in decimal, or behind `0x`, `0o` or `0b`. -/
def natural? : List Char → Option Nat
  | '0' :: 'x' :: cs => inBase? 16 cs
  | '0' :: 'o' :: cs => inBase? 8 cs
  | '0' :: 'b' :: cs => inBase? 2 cs
  | cs => inBase? 10 cs

/-- Whether a text is a run of several digits that starts with a zero, behind a sign or not. -/
def isZeroPadded (cs : List Char) : Bool :=
  let digits := match cs with
    | '-' :: rest | '+' :: rest => rest
    | _ => cs
  match digits with
  | '0' :: d :: rest => (d :: rest).all Char.isDigit
  | _ => false

/-- A whole number of at most 128 bits. -/
def int? (cs : List Char) : Option Int :=
  if isZeroPadded cs then none
  else
    match cs with
    | '-' :: rest => ((natural? rest).filter (· ≤ twoTo 127)).map fun n => -(n : Int)
    | '+' :: rest => ((natural? rest).filter (· < twoTo 128)).map Int.ofNat
    | _ => ((natural? cs).filter (· < twoTo 128)).map Int.ofNat

/-- The exponent of a number, which may be left out. -/
def exponent? : List Char → Option Int
  | [] => some 0
  | e :: cs => if e = 'e' ∨ e = 'E' then Text.int? cs else none

/-- The nearest floating point number to `digits · 10 ^ e`. Beyond `10 ^ 800` digits are not looked
at: such a number is too large, or too near to zero. -/
def floatOfDigits (negative : Bool) (digits : List Char) (e : Int) : Option Binary64 :=
  let n := Text.natOfDigits digits
  let reach : Int := digits.length + 800
  if n = 0 ∨ e < -reach then some (Binary64.zero negative)
  else if reach < e then none
  else Binary64.ofDecimal? negative n e

/-- A finite number with a point, an exponent or both. -/
def float? (cs : List Char) : Option Binary64 :=
  let (negative, body) := match cs with
    | '-' :: rest => (true, rest)
    | '+' :: rest => (false, rest)
    | _ => (false, cs)
  let whole := body.takeWhile Char.isDigit
  let rest := body.dropWhile Char.isDigit
  let (fraction, rest) := match rest with
    | '.' :: more => (more.takeWhile Char.isDigit, more.dropWhile Char.isDigit)
    | _ => ([], rest)
  if whole.isEmpty ∧ fraction.isEmpty then none
  else
    (exponent? rest).bind fun e => floatOfDigits negative (whole ++ fraction) (e - fraction.length)

/-- Infinities and what is no number at all, none of which JSON has. -/
def isNotFinite (text : String) : Bool :=
  [".inf", ".Inf", ".INF", "+.inf", "+.Inf", "+.INF", "-.inf", "-.Inf", "-.INF", ".nan", ".NaN",
    ".NAN"].contains text

/-- The whole number that a text writes as JSON, if it fits. -/
def intJson? (z : Int) : Option Json :=
  if -(twoTo 63) ≤ z ∧ z < twoTo 64 then some (.int z) else none

/-- The value of plain text. -/
def plainJson? (text : String) : Option Json :=
  let cs := text.toList
  if isNullText text then some .null
  else
    match bool? text, int? cs with
    | some b, _ => some (.bool b)
    | none, some z => intJson? z
    | none, none =>
      if isNotFinite text then some .null
      else
        match if isZeroPadded cs then none else float? cs with
        | some x => some (.num (.float x))
        | none => some (.str text)

/-- The value of text of a core type. -/
def coreJson? (type text : String) : Option Json :=
  match type with
  | "bool" => (bool? text).map .bool
  | "int" => (int? text.toList).bind intJson?
  | "float" =>
    if isNotFinite text then some .null else (float? text.toList).map fun x => .num (.float x)
  | "null" => if isNullText text && !text.isEmpty then some .null else none
  | _ => some (.str text)

namespace Node

def text? : Node → Option String
  | scalar _ text _ => some text
  | _ => none

/-- A node that nothing is written for. -/
def isAbsent : Node → Bool
  | scalar _ text plain => plain && text.isEmpty
  | _ => false

/-- The value of an optional field. Plain text with the tag of null has to write null. -/
def value? : Node → Option (Option Node)
  | scalar none text true => some (if isNullText text then none else some (scalar none text true))
  | scalar (some (.core "null")) text true =>
    if isNullText text && !text.isEmpty then some none else none
  | n => some (some n)

/-- A tag of the document's own, which JSON has no place for. -/
def isOwn (tag : Option Tag) : Bool := tag == some .custom || tag == some .unspecific

mutual

/-- The node as JSON. Names are texts as they are written; the last value of a name counts. -/
def json? : Node → Option Json
  | scalar none text plain => if plain then plainJson? text else some (.str text)
  | scalar (some (.core type)) text _ => coreJson? type text
  | scalar (some (.named _)) text _ => some (.str text)
  | scalar (some .unspecific) text _ => some (.str text)
  | sequence tag items => if isOwn tag then none else (jsonItems? items).map .arr
  | mapping tag entries => if isOwn tag then none else (jsonMembers? [] entries).map .obj
  | scalar (some .custom) _ _ => none
  | cycle => none

def jsonItems? : List Node → Option (List Json)
  | [] => some []
  | n :: ns =>
    match json? n, jsonItems? ns with
    | some v, some vs => some (v :: vs)
    | _, _ => none

def jsonMembers? (acc : Json.Members) : List (Node × Node) → Option Json.Members
  | [] => some acc
  | (k, v) :: es =>
    match text? k, json? v with
    | some name, some v => jsonMembers? (Entries.insert acc name v) es
    | _, _ => none

end

def items? : Node → Option (List Node)
  | sequence _ items => some items
  | n => if n.isAbsent then some [] else none

def entries? : Node → Option (Entries Node)
  | mapping _ es => es.mapM fun (k, v) => (text? k).map fun name => (name, v)
  | n => if n.isAbsent then some [] else none

/-- The fields of a record, by name or in order. -/
def fields? (names : List String) (n : Node) : Option (List (Option Node)) :=
  match n with
  | sequence _ items =>
    if items.length ≤ names.length then
      some (items.map some ++ List.replicate (names.length - items.length) none)
    else none
  | n =>
    (entries? n).bind fun es =>
      if names.all fun name => (es.filter fun e => e.1 == name).length ≤ 1 then
        some (names.map (Entries.find? es))
      else none

end Node

def format : Format Node where
  fields? := Node.fields?
  items? := Node.items?
  entries? := Node.entries?
  text? := Node.text?
  value? := Node.value?
  json? := Node.json?

end Stencil.Yaml
