import Stencil.Unicode.CaseFold
import Stencil.Unicode.Category
import Stencil.Unicode.Property
import Stencil.Unicode.Script

/-!
# Character classes

A class is built from ranges by the set operations of a pattern and decides for each character
whether it belongs to it.
-/

namespace Stencil.Regex

open Unicode (Ranges)

inductive CharClass where
  | ranges (rs : Ranges)
  | union (a b : CharClass)
  | inter (a b : CharClass)
  | diff (a b : CharClass)
  | symmDiff (a b : CharClass)
  | complement (a : CharClass)
  /-- The characters that differ at most in case from one of the class. -/
  | caseless (a : CharClass)
deriving Inhabited

namespace CharClass

def mem : CharClass → Nat → Bool
  | ranges rs, n => rs.contains n
  | union a b, n => mem a n || mem b n
  | inter a b, n => mem a n && mem b n
  | diff a b, n => mem a n && !mem b n
  | symmDiff a b, n => mem a n != mem b n
  | complement a, n => !mem a n
  | caseless a, n => (Unicode.foldClass n).any (mem a)

def empty : CharClass := ranges []

def any : CharClass := ranges [(0, 0x10FFFF)]

def single (c : Char) : CharClass := ranges [(c.toNat, c.toNat)]

def complementIf (negated : Bool) (a : CharClass) : CharClass :=
  if negated then complement a else a

def caselessIf (flag : Bool) (a : CharClass) : CharClass :=
  if flag then caseless a else a

def digitRanges : Ranges := Unicode.ndTable.ranges

def spaceRanges : Ranges := Unicode.whiteSpaceTable.ranges

/-- Letters, marks, decimal digits, connectors and join controls. -/
def wordRanges : Ranges :=
  [Unicode.alphabeticTable, Unicode.mnTable, Unicode.mcTable, Unicode.meTable, Unicode.ndTable,
    Unicode.pcTable, Unicode.joinControlTable].flatMap Unicode.Table.ranges

/-- Decimal digits, in Unicode or in ASCII alone. -/
def digit (unicode : Bool) : CharClass :=
  ranges (if unicode then digitRanges else [(0x30, 0x39)])

/-- White space, in Unicode or in ASCII alone. -/
def space (unicode : Bool) : CharClass :=
  ranges (if unicode then spaceRanges else [(9, 13), (0x20, 0x20)])

/-- The characters of words, in Unicode or in ASCII alone. -/
def word (unicode : Bool) : CharClass :=
  ranges (if unicode then wordRanges else [(0x30, 0x39), (0x41, 0x5A), (0x5F, 0x5F), (0x61, 0x7A)])

/-- The class that a name in `[:name:]` stands for, ASCII characters alone. -/
def named? : String → Option Ranges
  | "alnum" => some [(0x30, 0x39), (0x41, 0x5A), (0x61, 0x7A)]
  | "alpha" => some [(0x41, 0x5A), (0x61, 0x7A)]
  | "ascii" => some [(0, 0x7F)]
  | "blank" => some [(9, 9), (0x20, 0x20)]
  | "cntrl" => some [(0, 0x1F), (0x7F, 0x7F)]
  | "digit" => some [(0x30, 0x39)]
  | "graph" => some [(0x21, 0x7E)]
  | "lower" => some [(0x61, 0x7A)]
  | "print" => some [(0x20, 0x7E)]
  | "punct" => some [(0x21, 0x2F), (0x3A, 0x40), (0x5B, 0x60), (0x7B, 0x7E)]
  | "space" => some [(9, 13), (0x20, 0x20)]
  | "upper" => some [(0x41, 0x5A)]
  | "word" => some [(0x30, 0x39), (0x41, 0x5A), (0x5F, 0x5F), (0x61, 0x7A)]
  | "xdigit" => some [(0x30, 0x39), (0x41, 0x46), (0x61, 0x66)]
  | _ => none

/-- A property name as it is looked up: lower case, without spaces, hyphens and underscores. -/
def normalName (name : String) : String :=
  let cs := (name.toList.filter fun c => c != ' ' && c != '-' && c != '_').map Char.toLower
  match cs with
  | 'i' :: 's' :: rest =>
    if rest.isEmpty ∨ rest = ['c'] then String.ofList cs else String.ofList rest
  | _ => String.ofList cs

/-- The class of a property written without a value: a category, a property or a script. -/
def property? (name : String) : Option CharClass :=
  match normalName name with
  | "any" => some any
  | "ascii" => some (ranges [(0, 0x7F)])
  | "assigned" => some (ranges (Unicode.assignedTables.flatMap Unicode.Table.ranges))
  | "c" | "other" =>
    some (complement (ranges ((Unicode.assignedTables.filter fun t =>
      t != Unicode.ccTable && t != Unicode.cfTable && t != Unicode.coTable).flatMap
        Unicode.Table.ranges)))
  | "cn" | "unassigned" =>
    some (complement (ranges (Unicode.assignedTables.flatMap Unicode.Table.ranges)))
  | key =>
    match Unicode.category? key with
    | some rs => some (ranges rs)
    | none =>
      match Unicode.property? key with
      | some rs => some (ranges rs)
      | none => (Unicode.script? key).map ranges

/-- The class of a property with a value. -/
def valuedProperty? (name value : String) : Option CharClass :=
  match normalName name with
  | "gc" | "generalcategory" =>
    match normalName value with
    | "any" | "ascii" | "assigned" | "c" | "other" | "cn" | "unassigned" => property? value
    | key => (Unicode.category? key).map ranges
  | "sc" | "script" | "scx" | "scriptextensions" =>
    (Unicode.script? (normalName value)).map ranges
  | _ => none

end CharClass

end Stencil.Regex
