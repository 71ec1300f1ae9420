/-!
# Ranges of code points

A set of characters given by ranges of code points, and the notation its tables are written in:
ranges with hexadecimal bounds and a hyphen between them, or single code points, with spaces
between.
-/

namespace Stencil.Unicode

/-- The code points from the first to the second bound, both included, of each pair. -/
abbrev Ranges := List (Nat × Nat)

def Ranges.contains (rs : Ranges) (n : Nat) : Bool :=
  rs.any fun (lo, hi) => lo ≤ n && n ≤ hi

/-- A hexadecimal number in capital letters. -/
def hexNumber (cs : List Char) : Nat :=
  cs.foldl
    (fun n c => 16 * n + (if c.isDigit then c.toNat - '0'.toNat else c.toNat - 'A'.toNat + 10)) 0

/-- A range as it stands in a table. -/
def readRange (cs : List Char) : Nat × Nat :=
  let lo := cs.takeWhile (· != '-')
  match cs.dropWhile (· != '-') with
  | _ :: hi => (hexNumber lo, hexNumber hi)
  | [] => (hexNumber lo, hexNumber lo)

/-- The ranges of a row, whose characters come with what was read of the last range. -/
def readRow (word : List Char) : List Char → Ranges
  | [] => if word.isEmpty then [] else [readRange word.reverse]
  | ' ' :: cs => if word.isEmpty then readRow [] cs else readRange word.reverse :: readRow [] cs
  | c :: cs => readRow (c :: word) cs

/-- The rows of a table. -/
abbrev Table := List String

/-- The ranges that a table writes. -/
def Table.ranges (t : Table) : Ranges := t.flatMap fun row => readRow [] row.toList

end Stencil.Unicode
