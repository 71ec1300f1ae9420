import Stencil.Regex.Class

/-!
# Regular expressions

A pattern after reading: case, line and greed flags are already worked into it.
-/

namespace Stencil.Regex

/-- A condition on the place between two characters. -/
inductive Look where
  | textStart
  | textEnd
  | lineStart
  | lineEnd
  /-- The start of a line where a carriage return ends lines too. -/
  | lineStartCR
  | lineEndCR
  | wordBoundary (unicode : Bool)
  | notWordBoundary (unicode : Bool)
  | wordStart (unicode : Bool)
  | wordEnd (unicode : Bool)
  /-- No character of a word in front. -/
  | wordStartHalf (unicode : Bool)
  /-- No character of a word behind. -/
  | wordEndHalf (unicode : Bool)

/-- A pattern. Of two alternatives the left one is preferred, and of the numbers of repetitions the
larger one where the repetition is greedy, otherwise the smaller one. -/
inductive Pattern where
  | empty
  | one (cls : CharClass)
  | look (condition : Look)
  | cat (a b : Pattern)
  | alt (a b : Pattern)
  | rep (a : Pattern) (min : Nat) (max : Option Nat) (greedy : Bool)
  | group (name : Option String) (a : Pattern)
deriving Inhabited

namespace Pattern

/-- The least number of characters that a match takes. -/
def minLength : Pattern → Nat
  | empty => 0
  | one _ => 1
  | look _ => 0
  | cat a b => minLength a + minLength b
  | alt a b => min (minLength a) (minLength b)
  | rep a n _ _ => n * minLength a
  | group _ a => minLength a

/-- The names of the groups, from left to right. -/
def groupNames : Pattern → List String
  | empty | one _ | look _ => []
  | cat a b | alt a b => groupNames a ++ groupNames b
  | rep a _ _ _ => groupNames a
  | group name a => name.toList ++ groupNames a

/-- The size of the pattern with its repetitions written out. -/
def expandedSize : Pattern → Nat
  | empty => 0
  | one _ | look _ => 1
  | cat a b => expandedSize a + expandedSize b
  | alt a b => expandedSize a + expandedSize b + 1
  | rep a n none _ => (max n 1) * expandedSize a + 2
  | rep a n (some m) _ => (max n m) * (expandedSize a + 1)
  | group _ a => expandedSize a

end Pattern

end Stencil.Regex
