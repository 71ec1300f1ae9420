/-!
# Tokens of a path

A path such as `$.store.book[?(@.price < 10)].title` is a row of tokens. The names of tokens are
part of the messages about malformed paths.
-/

namespace Stencil.Path

/-- The operators of a filter expression. -/
inductive Operator where
  | equal
  | notEqual
  | less
  | lessEq
  | greater
  | greaterEq
  | resembles
  | isIn
  | notIn
  | subsetOf
  | anyOf
  | noneOf
  | size
  | isEmpty
deriving DecidableEq, Repr

namespace Operator

/-- The operator as it is written in a path. -/
def symbol : Operator → String
  | equal => "=="
  | notEqual => "!="
  | less => "<"
  | lessEq => "<="
  | greater => ">"
  | greaterEq => ">="
  | resembles => "=~"
  | isIn => "in"
  | notIn => "nin"
  | subsetOf => "subsetof"
  | anyOf => "anyof"
  | noneOf => "noneof"
  | size => "size"
  | isEmpty => "empty"

def name : Operator → String
  | equal => "Equal"
  | notEqual => "NotEqual"
  | less => "Less"
  | lessEq => "LessEq"
  | greater => "Greater"
  | greaterEq => "GreaterEq"
  | resembles => "Matches"
  | isIn => "In"
  | notIn => "Nin"
  | subsetOf => "SubsetOf"
  | anyOf => "AnyOf"
  | noneOf => "NoneOf"
  | size => "Size"
  | isEmpty => "Empty"

/-- Operators written in signs, each before those that it starts with. -/
def signs : List Operator :=
  [equal, notEqual, lessEq, greaterEq, resembles, less, greater]

/-- Operators written in letters. -/
def words : List Operator :=
  [subsetOf, noneOf, anyOf, isEmpty, size, notIn, isIn]

end Operator

inductive Token where
  /-- `$` -/
  | root
  /-- `@` -/
  | current
  /-- `.` -/
  | child
  /-- `..` -/
  | deepScan
  | propertyName
  /-- `*` -/
  | wildcard
  /-- `[` -/
  | startFilter
  /-- `]` -/
  | endFilter
  /-- `'...'` -/
  | string
  | number
  /-- `:` -/
  | slice
  /-- `?(` -/
  | startExpression
  /-- `)` -/
  | endExpression
  /-- `/pattern/flags` -/
  | regex
  /-- `[` in front of a list of operands -/
  | startList
  /-- `]` behind a list of operands -/
  | endList
  | operator (op : Operator)
deriving DecidableEq, Repr

def Token.name : Token → String
  | root => "Root"
  | current => "Current"
  | child => "Child"
  | deepScan => "DeepScan"
  | propertyName => "PropertyName"
  | wildcard => "Wildcard"
  | startFilter => "StartFilter"
  | endFilter => "EndFilter"
  | string => "String"
  | number => "Number"
  | slice => "Slice"
  | startExpression => "StartExpression"
  | endExpression => "EndExpression"
  | regex => "Regex"
  | startList => "StartList"
  | endList => "EndList"
  | operator op => "Operator(" ++ op.name ++ ")"

end Stencil.Path
