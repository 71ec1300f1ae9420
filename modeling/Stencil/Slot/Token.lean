import Stencil.Path.Error

/-!
# Tokens of slot text

Slot text such as `Hello {name:Trim}` is literal text with slots in braces. A slot is a reference,
modifiers behind it and conditions behind those.
-/

namespace Stencil.Slot

/-- The comparisons of a condition. -/
inductive Comparison where
  | equal
  | notEqual
  | less
  | lessEq
  | greater
  | greaterEq
deriving DecidableEq, Repr

def Comparison.name : Comparison → String
  | equal => "Equal"
  | notEqual => "NotEqual"
  | less => "Less"
  | lessEq => "LessEq"
  | greater => "Greater"
  | greaterEq => "GreaterEq"

inductive Token where
  /-- Literal text; a doubled brace is one. -/
  | text (body : String)
  /-- The brace that opens a slot. -/
  | start
  /-- A name, a path into JSON or a path into HTML. -/
  | reference (key : String)
  /-- `:format` -/
  | format (spec : String)
  /-- `:/pattern/flags` -/
  | match_ (literal : String)
  /-- `:[range]`, without the brackets -/
  | substring (range : String)
  | operator (op : Comparison)
  /-- `?` -/
  | condition
  /-- Text in quotes, without them. -/
  | literal (body : String)
  /-- `:` between the branches of a condition -/
  | else_
  /-- The brace that closes a slot. -/
  | stop
deriving DecidableEq, Repr

namespace Token

def name : Token → String
  | text _ => "Text"
  | start => "Start"
  | reference _ => "Reference"
  | format _ => "Format"
  | match_ _ => "Match"
  | substring _ => "Substring"
  | operator _ => "Operator"
  | condition => "Condition"
  | literal _ => "Literal"
  | else_ => "Else"
  | stop => "End"

/-- What the token carries. -/
def body : Token → String
  | text s | reference s | format s | match_ s | substring s | literal s => s
  | operator op => op.name
  | start | condition | else_ | stop => ""

end Token

/-! ## Malformed slots -/

inductive Fault where
  | unexpectedCharacter (c : Char)
  | notTerminated
  | openPredicate
  | emptyFormat
  | openRegex
  | openRange
  | comparisonExpected
  | quoteExpected
  | openQuote
  | comparandExpected
  | conditionExpected
  | branchExpected
  | elseBranchExpected
  | branchEndExpected
  | strayBranch
  | invalidBound (text : String)
  /-- The position is inside of a character. -/
  | insideCharacter
deriving DecidableEq, Repr

def Fault.message : Fault → String
  | unexpectedCharacter c => "unexpected character '" ++ c.toString ++ "' in slot"
  | notTerminated => "slot not terminated"
  | openPredicate => "unterminated predicate in HTML path"
  | emptyFormat => "empty format"
  | openRegex => "unterminated regex"
  | openRange => "unterminated range"
  | comparisonExpected => "expected '==' or '!='"
  | quoteExpected => "expected quoted text"
  | openQuote => "unterminated quoted text"
  | comparandExpected => "expected quoted comparand"
  | conditionExpected => "expected '?' after comparison"
  | branchExpected => "expected quoted branch"
  | elseBranchExpected => "expected quoted branch after ':'"
  | branchEndExpected => "expected ':' or '\x7d'"
  | strayBranch => "unexpected condition branch"
  | invalidBound text => "invalid range bound '" ++ text ++ "'"
  | insideCharacter => "position inside a character"

/-- Why slot text cannot be rendered. Positions count bytes from the start of the text. -/
inductive SlotError where
  | malformed (position : Nat) (fault : Fault)
  | invalidRegex (pattern : String)
  /-- The path of a reference is malformed. -/
  | path (error : Path.PathError)
deriving DecidableEq, Repr

def SlotError.message : SlotError → String
  | malformed position fault =>
    "Invalid slot syntax at position " ++ Text.natText position ++ ": " ++ fault.message
  | invalidRegex pattern => "Invalid regex '" ++ pattern ++ "' in slot"
  | path error => "Path in slot failed: " ++ error.message

end Stencil.Slot
