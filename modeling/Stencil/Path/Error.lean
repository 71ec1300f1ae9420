import Stencil.Path.Token
import Stencil.Text.Digits

/-!
# Malformed paths

Why a path cannot be read or evaluated. Positions count bytes from the start of the path.
-/

namespace Stencil.Path

/-- The constructs that can be left open at the end of a path. -/
inductive Construct where
  | string
  | regex
  | filter
  | expression
deriving DecidableEq, Repr

def Construct.name : Construct → String
  | string => "String"
  | regex => "Regex"
  | filter => "Filter"
  | expression => "Expression"

inductive Fault where
  | unexpectedCharacter (c : Char)
  | endOfPath
  | nestedFilter
  | digitsExpected
  | fractionExpected
  | rootExpected
  | unexpectedToken (token : Token)
  /-- The path was complete where more was needed. -/
  | missing (what : String)
  | mixedList
  | invalidNumber (text : String)
deriving DecidableEq, Repr

def Fault.message : Fault → String
  | unexpectedCharacter c => "unexpected character '" ++ c.toString ++ "'"
  | endOfPath => "unexpected end of path"
  | nestedFilter => "nested filter expression"
  | digitsExpected => "expected digits"
  | fractionExpected => "expected digits after '.'"
  | rootExpected => "path must start with '$'"
  | unexpectedToken token => "unexpected token " ++ token.name
  | missing what => "expected " ++ what
  | mixedList => "list mixes strings and numbers"
  | invalidNumber text => "invalid number '" ++ text ++ "'"

inductive PathError where
  | malformed (position : Nat) (fault : Fault)
  | unterminated (construct : Construct) (position : Nat)
  /-- The pattern of a regular expression cannot be read. -/
  | invalidRegex (pattern : String)
deriving DecidableEq, Repr

def PathError.message : PathError → String
  | malformed position fault =>
    "Invalid path syntax at position " ++ Text.natText position ++ ": " ++ fault.message
  | unterminated construct position =>
    construct.name ++ " not terminated at position " ++ Text.natText position
  | invalidRegex pattern => "Invalid regex '" ++ pattern ++ "'"

end Stencil.Path
