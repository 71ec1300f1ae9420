import Stencil.Json.Basic

/-!
# JSON texts

The compact text of a value and the indented one. Strings escape the quote, the backslash and the
control characters, and nothing else.
-/

namespace Stencil.Json

/-- A hexadecimal digit in lower case. -/
def hexDigit (n : Nat) : Char :=
  (Nat.toDigits 16 n).getLast?.getD '0'

/-- A character as it is written between quotes. -/
def escapeChar (c : Char) : List Char :=
  if c = '"' then ['\\', '"']
  else if c = '\\' then ['\\', '\\']
  else if c = '\n' then ['\\', 'n']
  else if c = '\r' then ['\\', 'r']
  else if c = '\t' then ['\\', 't']
  else if c.toNat = 8 then ['\\', 'b']
  else if c.toNat = 12 then ['\\', 'f']
  else if c.toNat < 32 then ['\\', 'u', '0', '0', hexDigit (c.toNat / 16), hexDigit (c.toNat % 16)]
  else [c]

/-- A string between quotes. -/
def quote (s : String) : String :=
  String.ofList ('"' :: s.toList.flatMap escapeChar ++ ['"'])

mutual

/-- The compact text: no blanks, members in their order. -/
def compact : Json → String
  | .null => "null"
  | .bool b => if b then "true" else "false"
  | .num n => n.text
  | .str s => quote s
  | .arr xs => "[" ++ compactItems xs ++ "]"
  | .obj ms => "\x7b" ++ compactMembers ms ++ "\x7d"

def compactItems : List Json → String
  | [] => ""
  | [x] => compact x
  | x :: xs => compact x ++ "," ++ compactItems xs

def compactMembers : Members → String
  | [] => ""
  | [(k, v)] => quote k ++ ":" ++ compact v
  | (k, v) :: ms => quote k ++ ":" ++ compact v ++ "," ++ compactMembers ms

end

/-- The start of a line at a nesting depth: two spaces for each level. -/
def newLine (depth : Nat) : String :=
  String.ofList ('\n' :: List.replicate (2 * depth) ' ')

mutual

/-- The indented text at a depth: an item or member a line, nothing inside empty brackets. -/
def indentedAt (depth : Nat) : Json → String
  | .arr [] => "[]"
  | .obj [] => "\x7b\x7d"
  | .arr xs => "[" ++ indentedItems depth xs ++ newLine depth ++ "]"
  | .obj ms => "\x7b" ++ indentedMembers depth ms ++ newLine depth ++ "\x7d"
  | .null => "null"
  | .bool b => if b then "true" else "false"
  | .num n => n.text
  | .str s => quote s

def indentedItems (depth : Nat) : List Json → String
  | [] => ""
  | [x] => newLine (depth + 1) ++ indentedAt (depth + 1) x
  | x :: xs => newLine (depth + 1) ++ indentedAt (depth + 1) x ++ "," ++ indentedItems depth xs

def indentedMembers (depth : Nat) : Members → String
  | [] => ""
  | [(k, v)] => newLine (depth + 1) ++ quote k ++ ": " ++ indentedAt (depth + 1) v
  | (k, v) :: ms =>
    newLine (depth + 1) ++ quote k ++ ": " ++ indentedAt (depth + 1) v ++ "," ++
      indentedMembers depth ms

end

def indented (v : Json) : String := indentedAt 0 v

/-- The text of a value in a template: a string as it is, nothing for null, otherwise the compact
text. -/
def plainText : Json → String
  | .str s => s
  | .null => ""
  | v => compact v

end Stencil.Json
