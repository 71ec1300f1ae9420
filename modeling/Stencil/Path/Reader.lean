import Stencil.Path.Error
import Stencil.Regex.Literal
import Stencil.Text.Blank

/-!
# Reading a path token by token

A reader is a place in a path together with the token in front of it and what is open around it.
These alone decide what may come next. A reader is a value: to read a stretch of a path again, keep
the reader that stands in front of it.
-/

namespace Stencil.Path

open Text (byteLength)

/-- What is open around a place in a path. -/
inductive Mode where
  /-- Nothing: a step of the path. -/
  | path
  /-- A bracket of the path. -/
  | bracket
  /-- A filter expression. -/
  | operand
  /-- A bracket inside a filter expression. -/
  | operandBracket
  /-- A list of operands. -/
  | list
deriving DecidableEq, Repr

namespace Mode

def inBracket (m : Mode) : Bool := m == bracket || m == operandBracket

def inExpression (m : Mode) : Bool := m == operand || m == operandBracket || m == list

/-- The mode behind an opening bracket. -/
def opened (m : Mode) : Mode := if m.inExpression then operandBracket else bracket

/-- The mode behind a closing bracket. -/
def closed (m : Mode) : Mode := if m.inExpression then operand else path

end Mode

structure Reader where
  /-- What has not been read. -/
  rest : List Char
  /-- How many bytes have been read. -/
  position : Nat
  /-- The token read last. -/
  token : Option Token
  /-- The text of that token, without quotes. -/
  lexeme : List Char
  mode : Mode
  /-- The end has been reached or the path has broken off. -/
  done : Bool
  /-- The path stands in a longer text: what cannot continue a complete path ends it. -/
  embedded : Bool
deriving DecidableEq, Repr

def isNameStart (c : Char) : Bool :=
  c.isAlpha || c == '_' || 128 ≤ c.toNat

def isNameChar (c : Char) : Bool :=
  c.isAlphanum || c == '_' || 128 ≤ c.toNat

def isNumberStart (c : Char) : Bool :=
  c == '-' || c.isDigit

/-- What the characters at a place turn out to be. -/
inductive Scan where
  | token (next : Reader)
  /-- No token starts here; blanks and a comma may have been passed. -/
  | nothing (at_ : Reader)
  | fault (error : PathError) (at_ : Reader)

namespace Reader

def start (path : String) : Reader :=
  ⟨path.toList, 0, none, [], .path, false, false⟩

def startEmbedded (text : String) : Reader :=
  { start text with embedded := true }

/-- The text of the token read last. -/
def text (r : Reader) : String := String.ofList r.lexeme

/-- Past a token that is written as its text. -/
def past (r : Reader) (token : Token) (lexeme rest : List Char) : Reader :=
  { r with
    rest := rest, position := r.position + byteLength lexeme, token := some token
    lexeme := lexeme }

/-- Past the spaces at the place. -/
def skipSpaces (r : Reader) : Reader :=
  { r with
    rest := r.rest.dropWhile (· == ' ')
    position := r.position + byteLength (r.rest.takeWhile (· == ' ')) }

def enter (r : Reader) (mode : Mode) : Reader := { r with mode := mode }

/-! ## Tokens by kind -/

/-- A string in single quotes, which holds no such quote. -/
def scanString (r : Reader) : Scan :=
  match r.rest with
  | '\'' :: cs =>
    match cs.dropWhile (· != '\'') with
    | [] => .fault (.unterminated .string r.position) r
    | _ :: rest =>
      let body := cs.takeWhile (· != '\'')
      .token { r.past .string body rest with position := r.position + byteLength body + 2 }
  | _ => .nothing r

/-- A minus sign at the place, if there is one, and what follows. -/
def splitMinus : List Char → List Char × List Char
  | '-' :: cs => (['-'], cs)
  | cs => ([], cs)

/-- A number: digits behind an optional minus sign, and where `fraction` allows it, more digits
behind a point. -/
def scanNumber (fraction : Bool) (r : Reader) : Scan :=
  let (sign, cs) := splitMinus r.rest
  let ds := cs.takeWhile Char.isDigit
  let rest := cs.dropWhile Char.isDigit
  if ds.isEmpty then .fault (.malformed r.position .digitsExpected) r
  else
    match fraction, rest with
    | true, '.' :: cs =>
      let fs := cs.takeWhile Char.isDigit
      if fs.isEmpty then
        .fault (.malformed (r.position + byteLength (sign ++ ds) + 1) .fractionExpected) r
      else .token (r.past .number (sign ++ ds ++ '.' :: fs) (cs.dropWhile Char.isDigit))
    | _, _ => .token (r.past .number (sign ++ ds) rest)

/-- A name behind `.` or `..`, or `*`. -/
def scanMember (r : Reader) : Scan :=
  match r.rest with
  | '*' :: rest => .token (r.past .wildcard ['*'] rest)
  | c :: cs =>
    if isNameStart c then
      .token (r.past .propertyName (c :: cs.takeWhile isNameChar) (cs.dropWhile isNameChar))
    else .nothing r
  | [] => .nothing r

def scanRegex (r : Reader) : Scan :=
  match Regex.cutLiteral? r.rest with
  | some (literal, rest) => .token (r.past .regex literal rest)
  | none => .fault (.unterminated .regex r.position) r

def scanEndFilter (r : Reader) : Scan :=
  match r.rest with
  | ']' :: rest => .token ((r.past .endFilter [']'] rest).enter r.mode.closed)
  | _ => .nothing r

def scanEndExpression (r : Reader) : Scan :=
  match r.rest, r.mode with
  | ')' :: rest, .operand => .token ((r.past .endExpression [')'] rest).enter .bracket)
  | _, _ => .nothing r

/-- What follows an operator in the text, if the operator stands there. One written in letters must
end where a name would end. -/
def afterOperator? (cs : List Char) (op : Operator) : Option (List Char) :=
  let symbol := op.symbol.toList
  let rest := cs.drop symbol.length
  if symbol.isPrefixOf cs then
    if Operator.words.contains op ∧ (rest.head?.map isNameChar).getD false then none
    else some rest
  else none

def scanOperator (r : Reader) : Scan :=
  let found := (Operator.signs ++ Operator.words).findSome? fun op =>
    (afterOperator? r.rest op).map fun rest => (op, rest)
  match found with
  | some (op, rest) => .token (r.past (.operator op) op.symbol.toList rest)
  | none => .nothing r

/-! ## Tokens by place -/

/-- Behind a value: the next step, and in an expression its end or an operator. -/
def scanAfterNode (r : Reader) : Scan :=
  match r.rest with
  | '.' :: '.' :: rest => .token (r.past .deepScan ['.', '.'] rest)
  | '.' :: rest => .token (r.past .child ['.'] rest)
  | '[' :: rest => .token ((r.past .startFilter ['['] rest).enter r.mode.opened)
  | ')' :: _ => if r.mode = .operand then scanEndExpression r else .nothing r
  | _ => if r.mode = .operand then scanOperator r else .nothing r

/-- Behind `[`. -/
def scanFilterStart (r : Reader) : Scan :=
  match r.rest with
  | '\'' :: _ => scanString r
  | ':' :: rest => .token (r.past .slice [':'] rest)
  | '*' :: rest => .token (r.past .wildcard ['*'] rest)
  | '?' :: '(' :: rest =>
    if r.mode.inExpression then .fault (.malformed r.position .nestedFilter) r
    else .token ((r.past .startExpression ['?', '('] rest).enter .operand)
  | c :: _ => if isNumberStart c then scanNumber false r else .nothing r
  | [] => .nothing r

/-- An item of a list of operands. -/
def scanListItem (r : Reader) : Scan :=
  match r.rest with
  | '\'' :: _ => scanString r
  | c :: _ => if isNumberStart c then scanNumber true r else .nothing r
  | [] => .nothing r

/-- Behind `[` of a list of operands. -/
def scanListStart (r : Reader) : Scan :=
  match r.rest with
  | ']' :: rest => .token ((r.past .endList [']'] rest).enter .operand)
  | _ => scanListItem r

/-- Past a comma and the spaces behind it. -/
def pastComma (r : Reader) (rest : List Char) : Reader :=
  skipSpaces { r with rest := rest, position := r.position + 1 }

/-- Behind a string or a number: a further one of the list, the rest of a slice, or an end. -/
def scanAfterLiteral (r : Reader) (isNumber : Bool) : Scan :=
  if r.mode = .list then
    match r.rest with
    | ',' :: rest => scanListItem (r.pastComma rest)
    | ']' :: rest => .token ((r.past .endList [']'] rest).enter .operand)
    | _ => .nothing r
  else if r.mode.inBracket then
    match r.rest with
    | ',' :: rest =>
      let next := r.pastComma rest
      match isNumber, next.rest with
      | false, '\'' :: _ => scanString next
      | true, c :: _ => if isNumberStart c then scanNumber false next else .nothing next
      | _, _ => .nothing next
    | ':' :: rest => if isNumber then .token (r.past .slice [':'] rest) else .nothing r
    | _ => scanEndFilter r
  else scanEndExpression r

/-- Behind `:` of a slice. -/
def scanAfterSlice (r : Reader) : Scan :=
  match r.rest with
  | c :: _ => if isNumberStart c then scanNumber false r else scanEndFilter r
  | [] => .nothing r

/-- The left side of an expression. -/
def scanOperandPath (r : Reader) : Scan :=
  match r.rest with
  | '@' :: rest => .token (r.past .current ['@'] rest)
  | '$' :: rest => .token (r.past .root ['$'] rest)
  | _ => .nothing r

/-- The right side of an operator. -/
def scanOperand (r : Reader) : Scan :=
  match r.rest with
  | '@' :: _ => scanOperandPath r
  | '$' :: _ => scanOperandPath r
  | '\'' :: _ => scanString r
  | '/' :: _ => scanRegex r
  | '[' :: rest => .token ((r.past .startList ['['] rest).enter .list)
  | c :: _ => if isNumberStart c then scanNumber true r else .nothing r
  | [] => .nothing r

def scanRoot (r : Reader) : Scan :=
  match r.rest with
  | '$' :: rest => .token (r.past .root ['$'] rest)
  | _ => .nothing r

/-- The token at the place, by the token in front of it. -/
def scan (r : Reader) : Scan :=
  match r.token with
  | none => scanRoot r
  | some .root | some .current | some .propertyName | some .endFilter => scanAfterNode r
  | some .wildcard => if r.mode.inBracket then scanEndFilter r else scanAfterNode r
  | some .child | some .deepScan => scanMember r
  | some .startFilter => scanFilterStart r
  | some .string => scanAfterLiteral r false
  | some .number => scanAfterLiteral r true
  | some .slice => scanAfterSlice r
  | some .startExpression => scanOperandPath r
  | some (.operator .isEmpty) => scanEndExpression r
  | some (.operator _) => scanOperand r
  | some .regex | some .endList => scanEndExpression r
  | some .startList => scanListStart r
  | some .endExpression => scanEndFilter r

/-! ## Reading -/

/-- Whether the path may end at the place. -/
def isComplete (r : Reader) : Bool :=
  r.mode == .path &&
    match r.token with
    | some .root | some .propertyName | some .wildcard | some .endFilter => true
    | _ => false

/-- What is wrong with a path that ends at the place. -/
def endFault (r : Reader) : PathError :=
  if r.mode.inExpression then .unterminated .expression r.position
  else if r.mode.inBracket then .unterminated .filter r.position
  else .malformed r.position .endOfPath

/-- Read one token. The answer is whether there was one; a complete path has none left, and neither
has a path that broke off before. -/
def read (r : Reader) : Except PathError Bool × Reader :=
  if r.done then (.ok false, r)
  else
    let r := if r.mode = .path then r else r.skipSpaces
    match r.rest with
    | [] => (if r.isComplete then .ok false else .error r.endFault, { r with done := true })
    | c :: _ =>
      match r.scan with
      | .token next => (.ok true, next)
      | .fault e at_ => (.error e, at_)
      | .nothing at_ =>
        if r.embedded && r.isComplete then (.ok false, { r with done := true })
        else (.error (.malformed r.position (.unexpectedCharacter c)), at_)

end Reader

end Stencil.Path
