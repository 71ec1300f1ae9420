import Stencil.Proofs.Regex.Literals

/-!
# Reading a path in place

A cursor reads as a reader does, but it does not take the text apart: its place and the text of its
token are offsets into the bytes. A byte beyond the end of the text has no answer, and neither has a
slice that does not start and end on boundaries.
-/

namespace Stencil.Path

open Text (byteAt? byteLength passing slice?)

structure Cursor where
  /-- The offset of the next byte. -/
  position : Nat
  token : Option Token
  /-- Where the text of the token starts and ends. -/
  segment : Nat × Nat
  mode : Mode
  done : Bool
  embedded : Bool
deriving DecidableEq, Repr

/-- What the bytes at a place turn out to be. -/
inductive Sight where
  | token (next : Cursor)
  /-- No token starts here; blanks and a comma may have been passed. -/
  | nothing (at_ : Cursor)
  | fault (error : PathError) (at_ : Cursor)

namespace Cursor

def opened (embedded : Bool) : Cursor := ⟨0, none, (0, 0), .path, false, embedded⟩

/-- Past a token, to the place behind it. -/
def cut (c : Cursor) (token : Token) (start stop behind : Nat) : Cursor :=
  { c with position := behind, token := some token, segment := (start, stop) }

/-- Past a token of so many bytes. -/
def sign (c : Cursor) (token : Token) (width : Nat) : Cursor :=
  c.cut token c.position (c.position + width) (c.position + width)

def enter (c : Cursor) (mode : Mode) : Cursor := { c with mode := mode }

section

variable (text : String) (c : Cursor)

/-- The text of the token read last. -/
def text? : Option String := slice? text c.segment.1 c.segment.2

def skipSpaces : Cursor := { c with position := passing text (· == ' ') c.position }

/-! ## Tokens by kind -/

def scanString : Option Sight :=
  let start := c.position + 1
  (slice? text start text.utf8ByteSize).map fun _ =>
    let stop := passing text (· != '\'') start
    if stop < text.utf8ByteSize then .token (c.cut .string start stop (stop + 1))
    else .fault (.unterminated .string c.position) c

def scanNumber (fraction : Bool) : Option Sight :=
  (byteAt? text c.position).map fun b =>
    let digits := if b = '-' then c.position + 1 else c.position
    let point := passing text Char.isDigit digits
    if point = digits then .fault (.malformed c.position .digitsExpected) c
    else if fraction ∧ byteAt? text point = some '.' then
      let stop := passing text Char.isDigit (point + 1)
      if stop = point + 1 then .fault (.malformed stop .fractionExpected) c
      else .token (c.cut .number c.position stop stop)
    else .token (c.cut .number c.position point point)

def scanMember (b : Char) : Sight :=
  if b = '*' then .token (c.sign .wildcard 1)
  else if isNameStart b then
    let stop := passing text isNameChar (c.position + 1)
    .token (c.cut .propertyName c.position stop stop)
  else .nothing c

def scanRegex : Sight :=
  match Regex.literalEnd? text c.position with
  | some stop => .token (c.cut .regex c.position stop stop)
  | none => .fault (.unterminated .regex c.position) c

def scanEndFilter (b : Char) : Sight :=
  if b = ']' then .token ((c.sign .endFilter 1).enter c.mode.closed) else .nothing c

def scanEndExpression (b : Char) : Sight :=
  if b = ')' ∧ c.mode = .operand then .token ((c.sign .endExpression 1).enter .bracket)
  else .nothing c

/-- The operator stands at the start of what is left. One written in letters must end where a name
would end. -/
def opensWith (rest : String) (op : Operator) : Bool :=
  op.symbol.toList.isPrefixOf rest.toList &&
    !(Operator.words.contains op &&
      (byteAt? text (c.position + byteLength op.symbol.toList)).any isNameChar)

def scanOperator : Option Sight :=
  (slice? text c.position text.utf8ByteSize).map fun rest =>
    match (Operator.signs ++ Operator.words).find? (c.opensWith text rest) with
    | some op => .token (c.sign (.operator op) (byteLength op.symbol.toList))
    | none => .nothing c

/-! ## Tokens by place -/

def scanAfterNode (b : Char) : Option Sight :=
  if b = '.' then
    if byteAt? text (c.position + 1) = some '.' then some (.token (c.sign .deepScan 2))
    else some (.token (c.sign .child 1))
  else if b = '[' then some (.token ((c.sign .startFilter 1).enter c.mode.opened))
  else if c.mode = .operand then
    match c.scanEndExpression b with
    | .token next => some (.token next)
    | _ => c.scanOperator text
  else some (.nothing c)

def scanFilterStart (b : Char) : Option Sight :=
  if b = '\'' then c.scanString text
  else if b = ':' then some (.token (c.sign .slice 1))
  else if b = '*' then some (.token (c.sign .wildcard 1))
  else if b = '?' ∧ byteAt? text (c.position + 1) = some '(' then
    if c.mode.inExpression then some (.fault (.malformed c.position .nestedFilter) c)
    else some (.token ((c.sign .startExpression 2).enter .operand))
  else if isNumberStart b then c.scanNumber text false
  else some (.nothing c)

def scanListItem (b : Char) : Option Sight :=
  if b = '\'' then c.scanString text
  else if isNumberStart b then c.scanNumber text true
  else some (.nothing c)

def scanListStart (b : Char) : Option Sight :=
  if b = ']' then some (.token ((c.sign .endList 1).enter .operand)) else c.scanListItem text b

/-- Past a comma and the spaces behind it. -/
def pastComma : Cursor := skipSpaces text { c with position := c.position + 1 }

/-- An item, of the kind in front of the comma unless an operand is made of it. -/
def scanFurther (isNumber : Bool) : Option Sight :=
  match byteAt? text c.position with
  | none => some (.nothing c)
  | some b =>
    if c.mode = .list then c.scanListItem text b
    else if isNumber then
      if isNumberStart b then c.scanNumber text false else some (.nothing c)
    else if b = '\'' then c.scanString text
    else some (.nothing c)

def scanAfterLiteral (isNumber : Bool) (b : Char) : Option Sight :=
  if c.mode = .list then
    if b = ',' then (c.pastComma text).scanFurther text isNumber
    else if b = ']' then some (.token ((c.sign .endList 1).enter .operand))
    else some (.nothing c)
  else if c.mode.inBracket then
    if b = ',' then (c.pastComma text).scanFurther text isNumber
    else if b = ':' ∧ isNumber then some (.token (c.sign .slice 1))
    else some (c.scanEndFilter b)
  else some (c.scanEndExpression b)

def scanAfterSlice (b : Char) : Option Sight :=
  if isNumberStart b then c.scanNumber text false else some (c.scanEndFilter b)

def scanOperandPath (b : Char) : Sight :=
  if b = '@' then .token (c.sign .current 1)
  else if b = '$' then .token (c.sign .root 1)
  else .nothing c

def scanOperand (b : Char) : Option Sight :=
  if b = '@' ∨ b = '$' then some (c.scanOperandPath b)
  else if b = '\'' then c.scanString text
  else if b = '/' then some (c.scanRegex text)
  else if b = '[' then some (.token ((c.sign .startList 1).enter .list))
  else if isNumberStart b then c.scanNumber text true
  else some (.nothing c)

def scanRoot (b : Char) : Sight :=
  if b = '$' then .token (c.sign .root 1) else .nothing c

/-- The token at the place, by the token in front of it and the byte. -/
def scanByte (b : Char) : Option Sight :=
  match c.token with
  | none => some (c.scanRoot b)
  | some .root | some .current | some .propertyName | some .endFilter => c.scanAfterNode text b
  | some .wildcard =>
    if c.mode.inBracket then some (c.scanEndFilter b) else c.scanAfterNode text b
  | some .child | some .deepScan => some (c.scanMember text b)
  | some .startFilter => c.scanFilterStart text b
  | some .string => c.scanAfterLiteral text false b
  | some .number => c.scanAfterLiteral text true b
  | some .slice => c.scanAfterSlice text b
  | some .startExpression => some (c.scanOperandPath b)
  | some (.operator .isEmpty) => some (c.scanEndExpression b)
  | some (.operator _) => c.scanOperand text b
  | some .regex | some .endList => some (c.scanEndExpression b)
  | some .startList => c.scanListStart text b
  | some .endExpression => some (c.scanEndFilter b)

/-! ## Reading -/

/-- Whether the path may end at the place. -/
def isComplete : Bool :=
  c.mode == .path &&
    match c.token with
    | some .root | some .propertyName | some .wildcard | some .endFilter => true
    | _ => false

/-- What is wrong with a path that ends at the place. -/
def endFault : PathError :=
  if c.mode.inExpression then .unterminated .expression c.position
  else if c.mode.inBracket then .unterminated .filter c.position
  else .malformed c.position .endOfPath

/-- Read one token. In a longer text a path that may end goes back to where the scan began. -/
def read : Option (Except PathError Bool × Cursor) :=
  if c.done then some (.ok false, c)
  else
    let c := if c.mode = .path then c else c.skipSpaces text
    if text.utf8ByteSize ≤ c.position then
      some (if c.isComplete then .ok false else .error c.endFault, { c with done := true })
    else do
      let b ← byteAt? text c.position
      match ← c.scanByte text b with
      | .token next => some (.ok true, next)
      | .fault e at_ => some (.error e, at_)
      | .nothing at_ =>
        if at_.embedded && at_.isComplete then
          some (.ok false, { at_ with position := c.position, done := true })
        else do
          let rest ← slice? text c.position text.utf8ByteSize
          some (.error (.malformed c.position
            (.unexpectedCharacter (rest.toList.head?.getD ' '))), at_)

/-- The cursor behind a number of reads, whatever came of them. -/
def after? : Nat → Option Cursor
  | 0 => some c
  | n + 1 => (after? n).bind fun next => (next.read text).map Prod.snd

end

end Cursor

end Stencil.Path
