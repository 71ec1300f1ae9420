import Stencil.Proofs.Regex.Literals
import Stencil.Slot.Lexer

/-!
# Reading slot text in place

A cursor reads as a lexer does, but it does not take the text apart: its place is an offset into the
bytes, and so are the ends of the pieces that it cuts. A byte beyond the end of the text has no
answer, and neither has a slice that does not start and end on boundaries.
-/

namespace Stencil.Slot

open Text (byteAt? byteLength passing slice?)

structure Cursor where
  /-- The offset of the next byte. -/
  position : Nat
  /-- The token read last. -/
  last : Option Token
deriving DecidableEq, Repr

/-- What a call answers, and the cursor behind it. -/
abbrev Call := Except SlotError (Option Token) × Cursor

/-- The offset behind the characters of a kind, in what follows the offset. -/
def behind? (text : String) (p : Char → Bool) (i : Nat) : Option Nat :=
  (slice? text i text.utf8ByteSize).map fun rest => i + byteLength (rest.toList.takeWhile p)

/-- How many brackets of an HTML path are open behind the byte, and in which quote it stands. None if
the path ends in front of the byte. -/
def htmlStep (depth : Nat) (quote : Option Char) (b : Char) : Option (Nat × Option Char) :=
  match quote with
  | some q => some (depth, if b = q then none else some q)
  | none =>
    if (b = '\'' ∨ b = '"') ∧ 0 < depth then some (depth, some b)
    else if b = '[' then some (depth + 1, none)
    else if b = ']' then some (depth - 1, none)
    else if depth = 0 ∧ endsHtmlPath b then none
    else some (depth, none)

/-- The offset behind an HTML path of which the part in front of `i` has been passed. None if a
bracket or a quote is never closed. -/
def htmlPathEnd? (text : String) (depth : Nat) (quote : Option Char) (i : Nat) : Option Nat :=
  match _h : byteAt? text i with
  | none => if depth = 0 ∧ quote = none then some i else none
  | some b =>
    match htmlStep depth quote b with
    | none => some i
    | some (depth, quote) => htmlPathEnd? text depth quote (i + 1)
termination_by text.utf8ByteSize - i
decreasing_by
  have := Text.lt_of_byteAt? _h
  omega

namespace Cursor

def start : Cursor := ⟨0, none⟩

/-- A token, and the place behind it. -/
def past (t : Token) (behind : Nat) : Call := (.ok (some t), ⟨behind, some t⟩)

section

variable (text : String) (c : Cursor)

def fail (p : Nat) (fault : Fault) : Call := (.error (.malformed p fault), c)

/-- The character at the offset is not expected. -/
def unexpected (p : Nat) : Option Call :=
  (slice? text p text.utf8ByteSize).map fun rest =>
    c.fail p (.unexpectedCharacter (rest.toList.head?.getD ' '))

/-- A token that holds a slice of the text. -/
def piece? (kind : String → Token) (start stop behind : Nat) : Option Call :=
  (slice? text start stop).map fun s => past (kind s) behind

def skipSpaces : Cursor := { c with position := passing text isSpace c.position }

def readText : Option Call :=
  match byteAt? text c.position with
  | none => some (.ok none, c)
  | some b =>
    if b = '\x7b' ∨ b = '\x7d' then
      let next := c.position + 1
      if byteAt? text next = some b then piece? text .text c.position next (next + 1)
      else if b = '\x7b' ∧ (byteAt? text (passing text isSpace next)).any isReferenceStart then
        some (past .start next)
      else piece? text .text c.position next next
    else
      (behind? text (fun d => d != '\x7b' && d != '\x7d') c.position).bind fun stop =>
        piece? text .text c.position stop stop

def readReference : Option Call :=
  let c := c.skipSpaces text
  match byteAt? text c.position with
  | none => c.unexpected text c.position
  | some b =>
    if b = '$' then
      (slice? text c.position text.utf8ByteSize).bind fun rest =>
        match Path.embeddedLength rest with
        | .error e => some (.error (.path e), c)
        | .ok n =>
          piece? text .reference c.position (c.position + n) (c.position + n)
    else if b = '/' then
      match htmlPathEnd? text 0 none c.position with
      | some stop => piece? text .reference c.position stop stop
      | none => some (c.fail c.position .openPredicate)
    else if isNameStart b then
      let stop := passing text isNameChar (c.position + 1)
      piece? text .reference c.position stop stop
    else c.unexpected text c.position

/-- A format that starts at the offset. -/
def readFormat (p : Nat) : Option Call :=
  (behind? text (fun d => !endsFormat d) p).bind fun stop =>
    if stop = p then some (c.fail p .emptyFormat) else piece? text .format p stop stop

/-- A regular expression that starts at the offset. -/
def readMatch (p : Nat) : Option Call :=
  match Regex.literalEnd? text p with
  | some stop => piece? text .match_ p stop stop
  | none => some (c.fail p .openRegex)

/-- A range that starts at the offset. -/
def readSubstring (p : Nat) : Option Call :=
  (behind? text (· != ']') p).bind fun stop =>
    if stop < text.utf8ByteSize then piece? text .substring p stop (stop + 1)
    else some (c.fail p .openRange)

/-- A comparison that starts with the byte. -/
def readOperator (b : Char) : Call :=
  let isLonger := byteAt? text (c.position + 1) = some '='
  let longer (op : Comparison) := past (.operator op) (c.position + 2)
  if b = '=' ∧ isLonger then longer .equal
  else if b = '!' ∧ isLonger then longer .notEqual
  else if b = '<' ∧ isLonger then longer .lessEq
  else if b = '>' ∧ isLonger then longer .greaterEq
  else if b = '<' then past (.operator .less) (c.position + 1)
  else if b = '>' then past (.operator .greater) (c.position + 1)
  else c.fail c.position .comparisonExpected

def readModifier : Option Call :=
  let c := c.skipSpaces text
  match byteAt? text c.position with
  | none => some (c.fail c.position .notTerminated)
  | some b =>
    if b = '\x7d' then some (past .stop (c.position + 1))
    else if b = '?' then some (past .condition (c.position + 1))
    else if b = ':' then
      if byteAt? text (c.position + 1) = some '/' then c.readMatch text (c.position + 1)
      else if byteAt? text (c.position + 1) = some '[' then c.readSubstring text (c.position + 2)
      else c.readFormat text (c.position + 1)
    else if b = '=' ∨ b = '!' ∨ b = '<' ∨ b = '>' then some (c.readOperator text b)
    else c.unexpected text c.position

def readLiteral : Option Call :=
  let c := c.skipSpaces text
  match byteAt? text c.position with
  | none => some (c.fail c.position .notTerminated)
  | some b =>
    if b = '\'' then
      (behind? text (· != '\'') (c.position + 1)).bind fun stop =>
        if stop < text.utf8ByteSize then piece? text .literal (c.position + 1) stop (stop + 1)
        else some (c.fail c.position .openQuote)
    else some (c.fail c.position .quoteExpected)

/-- The place moves on before the byte is looked at. -/
def readAfterLiteral : Option Call :=
  let c := c.skipSpaces text
  match byteAt? text c.position with
  | none => some (c.fail c.position .notTerminated)
  | some b =>
    let next := { c with position := c.position + 1 }
    if b = '?' then some (past .condition next.position)
    else if b = ':' then some (past .else_ next.position)
    else if b = '\x7d' then some (past .stop next.position)
    else next.unexpected text c.position

def next : Option Call :=
  match c.last with
  | none | some (.text _) | some .stop => c.readText text
  | some .start => c.readReference text
  | some (.reference _) | some (.format _) | some (.match_ _) | some (.substring _) =>
    c.readModifier text
  | some (.operator _) | some .condition | some .else_ => c.readLiteral text
  | some (.literal _) => c.readAfterLiteral text

/-- The cursor behind a number of calls, whatever came of them. -/
def after? : Nat → Option Cursor
  | 0 => some c
  | n + 1 => (after? n).bind fun next => (next.next text).map Prod.snd

end

end Cursor

end Stencil.Slot
