import Stencil.Path.Evaluate
import Stencil.Slot.Token

/-!
# Reading slot text token by token

A lexer is a place in a text and the token in front of it, which decides what may come next. A token
that cannot be read leaves the lexer where it was, or past the blanks in front of the fault, or one
byte past the character behind a quoted text that is none of `?`, `:` and the closing brace. One
byte past a longer character there is nothing to read.
-/

namespace Stencil.Slot

open Text (byteLength)

structure Lexer where
  /-- What has not been read. -/
  rest : List Char
  /-- How many bytes have been read. -/
  position : Nat
  /-- The token read last. -/
  last : Option Token
  /-- The first byte of the rest has been read, the rest of its character has not. -/
  inside : Bool
deriving DecidableEq, Repr

/-- The blanks within a slot. -/
def isSpace (c : Char) : Bool :=
  c == ' ' || c == '\t' || c == '\n' || c == '\r' || c == '\x0c'

def isNameStart (c : Char) : Bool := c.isAlpha || c == '_'

def isNameChar (c : Char) : Bool := c.isAlphanum || c == '_'

/-- The characters that a reference can start with. -/
def isReferenceStart (c : Char) : Bool := c == '$' || c == '/' || isNameStart c

/-- The characters that end a format. -/
def endsFormat (c : Char) : Bool :=
  c == ' ' || c == '\x7d' || c == ':' || c == '=' || c == '!' || c == '<' || c == '>' || c == '?'

/-- The characters that end an HTML path outside of its predicates. -/
def endsHtmlPath (c : Char) : Bool := endsFormat c

/-- The HTML path at the start of the characters, and the rest. Within brackets, `depth` of which
are open, nothing ends it, and a quote there hides brackets up to the same quote. The flag says
whether all brackets and quotes were closed. -/
def htmlPath (depth : Nat) (quote : Option Char) : List Char → List Char × List Char × Bool
  | [] => ([], [], depth == 0 && quote.isNone)
  | c :: cs =>
    let next (depth : Nat) (quote : Option Char) : List Char × List Char × Bool :=
      let (path, rest, closed) := htmlPath depth quote cs
      (c :: path, rest, closed)
    match quote with
    | some q => next depth (if c = q then none else some q)
    | none =>
      if (c = '\'' ∨ c = '"') ∧ 0 < depth then next depth (some c)
      else if c = '[' then next (depth + 1) none
      else if c = ']' then next (depth - 1) none
      else if depth = 0 ∧ endsHtmlPath c then ([], c :: cs, true)
      else next depth none

/-- The characters of the first `n` bytes, and the rest. -/
def splitBytes : Nat → List Char → List Char × List Char
  | _, [] => ([], [])
  | n, c :: cs =>
    if n < c.utf8Size then ([], c :: cs)
    else
      let (front, rest) := splitBytes (n - c.utf8Size) cs
      (c :: front, rest)

namespace Lexer

def start (text : String) : Lexer := ⟨text.toList, 0, none, false⟩

/-- Past characters that are no token. -/
def skip (l : Lexer) (cs rest : List Char) : Lexer :=
  { l with rest := rest, position := l.position + byteLength cs }

def skipSpaces (l : Lexer) : Lexer :=
  l.skip (l.rest.takeWhile isSpace) (l.rest.dropWhile isSpace)

/-- A token, and the lexer past the characters that write it. -/
def emit (l : Lexer) (t : Token) (cs rest : List Char) : Except SlotError (Option Token) × Lexer :=
  (.ok (some t), { l.skip cs rest with last := some t })

def fail (l : Lexer) (fault : Fault) : Except SlotError (Option Token) × Lexer :=
  (.error (.malformed l.position fault), l)

/-- A piece of literal text, or the start of a slot. A brace that cannot open a slot is text. -/
def readText (l : Lexer) : Except SlotError (Option Token) × Lexer :=
  match l.rest with
  | [] => (.ok none, l)
  | '\x7b' :: '\x7b' :: rest => l.emit (.text "\x7b") ['\x7b', '\x7b'] rest
  | '\x7d' :: '\x7d' :: rest => l.emit (.text "\x7d") ['\x7d', '\x7d'] rest
  | '\x7b' :: rest =>
    match rest.dropWhile isSpace with
    | c :: _ =>
      if isReferenceStart c then l.emit .start ['\x7b'] rest
      else l.emit (.text "\x7b") ['\x7b'] rest
    | [] => l.emit (.text "\x7b") ['\x7b'] rest
  | '\x7d' :: rest => l.emit (.text "\x7d") ['\x7d'] rest
  | cs =>
    let isPlain (c : Char) : Bool := c != '\x7b' && c != '\x7d'
    l.emit (.text (String.ofList (cs.takeWhile isPlain))) (cs.takeWhile isPlain)
      (cs.dropWhile isPlain)

/-- The reference of a slot. A path ends where it cannot go on. -/
def readReference (l : Lexer) : Except SlotError (Option Token) × Lexer :=
  let l := l.skipSpaces
  match l.rest with
  | '$' :: cs =>
    match Path.embeddedLength (String.ofList l.rest) with
    | .error e => (.error (.path e), l)
    | .ok n =>
      let (path, rest) := splitBytes (n - 1) cs
      l.emit (.reference (String.ofList ('$' :: path))) ('$' :: path) rest
  | '/' :: _ =>
    let (path, rest, closed) := htmlPath 0 none l.rest
    if closed then l.emit (.reference (String.ofList path)) path rest else l.fail .openPredicate
  | c :: cs =>
    if isNameStart c then
      let name := c :: cs.takeWhile isNameChar
      l.emit (.reference (String.ofList name)) name (cs.dropWhile isNameChar)
    else l.fail (.unexpectedCharacter c)
  | [] => l.fail (.unexpectedCharacter ' ')

/-- A format behind its colon. -/
def readFormat (l : Lexer) (cs : List Char) : Except SlotError (Option Token) × Lexer :=
  let spec := cs.takeWhile fun c => !endsFormat c
  if spec.isEmpty then (.error (.malformed (l.position + 1) .emptyFormat), l)
  else l.emit (.format (String.ofList spec)) (':' :: spec) (cs.dropWhile fun c => !endsFormat c)

/-- A regular expression behind its colon. -/
def readMatch (l : Lexer) (cs : List Char) : Except SlotError (Option Token) × Lexer :=
  match Regex.cutLiteral? cs with
  | some (literal, rest) => l.emit (.match_ (String.ofList literal)) (':' :: literal) rest
  | none => (.error (.malformed (l.position + 1) .openRegex), l)

/-- A range behind its bracket. -/
def readSubstring (l : Lexer) (cs : List Char) : Except SlotError (Option Token) × Lexer :=
  let range := cs.takeWhile (· != ']')
  match cs.dropWhile (· != ']') with
  | _ :: rest =>
    l.emit (.substring (String.ofList range)) (':' :: '[' :: range ++ [']']) rest
  | [] => (.error (.malformed (l.position + 2) .openRange), l)

def readOperator (l : Lexer) : Except SlotError (Option Token) × Lexer :=
  match l.rest with
  | '=' :: '=' :: rest => l.emit (.operator .equal) ['=', '='] rest
  | '!' :: '=' :: rest => l.emit (.operator .notEqual) ['!', '='] rest
  | '<' :: '=' :: rest => l.emit (.operator .lessEq) ['<', '='] rest
  | '>' :: '=' :: rest => l.emit (.operator .greaterEq) ['>', '='] rest
  | '<' :: rest => l.emit (.operator .less) ['<'] rest
  | '>' :: rest => l.emit (.operator .greater) ['>'] rest
  | _ => l.fail .comparisonExpected

/-- Behind a reference or a modifier: a modifier, a condition or the end of the slot. -/
def readModifier (l : Lexer) : Except SlotError (Option Token) × Lexer :=
  let l := l.skipSpaces
  match l.rest with
  | [] => l.fail .notTerminated
  | '\x7d' :: rest => l.emit .stop ['\x7d'] rest
  | '?' :: rest => l.emit .condition ['?'] rest
  | ':' :: '/' :: rest => l.readMatch ('/' :: rest)
  | ':' :: '[' :: rest => l.readSubstring rest
  | ':' :: rest => l.readFormat rest
  | c :: _ =>
    if c = '=' ∨ c = '!' ∨ c = '<' ∨ c = '>' then l.readOperator
    else l.fail (.unexpectedCharacter c)

/-- Text in single quotes. -/
def readLiteral (l : Lexer) : Except SlotError (Option Token) × Lexer :=
  let l := l.skipSpaces
  match l.rest with
  | [] => l.fail .notTerminated
  | '\'' :: cs =>
    let body := cs.takeWhile (· != '\'')
    match cs.dropWhile (· != '\'') with
    | _ :: rest => l.emit (.literal (String.ofList body)) ('\'' :: body ++ ['\'']) rest
    | [] => l.fail .openQuote
  | _ => l.fail .quoteExpected

/-- Behind text in quotes. -/
def readAfterLiteral (l : Lexer) : Except SlotError (Option Token) × Lexer :=
  if l.inside then l.fail .insideCharacter
  else
    let l := l.skipSpaces
    match l.rest with
    | [] => l.fail .notTerminated
    | '?' :: rest => l.emit .condition ['?'] rest
    | ':' :: rest => l.emit .else_ [':'] rest
    | '\x7d' :: rest => l.emit .stop ['\x7d'] rest
    | c :: rest =>
      let past := { l with position := l.position + 1 }
      (.error (.malformed l.position (.unexpectedCharacter c)),
        if c.utf8Size = 1 then { past with rest := rest } else { past with inside := true })

/-- The next token: none at the end of the text. -/
def next (l : Lexer) : Except SlotError (Option Token) × Lexer :=
  match l.last with
  | none | some (.text _) | some .stop => l.readText
  | some .start => l.readReference
  | some (.reference _) | some (.format _) | some (.match_ _) | some (.substring _) =>
    l.readModifier
  | some (.operator _) | some .condition | some .else_ => l.readLiteral
  | some (.literal _) => l.readAfterLiteral

end Lexer

end Stencil.Slot
