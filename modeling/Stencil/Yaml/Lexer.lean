import Stencil.Text.Split
import Stencil.Yaml.Scalar

/-!
# The tokens of a text

The text of a stream of documents, cut into tokens. A token that could be a key is remembered until
a colon shows that it is one; the mark of the key, and the start of a block mapping where one
starts, are then put in front of it. Indentation opens and ends block collections.
-/

namespace Stencil.Yaml

/-- A token that a colon would make a key. -/
structure PossibleKey where
  /-- How many tokens stand in front of it. -/
  place : Nat
  line : Nat
  index : Nat
  column : Nat
  /-- It starts a line of the innermost block collection, so that it has to be a key. -/
  required : Bool

structure Lexer where
  cursor : Cursor
  tokens : List Token
  /-- The column of the innermost block collection, -1 outside of all. -/
  indent : Int
  outerIndents : List Int
  /-- One for each flow collection around, and one for the block collections. -/
  keys : List (Option PossibleKey)
  keyAllowed : Bool
  /-- A version of the language was given. -/
  versioned : Bool
  /-- The handles of tags that the document sets, and what they stand for. -/
  handles : List (List Char × List Char)

namespace Lexer

def start (cs : List Char) : Lexer := ⟨.start cs, [], -1, [], [none], true, false, []⟩

def inFlow (l : Lexer) : Bool := 1 < l.keys.length

def column (l : Lexer) : Int := l.cursor.column

def emit (l : Lexer) (t : Token) : Lexer := { l with tokens := l.tokens ++ [t] }

def skip (l : Lexer) (n : Nat) : Lexer := { l with cursor := l.cursor.skip n }

/-- The longest distance between a key and its colon. -/
def maxKeyLength : Nat := 1024

/-! ## Indentation -/

/-- Open a block collection at a column, its token standing at a place. -/
def rollIndent (l : Lexer) (column : Int) (place : Nat) (t : Token) : Lexer :=
  if l.inFlow ∨ column ≤ l.indent then l
  else
    { l with
      tokens := l.tokens.insertIdx place t
      indent := column
      outerIndents := l.indent :: l.outerIndents }

/-- The block collections right of a column, innermost first, end. -/
def unrollTo (column : Int) : List Int → Int → List Token → Int × List Int × List Token
  | [], indent, tokens => (indent, [], tokens)
  | outer :: outers, indent, tokens =>
    if column < indent then unrollTo column outers outer (tokens ++ [.blockEnd])
    else (indent, outer :: outers, tokens)

def unrollIndent (l : Lexer) (column : Int) : Lexer :=
  if l.inFlow then l
  else
    let (indent, outerIndents, tokens) := unrollTo column l.outerIndents l.indent l.tokens
    { l with indent := indent, outerIndents := outerIndents, tokens := tokens }

/-! ## Possible keys -/

/-- Forget the possible key of the innermost collection. -/
def dropKey (l : Lexer) : Option Lexer :=
  match l.keys with
  | some key :: keys => if key.required then none else some { l with keys := none :: keys }
  | _ => some l

/-- Remember that the next token could be a key. -/
def saveKey (l : Lexer) : Option Lexer :=
  if l.keyAllowed then do
    let l ← l.dropKey
    let key : PossibleKey :=
      { place := l.tokens.length
        line := l.cursor.line
        index := l.cursor.index
        column := l.cursor.column
        required := !l.inFlow && l.indent == l.column }
    some { l with keys := some key :: l.keys.tail }
  else some l

/-- Forget keys that their colon would be too far from. -/
def dropStaleKeys (l : Lexer) : Option Lexer := do
  let keys ← l.keys.mapM fun key? =>
    match key? with
    | some key =>
      if key.line < l.cursor.line || key.index + maxKeyLength < l.cursor.index then
        if key.required then none else some none
      else some (some key)
    | none => some none
  some { l with keys := keys }

/-! ## Single tokens -/

/-- Pass blanks, comments and line breaks. -/
def toNextToken : Nat → Lexer → Lexer
  | 0, l => l
  | fuel + 1, l =>
    let tabs := l.inFlow || !l.keyAllowed
    let c := l.cursor.skipWhile fun x => x == ' ' || (tabs && x == '\t')
    let c := if c.rest.head? == some '#' then c.skipWhile fun x => !isBreak x else c
    if c.atBreak then
      let (_, c) := c.nextLine
      toNextToken fuel { l with cursor := c, keyAllowed := l.keyAllowed || !l.inFlow }
    else { l with cursor := c }

def readDocumentMark (l : Lexer) (t : Token) : Option Lexer := do
  let l ← (l.unrollIndent (-1)).dropKey
  some (({ l with keyAllowed := false }.emit t).skip 3)

def readFlowStart (l : Lexer) (t : Token) : Option Lexer := do
  let l ← l.saveKey
  some (({ l with keys := none :: l.keys, keyAllowed := true }.emit t).skip 1)

def readFlowEnd (l : Lexer) (t : Token) : Option Lexer := do
  let l ← l.dropKey
  let keys := match l.keys with
    | _ :: key :: keys => key :: keys
    | keys => keys
  some (({ l with keys := keys, keyAllowed := false }.emit t).skip 1)

def readFlowEntry (l : Lexer) : Option Lexer := do
  let l ← l.dropKey
  some (({ l with keyAllowed := true }.emit .flowEntry).skip 1)

def readBlockEntry (l : Lexer) : Option Lexer :=
  if !l.inFlow && !l.keyAllowed then none
  else do
    let l ← (l.rollIndent l.column l.tokens.length .blockSequenceStart).dropKey
    some (({ l with keyAllowed := true }.emit .blockEntry).skip 1)

def readKey (l : Lexer) : Option Lexer :=
  if !l.inFlow && !l.keyAllowed then none
  else do
    let l ← (l.rollIndent l.column l.tokens.length .blockMappingStart).dropKey
    some (({ l with keyAllowed := !l.inFlow }.emit .key).skip 1)

/-- The colon behind a key. -/
def readValue (l : Lexer) : Option Lexer :=
  match l.keys with
  | some key :: keys =>
    let l := { l with tokens := l.tokens.insertIdx key.place .key }
    let l := l.rollIndent key.column key.place .blockMappingStart
    some (({ l with keys := none :: keys, keyAllowed := false }.emit .value).skip 1)
  | _ =>
    if l.inFlow then some (({ l with keyAllowed := false }.emit .value).skip 1)
    else if l.keyAllowed then
      let l := l.rollIndent l.column l.tokens.length .blockMappingStart
      some (({ l with keyAllowed := true }.emit .value).skip 1)
    else none

/-- Characters of the names of anchors. -/
def isNameChar (c : Char) : Bool := c.isAlphanum || c == '-' || c == '_'

/-- What may follow the name of an anchor. -/
def endsName (cs : List Char) : Bool :=
  endsWord cs ||
    (cs.head?.map fun c => ['?', ':', ',', ']', '\x7d', '%', '@', '\x60'].contains c).getD false

def readName (l : Lexer) (token : String → Token) : Option Lexer := do
  let l ← l.saveKey
  let name := (l.cursor.rest.drop 1).takeWhile isNameChar
  if name.isEmpty || !endsName (l.cursor.rest.drop (name.length + 1)) then none
  else
    let l := { l with keyAllowed := false }.emit (token (String.ofList name))
    some (l.skip (name.length + 1))

/-! ## Tags and directives -/

/-- Characters of tags. Some more may stand in those that are written in full. -/
def isTagChar (full : Bool) (c : Char) : Bool :=
  isNameChar c || [';', '/', '?', ':', '@', '&', '=', '+', '$', '.', '!', '~', '*', '\'', '(', ')',
    '%'].contains c || (full && [',', '[', ']'].contains c)

/-- The handle that a tag starts with: exclamation marks around a name, or one alone. -/
def tagHandle (word : List Char) : List Char :=
  let name := (word.drop 1).takeWhile isNameChar
  if (word.drop (name.length + 1)).head? = some '!' then word.take (name.length + 2) else ['!']

/-- What a handle stands for, unless the document says otherwise. -/
def knownHandles : List (List Char × List Char) := [(['!', '!'], coreStart), (['!'], ['!'])]

/-- The full name of a tag: what its handle stands for with the rest of it. -/
def tagName? (l : Lexer) (word : List Char) : Option (List Char) :=
  let handle := tagHandle word
  let rest := word.drop handle.length
  if word = ['!'] then some word
  else if rest.isEmpty then none
  else ((l.handles ++ knownHandles).lookup handle).map (· ++ rest)

def readTag (l : Lexer) : Option Lexer := do
  let l ← l.saveKey
  let l := { l with keyAllowed := false }
  match l.cursor.rest with
  | '!' :: '<' :: cs =>
    let name := cs.takeWhile (isTagChar true)
    match cs.drop name.length with
    | '>' :: rest =>
      if name.isEmpty || !endsWord rest then none
      else some ((l.emit (.tag (.ofName name))).skip (name.length + 3))
    | _ => none
  | _ =>
    let word := l.cursor.rest.takeWhile (isTagChar false)
    let rest := l.cursor.rest.drop word.length
    if !endsWord rest && !(l.inFlow && rest.head? == some ',') then none
    else
      let name ← l.tagName? word
      some ((l.emit (.tag (.ofName name))).skip word.length)

/-- The words of a line in front of its comment. -/
def lineWords (line : List Char) : List (List Char) :=
  let line := line.map fun c => if c = '\t' then ' ' else c
  ((Text.splitAt ' ' line).filter (!·.isEmpty)).takeWhile fun word => word.head? != some '#'

/-- A version of the language that is read here. -/
def isKnownVersion (word : List Char) : Bool :=
  match Text.splitAt '.' word with
  | [major, minor] =>
    let number (cs : List Char) : Nat :=
      if cs.isEmpty || !cs.all Char.isDigit || 9 < cs.length then 0 else Text.natOfDigits cs
    number major == 1 && (number minor == 1 || number minor == 2)
  | _ => false

/-- Whether a text is a handle of tags. -/
def isHandle (word : List Char) : Bool := word.head? == some '!' && tagHandle word == word

/-- The directive of a line, which gives the version once or the meaning of a handle. -/
def directive? (l : Lexer) (words : List (List Char)) : Option Lexer :=
  match words with
  | [['%', 'Y', 'A', 'M', 'L'], version] =>
    if l.versioned || !isKnownVersion version then none else some { l with versioned := true }
  | [['%', 'T', 'A', 'G'], handle, start] =>
    if (l.handles.lookup handle).isSome || !isHandle handle || !start.all (isTagChar true) then none
    else some { l with handles := (handle, start) :: l.handles }
  | _ => none

def readDirective (l : Lexer) : Option Lexer := do
  let l ← (l.unrollIndent (-1)).dropKey
  let line := l.cursor.rest.takeWhile fun c => !isBreak c
  let l ← l.directive? (lineWords line)
  some (({ l with keyAllowed := false }.emit .directive).skip line.length)

def readBlockText (l : Lexer) (folded : Bool) : Option Lexer := do
  let l ← l.dropKey
  let (text, c) ← blockText folded l.indent (l.cursor.skip 1)
  some ({ l with cursor := c, keyAllowed := true }.emit (.scalar (String.ofList text) false))

def readQuoted (l : Lexer) (quote : Char) : Option Lexer := do
  let l ← l.saveKey
  let (text, c) ← quotedText quote (l.cursor.rest.length + 1) [] (l.cursor.skip 1)
  some ({ l with cursor := c, keyAllowed := false }.emit (.scalar (String.ofList text) false))

def readPlain (l : Lexer) : Option Lexer := do
  let l ← l.saveKey
  let indent := (l.indent + 1).toNat
  let (text, lineEnded, c) ←
    plainText l.inFlow indent (l.cursor.rest.length + 1) [] .empty l.cursor
  some ({ l with cursor := c, keyAllowed := lineEnded }.emit (.scalar (String.ofList text) true))

/-- Whether plain text can start with a character in front of a text. -/
def startsPlain (inFlow : Bool) (c : Char) (cs : List Char) : Bool :=
  if c = '-' then !(cs.head?.map isBlank).getD false
  else if c = '?' ∨ c = ':' then !inFlow && !endsWord cs
  else
    c ∉ ['[', ']', '\x7b', '\x7d', ',', '#', '&', '*', '!', '|', '>', '\'', '"', '%', '@',
      '\x60']

/-- The token at the cursor. -/
def readToken (l : Lexer) : Option Lexer :=
  match l.cursor.rest with
  | [] => some l
  | c :: cs =>
    if l.cursor.atDocumentMark '-' then l.readDocumentMark .documentStart
    else if l.cursor.atDocumentMark '.' then l.readDocumentMark .documentEnd
    else if l.cursor.column = 0 ∧ c = '%' then l.readDirective
    else if c = '[' then l.readFlowStart .flowSequenceStart
    else if c = '\x7b' then l.readFlowStart .flowMappingStart
    else if c = ']' then l.readFlowEnd .flowSequenceEnd
    else if c = '\x7d' then l.readFlowEnd .flowMappingEnd
    else if c = ',' then l.readFlowEntry
    else if c = '-' ∧ endsWord cs then l.readBlockEntry
    else if c = '?' ∧ (l.inFlow ∨ endsWord cs) then l.readKey
    else if c = ':' ∧ (l.inFlow ∨ endsWord cs) then l.readValue
    else if c = '*' then l.readName .alias
    else if c = '&' then l.readName .anchor
    else if c = '!' then l.readTag
    else if c = '|' ∧ !l.inFlow then l.readBlockText false
    else if c = '>' ∧ !l.inFlow then l.readBlockText true
    else if c = '\'' ∨ c = '"' then l.readQuoted c
    else if startsPlain l.inFlow c cs then l.readPlain
    else none

/-- The end of the text ends what is open. -/
def finish (l : Lexer) : Option (List Token) := do
  let l ← (l.unrollIndent (-1)).dropKey
  some l.tokens

/-- Read up to the end. Every token takes a character at least. -/
def readAll : Nat → Lexer → Option (List Token)
  | 0, _ => none
  | fuel + 1, l => do
    let l := toNextToken (l.cursor.rest.length + 1) l
    let l ← l.dropStaleKeys
    let l := l.unrollIndent l.column
    if l.cursor.rest.isEmpty then l.finish
    else
      let l ← l.readToken
      readAll fuel l

end Lexer

/-- The tokens of a text, none if it cannot be cut into tokens. -/
def tokens? (text : String) : Option (List Token) :=
  let cs := match text.toList with
    | c :: cs => if c.toNat = 0xFEFF then cs else c :: cs
    | [] => []
  if cs.all isAllowed then Lexer.readAll (cs.length + 2) (.start cs) else none

end Stencil.Yaml
