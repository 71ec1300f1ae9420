/-!
# Tokens of YAML

What the text of a document consists of. Brackets of flow collections are written; those of block
collections follow from indentation, and the mark of a key stands in front of it although the colon
behind the key gives it away.
-/

namespace Stencil.Yaml

/-- A tag in front of a value. -/
inductive Tag where
  /-- One of the types that every document knows, by its name. -/
  | core (name : String)
  /-- Any other tag of the world. -/
  | named (uri : String)
  /-- A type of the document's own. -/
  | custom
  /-- A lone exclamation mark, which leaves the type of a text open. -/
  | unspecific
deriving DecidableEq, Repr

/-- What the names of the core types stand behind. -/
def coreStart : List Char := "tag:yaml.org,2002:".toList

/-- The tag that its full name stands for. -/
def Tag.ofName (name : List Char) : Tag :=
  if coreStart.isPrefixOf name then .core (String.ofList (name.drop coreStart.length))
  else if name = ['!'] then .unspecific
  else if name.head? = some '!' then .custom
  else .named (String.ofList name)

inductive Token where
  | blockSequenceStart
  | blockMappingStart
  | blockEnd
  | flowSequenceStart
  | flowSequenceEnd
  | flowMappingStart
  | flowMappingEnd
  | blockEntry
  | flowEntry
  | key
  | value
  | alias (name : String)
  | anchor (name : String)
  | tag (tag : Tag)
  /-- Text, and whether it stands without quotes and other marks of a text. -/
  | scalar (text : String) (plain : Bool)
  /-- A line in front of a document that says how it is to be read. -/
  | directive
  | documentStart
  | documentEnd
deriving DecidableEq, Repr

/-! ## Characters -/

/-- Characters that end a line. -/
def isBreak (c : Char) : Bool :=
  c == '\n' || c == '\r' || c.toNat == 0x85 || c.toNat == 0x2028 || c.toNat == 0x2029

def isBlank (c : Char) : Bool := c == ' ' || c == '\t'

/-- Whether a text goes on with a blank or a line break, or ends. -/
def endsWord : List Char → Bool
  | [] => true
  | c :: _ => isBlank c || isBreak c

/-- Characters that a document may hold. -/
def isAllowed (c : Char) : Bool :=
  let n := c.toNat
  n == 9 || n == 10 || n == 13 || (32 ≤ n && n < 127) || n == 0x85 ||
    (0xA0 ≤ n && n ≤ 0xFFFD && n != 0xFEFF) || 0x10000 ≤ n

/-- A place in the text. -/
structure Cursor where
  rest : List Char
  index : Nat
  line : Nat
  column : Nat

namespace Cursor

def start (cs : List Char) : Cursor := ⟨cs, 0, 0, 0⟩

/-- Pass `n` characters of the line. -/
def skip (c : Cursor) (n : Nat) : Cursor :=
  { c with rest := c.rest.drop n, index := c.index + n, column := c.column + n }

/-- Pass the characters of the line that `p` holds of. -/
def skipWhile (c : Cursor) (p : Char → Bool) : Cursor := c.skip (c.rest.takeWhile p).length

/-- Pass a line break, if there is one, and say what it counts as in a text. -/
def nextLine (c : Cursor) : List Char × Cursor :=
  match c.rest with
  | '\r' :: '\n' :: rest => (['\n'], ⟨rest, c.index + 2, c.line + 1, 0⟩)
  | b :: rest =>
    if b.toNat == 0x2028 || b.toNat == 0x2029 then ([b], ⟨rest, c.index + 1, c.line + 1, 0⟩)
    else if isBreak b then (['\n'], ⟨rest, c.index + 1, c.line + 1, 0⟩)
    else ([], c)
  | [] => ([], c)

def atBreak (c : Cursor) : Bool := (c.rest.head?.map isBreak).getD false

def atBlank (c : Cursor) : Bool := (c.rest.head?.map isBlank).getD false

/-- Whether a line starts here with a mark between documents. -/
def atDocumentMark (c : Cursor) (mark : Char) : Bool :=
  c.column == 0 && [mark, mark, mark].isPrefixOf c.rest && endsWord (c.rest.drop 3)

def atAnyDocumentMark (c : Cursor) : Bool := c.atDocumentMark '-' || c.atDocumentMark '.'

end Cursor

end Stencil.Yaml
