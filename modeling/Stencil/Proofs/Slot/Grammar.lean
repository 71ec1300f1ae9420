import Stencil.Proofs.Path.Lexing
import Stencil.Slot.Render

/-!
# The grammar of slot text

Which texts can be rendered, and what stands in them: literal text and slots. A slot is a reference,
modifiers, perhaps a comparison, and conditions, with blanks in front of each part. As in the
grammar of paths, a relation between what a construct says, a text that starts with it and the text
behind it stands for each construct.
-/

namespace Stencil.Slot

open Stencil.Path (Construction IsPattern Many Stops)
open Text (byteLength)

/-! ## Literal text -/

/-- A character that is no brace. -/
def isPlain (c : Char) : Bool := c != '\x7b' && c != '\x7d'

/-- Behind blanks stands something that a reference can start with. -/
def opensSlot (cs : List Char) : Bool :=
  ((cs.dropWhile isSpace).head?.map isReferenceStart).getD false

/-- A piece of literal text. -/
inductive Piece : Construction String where
  | plain {run rest : List Char} :
    run ≠ [] → (∀ c ∈ run, isPlain c = true) → Stops isPlain rest →
      Piece (String.ofList run) (run ++ rest) rest
  | doubledOpening (rest : List Char) : Piece "\x7b" ('\x7b' :: '\x7b' :: rest) rest
  | doubledClosing (rest : List Char) : Piece "\x7d" ('\x7d' :: '\x7d' :: rest) rest
  /-- A lone opening brace that cannot open a slot. -/
  | opening {rest : List Char} :
    rest.head? ≠ some '\x7b' → opensSlot rest = false → Piece "\x7b" ('\x7b' :: rest) rest
  | closing {rest : List Char} : rest.head? ≠ some '\x7d' → Piece "\x7d" ('\x7d' :: rest) rest

/-! ## Tokens of a slot -/

/-- The inside of a predicate of an HTML path and the bracket that closes it. Quoted text in it
hides brackets. -/
inductive IsPredicate : List Char → Prop where
  | close : IsPredicate [']']
  | quoted {q : Char} {body rest : List Char} :
    q = '\'' ∨ q = '"' → q ∉ body → IsPredicate rest → IsPredicate (q :: (body ++ q :: rest))
  | nested {inner rest : List Char} :
    IsPredicate inner → IsPredicate rest → IsPredicate ('[' :: (inner ++ rest))
  | plain {c : Char} {rest : List Char} :
    c ≠ '\'' → c ≠ '"' → c ≠ '[' → c ≠ ']' → IsPredicate rest → IsPredicate (c :: rest)

/-- Characters that end no HTML path, and predicates. -/
inductive IsHtmlPath : List Char → Prop where
  | nil : IsHtmlPath []
  | predicate {inner rest : List Char} :
    IsPredicate inner → IsHtmlPath rest → IsHtmlPath ('[' :: (inner ++ rest))
  | plain {c : Char} {rest : List Char} :
    c ≠ '[' → endsHtmlPath c = false → IsHtmlPath rest → IsHtmlPath (c :: rest)

/-- The signs of a comparison. -/
def Comparison.symbol : Comparison → List Char
  | equal => ['=', '=']
  | notEqual => ['!', '=']
  | less => ['<']
  | lessEq => ['<', '=']
  | greater => ['>']
  | greaterEq => ['>', '=']

/-- The sign of a token that is always written the same way. -/
def Token.sign? : Token → Option (List Char)
  | condition => some ['?']
  | else_ => some [':']
  | stop => some ['\x7d']
  | operator op => some op.symbol
  | text _ | start | reference _ | format _ | match_ _ | substring _ | literal _ => none

/-- A token of a slot, taken as far as it goes. -/
inductive Lexeme : Construction Token where
  | sign {t : Token} {symbol rest : List Char} :
    t.sign? = some symbol → (t = .operator .less ∨ t = .operator .greater → rest.head? ≠ some '=') →
      Lexeme t (symbol ++ rest) rest
  | name {c : Char} {cs rest : List Char} :
    isNameStart c = true → (∀ d ∈ cs, isNameChar d = true) → Stops isNameChar rest →
      Lexeme (.reference (String.ofList (c :: cs))) (c :: (cs ++ rest)) rest
  | path {path rest : List Char} :
    Path.embeddedLength (String.ofList ('$' :: (path ++ rest))) = .ok (byteLength ('$' :: path)) →
      Lexeme (.reference (String.ofList ('$' :: path))) ('$' :: (path ++ rest)) rest
  | html {path rest : List Char} :
    IsHtmlPath ('/' :: path) → Stops (fun c => !endsHtmlPath c) rest →
      Lexeme (.reference (String.ofList ('/' :: path))) ('/' :: (path ++ rest)) rest
  | format {c : Char} {cs rest : List Char} :
    c ≠ '/' → c ≠ '[' → (∀ d ∈ c :: cs, endsFormat d = false) →
    Stops (fun d => !endsFormat d) rest →
      Lexeme (.format (String.ofList (c :: cs))) (':' :: c :: (cs ++ rest)) rest
  | regex {body flags rest : List Char} :
    IsPattern .longest body → (∀ c ∈ flags, Regex.isFlag c = true) → Stops Regex.isFlag rest →
      Lexeme (.match_ (String.ofList ('/' :: (body ++ '/' :: flags))))
        (':' :: '/' :: (body ++ '/' :: (flags ++ rest))) rest
  | range {range rest : List Char} :
    ']' ∉ range →
      Lexeme (.substring (String.ofList range)) (':' :: '[' :: (range ++ ']' :: rest)) rest
  | literal {body rest : List Char} :
    '\'' ∉ body → Lexeme (.literal (String.ofList body)) ('\'' :: (body ++ '\'' :: rest)) rest

/-- A token behind the blanks that may stand in front of it. -/
def Word : Construction Token := fun t cs rest =>
  ∃ gap text, cs = gap ++ text ∧ (∀ c ∈ gap, isSpace c = true) ∧ Lexeme t text rest

/-! ## Slots -/

/-- What a modifier does. A range that is malformed is an error at the position behind it. -/
inductive Modifier where
  | format (spec : String)
  | match_ (pattern : String)
  | substring (range : String) (position : Nat)
deriving DecidableEq, Repr

def Token.modifier? (position : Nat) : Token → Option Modifier
  | format spec => some (.format spec)
  | match_ pattern => some (.match_ pattern)
  | substring range => some (.substring range position)
  | _ => none

/-- A modifier in a text of `size` bytes. -/
def IsModifier (size : Nat) : Construction Modifier := fun modifier cs rest =>
  ∃ t, Word t cs rest ∧ t.modifier? (size - byteLength rest) = some modifier

/-- A comparison with the text in quotes, and the branches that it chooses between. -/
structure Test where
  op : Comparison
  comparand : String
  branches : Branches

def Branches.quoted (b : Branches) : List String := [b.yes, b.no]

def Test.quoted (t : Test) : List String := t.comparand :: t.branches.quoted

/-- What stands in a slot: a reference, what is done to its text, and the conditions. -/
structure Hole where
  reference : String
  modifiers : List Modifier
  test : Option Test
  conditions : List Branches

/-- Conditions and the brace that closes the slot. The last one may lack its second branch. -/
inductive IsConditions : Construction (List Branches) where
  | close {cs rest : List Char} : Word .stop cs rest → IsConditions [] cs rest
  | short {yes : String} {cs a b rest : List Char} :
    Word .condition cs a → Word (.literal yes) a b → Word .stop b rest →
      IsConditions [⟨yes, ""⟩] cs rest
  | full {yes no : String} {more : List Branches} {cs a b c d rest : List Char} :
    Word .condition cs a → Word (.literal yes) a b → Word .else_ b c → Word (.literal no) c d →
      IsConditions more d rest → IsConditions (⟨yes, no⟩ :: more) cs rest

/-- A comparison, if there is one, and the conditions behind it. -/
inductive IsChoice : Construction (Option Test × List Branches) where
  | plain {conditions : List Branches} {cs rest : List Char} :
    IsConditions conditions cs rest → IsChoice (none, conditions) cs rest
  | tested {op : Comparison} {comparand : String} {branches : Branches}
      {conditions : List Branches} {cs a b rest : List Char} :
    Word (.operator op) cs a → Word (.literal comparand) a b →
      IsConditions (branches :: conditions) b rest →
      IsChoice (some ⟨op, comparand, branches⟩, conditions) cs rest

/-- The inside of a slot and the brace that closes it. -/
inductive IsHole (size : Nat) : Construction Hole where
  | mk {key : String} {modifiers : List Modifier} {test : Option Test}
      {conditions : List Branches} {cs a b rest : List Char} :
    Word (.reference key) cs a → Many (IsModifier size) modifiers a b →
      IsChoice (test, conditions) b rest → IsHole size ⟨key, modifiers, test, conditions⟩ cs rest

/-! ## Texts -/

inductive Item where
  | text (s : String)
  | slot (h : Hole)

inductive IsItem (size : Nat) : Construction Item where
  | text {s : String} {cs rest : List Char} : Piece s cs rest → IsItem size (.text s) cs rest
  | slot {h : Hole} {cs rest : List Char} :
    IsHole size h cs rest → IsItem size (.slot h) ('\x7b' :: cs) rest

/-- The texts that stand in quotes in an item, and the empty text for a missing branch. -/
def Item.quoted : Item → List String
  | .text _ => []
  | .slot h => h.test.toList.flatMap Test.quoted ++ h.conditions.flatMap Branches.quoted

/-- The text consists of the items. -/
def IsText (text : String) (items : List Item) : Prop :=
  Many (IsItem (byteLength text.toList)) items text.toList []

end Stencil.Slot
