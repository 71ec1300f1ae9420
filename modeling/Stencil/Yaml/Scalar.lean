import Stencil.Text.Digits
import Stencil.Yaml.Token

/-!
# Scalars in the text of a document

Plain text, text in quotes and block text. A single line break inside of plain or quoted text is a
space, and each further one is a line break.
-/

namespace Stencil.Yaml

/-! ## Folding -/

/-- What stands between two words: blanks of one line, or the line breaks passed. -/
structure Gap where
  blanks : List Char
  /-- The first line break, none on the same line. A break that is escaped is empty. -/
  first : Option (List Char)
  others : List Char

namespace Gap

def empty : Gap := ⟨[], none, []⟩

/-- The text that the gap leaves. -/
def text (g : Gap) : List Char :=
  match g.first with
  | none => g.blanks
  | some ['\n'] => if g.others.isEmpty then [' '] else g.others
  | some first => first ++ g.others

def addBreak (g : Gap) (b : List Char) : Gap :=
  match g.first with
  | none => ⟨[], some b, []⟩
  | some _ => { g with others := g.others ++ b }

/-- Blanks count on the first line only. -/
def addBlank (g : Gap) (c : Char) : Gap :=
  match g.first with
  | none => { g with blanks := g.blanks ++ [c] }
  | some _ => g

end Gap

/-- Pass blanks and line breaks. A tab left of `indent` is refused on all lines but the first. -/
def readGap (indent : Nat) : Nat → Gap → Cursor → Option (Gap × Cursor)
  | 0, _, _ => none
  | fuel + 1, g, c =>
    match c.rest with
    | [] => some (g, c)
    | x :: _ =>
      if isBlank x then
        if x == '\t' && g.first.isSome && c.column < indent then none
        else readGap indent fuel (g.addBlank x) (c.skip 1)
      else if isBreak x then
        let (b, c) := c.nextLine
        readGap indent fuel (g.addBreak b) c
      else some (g, c)

/-! ## Plain text -/

/-- A character that ends plain text inside of flow collections. -/
def isFlowMark (c : Char) : Bool := [',', '[', ']', '\x7b', '\x7d'].contains c

/-- Whether plain text ends here; none where a colon stands in front of a mark. -/
def endsPlain (inFlow : Bool) : List Char → Option Bool
  | ':' :: cs =>
    if inFlow && ((cs.head?.map fun c => isFlowMark c || c == '?').getD false) then none
    else some (endsWord cs)
  | c :: _ => some (inFlow && isFlowMark c)
  | [] => some true

/-- The characters of a word of plain text. -/
def plainWord (inFlow : Bool) : Nat → List Char → Cursor → Option (List Char × Cursor)
  | 0, _, _ => none
  | fuel + 1, acc, c =>
    match c.rest with
    | [] => some (acc.reverse, c)
    | x :: _ =>
      if isBlank x || isBreak x then some (acc.reverse, c)
      else
        match endsPlain inFlow c.rest with
        | none => none
        | some true => some (acc.reverse, c)
        | some false => plainWord inFlow fuel (x :: acc) (c.skip 1)

/-- Plain text. Lines after the first are indented to `indent` at least, outside of flow
collections. Says too whether line breaks follow the text. -/
def plainText (inFlow : Bool) (indent : Nat) :
    Nat → List Char → Gap → Cursor → Option (List Char × Bool × Cursor)
  | 0, _, _, _ => none
  | fuel + 1, acc, gap, c =>
    if c.atAnyDocumentMark || c.rest.head? == some '#' then some (acc, gap.first.isSome, c)
    else
      match plainWord inFlow (c.rest.length + 1) [] c with
      | none => none
      | some (word, c) =>
        let (acc, lineEnded) :=
          if word.isEmpty then (acc, gap.first.isSome) else (acc ++ gap.text ++ word, false)
        if !c.atBlank && !c.atBreak then some (acc, lineEnded, c)
        else
          match readGap indent (c.rest.length + 1) (if word.isEmpty then gap else .empty) c with
          | none => none
          | some (gap, c) =>
            if !inFlow && c.column < indent then some (acc, gap.first.isSome, c)
            else plainText inFlow indent fuel acc gap c

/-! ## Text in quotes -/

/-- The number that the next `n` hexadecimal digits write. -/
def hexDigits? : Nat → Nat → List Char → Option Nat
  | 0, value, _ => some value
  | n + 1, value, c :: cs => (Text.hexValue? c).bind fun d => hexDigits? n (16 * value + d) cs
  | _, _, [] => none

/-- The character of an escape, and how many characters write it. -/
def escape? : List Char → Option (Char × Nat)
  | [] => none
  | e :: cs =>
    let code (n : Nat) : Option (Char × Nat) :=
      (hexDigits? n 0 cs).bind fun v => if v.isValidChar then some (Char.ofNat v, n + 1) else none
    let simple (n : Nat) : Option (Char × Nat) := some (Char.ofNat n, 1)
    match e with
    | '0' => simple 0
    | 'a' => simple 7
    | 'b' => simple 8
    | 't' | '\t' => simple 9
    | 'n' => simple 10
    | 'v' => simple 11
    | 'f' => simple 12
    | 'r' => simple 13
    | 'e' => simple 27
    | ' ' | '"' | '/' | '\\' => simple e.toNat
    | 'N' => simple 0x85
    | '_' => simple 0xA0
    | 'L' => simple 0x2028
    | 'P' => simple 0x2029
    | 'x' => code 2
    | 'u' => code 4
    | 'U' => code 8
    | _ => none

/-- Text up to the closing quote. -/
def quotedText (quote : Char) : Nat → List Char → Cursor → Option (List Char × Cursor)
  | 0, _, _ => none
  | fuel + 1, acc, c =>
    if c.atAnyDocumentMark then none
    else
      match c.rest with
      | [] => none
      | x :: cs =>
        if x = quote then
          if quote = '\'' ∧ cs.head? = some '\'' then quotedText quote fuel ('\'' :: acc) (c.skip 2)
          else some (acc.reverse, c.skip 1)
        else if x = '\\' ∧ quote = '"' then
          if (cs.head?.map isBreak).getD false then
            let (_, c) := (c.skip 1).nextLine
            match readGap 0 (c.rest.length + 1) ⟨[], some [], []⟩ c with
            | some (gap, c) => quotedText quote fuel (gap.text.reverse ++ acc) c
            | none => none
          else
            match escape? cs with
            | some (e, n) => quotedText quote fuel (e :: acc) (c.skip (n + 1))
            | none => none
        else if isBlank x || isBreak x then
          match readGap 0 (c.rest.length + 1) .empty c with
          | some (gap, c) => quotedText quote fuel (gap.text.reverse ++ acc) c
          | none => none
        else quotedText quote fuel (x :: acc) (c.skip 1)

/-! ## Block text -/

/-- What becomes of the line breaks at the end of block text. -/
inductive Chomping where
  | strip
  | clip
  | keep
deriving DecidableEq, Repr

/-- The chomping and the indentation that the header of block text gives, in either order. -/
def blockHeader? (cs : List Char) : Option (Chomping × Option Nat × Nat) :=
  let chomping? (c : Char) : Option Chomping :=
    if c = '+' then some .keep else if c = '-' then some .strip else none
  let isDigit (c : Char) : Bool := c.isDigit
  match cs with
  | a :: rest =>
    match chomping? a with
    | some chomping =>
      match rest with
      | d :: _ =>
        if d = '0' then none
        else if isDigit d then some (chomping, some (Text.digitValue d), 2)
        else some (chomping, none, 1)
      | [] => some (chomping, none, 1)
    | none =>
      if a = '0' then none
      else if isDigit a then
        match rest.head?.bind chomping? with
        | some chomping => some (chomping, some (Text.digitValue a), 2)
        | none => some (.clip, some (Text.digitValue a), 1)
      else some (.clip, none, 0)
  | [] => some (.clip, none, 0)

/-- Pass empty lines and the indentation of the next line, at most `indent?` columns where that is
given. Says how far the widest line is indented. -/
def blockBreaks (indent? : Option Nat) :
    Nat → Nat → List Char → Cursor → Option (Nat × List Char × Cursor)
  | 0, _, _, _ => none
  | fuel + 1, widest, breaks, c =>
    let spaces := (c.rest.takeWhile (· == ' ')).length
    let c := c.skip (match indent? with
      | some indent => min spaces (indent - c.column)
      | none => spaces)
    let widest := max widest c.column
    let indents := match indent? with
      | some indent => c.column < indent
      | none => true
    if indents && c.rest.head? == some '\t' then none
    else if c.atBreak then
      let (b, c) := c.nextLine
      blockBreaks indent? fuel widest (breaks ++ b) c
    else some (widest, breaks, c)

/-- The lines of block text. `first` is the line break in front, `others` are the empty lines behind
it, and `blank` says whether the line before starts with a blank. -/
def blockLines (folded : Bool) (chomping : Chomping) (indent : Nat) :
    Nat → List Char → List Char → List Char → Bool → Cursor → Option (List Char × Cursor)
  | 0, _, _, _, _, _ => none
  | fuel + 1, acc, first, others, blank, c =>
    if c.column = indent ∧ !c.rest.isEmpty then
      let joined :=
        if folded && first == ['\n'] && !blank && !c.atBlank then
          if others.isEmpty then [' '] else []
        else first
      let line := c.rest.takeWhile fun x => !isBreak x
      let (b, next) := (c.skip line.length).nextLine
      match blockBreaks (some indent) (next.rest.length + 1) 0 [] next with
      | none => none
      | some (_, breaks, next) =>
        blockLines folded chomping indent fuel (acc ++ joined ++ others ++ line) b breaks c.atBlank
          next
    else
      some (match chomping with
        | .strip => acc
        | .clip => acc ++ first
        | .keep => acc ++ first ++ others, c)

/-- Block text from behind its mark on, inside of a collection at the given indentation. -/
def blockText (folded : Bool) (outer : Int) (c : Cursor) : Option (List Char × Cursor) := do
  let (chomping, width?, length) ← blockHeader? c.rest
  let c := (c.skip length).skipWhile isBlank
  let c := if c.rest.head? == some '#' then c.skipWhile fun x => !isBreak x else c
  if !c.rest.isEmpty && !c.atBreak then none
  else
    let (_, c) := c.nextLine
    let indent? := width?.map fun w => (max outer 0).toNat + w
    let (widest, breaks, c) ← blockBreaks indent? (c.rest.length + 1) 0 [] c
    let indent := indent?.getD (max (max widest (outer + 1).toNat) 1)
    blockLines folded chomping indent (c.rest.length + 2) [] [] breaks false c

end Stencil.Yaml
