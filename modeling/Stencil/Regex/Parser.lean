import Stencil.Regex.Pattern
import Stencil.Text.Blank
import Stencil.Text.Digits

/-!
# Reading regular expressions

A pattern is text, classes, groups, alternatives, repetitions and conditions. There are no
references back and no conditions on what lies further ahead or behind.
-/

namespace Stencil.Regex

structure Flags where
  caseless : Bool := false
  multiLine : Bool := false
  dotAll : Bool := false
  swapGreed : Bool := false
  unicode : Bool := true
  carriageReturn : Bool := false
  /-- Blanks and comments between the parts of the pattern are ignored. -/
  verbose : Bool := false
deriving DecidableEq, Repr

/-- Whether a backslash in front makes the character stand for itself. -/
def isEscapable (c : Char) : Bool :=
  c.toNat < 128 && !c.isAlphanum && c != '<' && c != '>'

/-- Skip blanks and comments where they are ignored. The flag says whether a comment is open. -/
def skipVerbose (inComment : Bool) : List Char → List Char
  | [] => []
  | c :: cs =>
    if inComment then skipVerbose (c != '\n') cs
    else if Text.isBlank c then skipVerbose false cs
    else if c = '#' then skipVerbose true cs
    else c :: cs

def Flags.skip (flags : Flags) (cs : List Char) : List Char :=
  if flags.verbose then skipVerbose false cs else cs

/-! ## Escapes -/

/-- What one escape or one plain character stands for. -/
inductive Atom where
  | char (c : Char)
  | cls (a : CharClass)
  | look (condition : Look)

def isHex (c : Char) : Bool :=
  c.isDigit || ('a' ≤ c && c ≤ 'f') || ('A' ≤ c && c ≤ 'F')

def hexValue (cs : List Char) : Nat := Unicode.hexNumber (cs.map Char.toUpper)

/-- The character with a code point, which a surrogate is not. -/
def scalar? (n : Nat) : Option Char :=
  if n < 0xD800 ∨ (0xE000 ≤ n ∧ n < 0x110000) then some (Char.ofNat n) else none

/-- A code point in hexadecimal: `width` digits, or any number of them in braces. -/
def hexEscape? (width : Nat) (cs : List Char) : Option (Char × List Char) :=
  match cs with
  | '\x7b' :: rest =>
    let ds := rest.takeWhile isHex
    match rest.dropWhile isHex with
    | '\x7d' :: rest => if ds.isEmpty then none else (scalar? (hexValue ds)).map (·, rest)
    | _ => none
  | _ =>
    let ds := cs.take width
    if ds.length = width ∧ ds.all isHex then (scalar? (hexValue ds)).map (·, cs.drop width)
    else none

/-- A property behind `\p`: a letter, or a name in braces with an optional value. -/
def propertyEscape? (negated : Bool) (cs : List Char) : Option (CharClass × List Char) :=
  match cs with
  | '\x7b' :: rest =>
    let body := rest.takeWhile (· != '\x7d')
    match rest.dropWhile (· != '\x7d') with
    | [] => none
    | _ :: rest =>
      let name := body.takeWhile fun c => c != '=' && c != ':' && c != '!'
      let cls : Option (CharClass × Bool) :=
        match body.dropWhile fun c => c != '=' && c != ':' && c != '!' with
        | [] => (CharClass.property? (String.ofList body)).map (·, negated)
        | '!' :: '=' :: value =>
          (CharClass.valuedProperty? (String.ofList name) (String.ofList value)).map (·, !negated)
        | _ :: value =>
          (CharClass.valuedProperty? (String.ofList name) (String.ofList value)).map (·, negated)
      cls.map fun (a, negated) => (a.complementIf negated, rest)
  | '\\' :: _ => none
  | c :: rest =>
    (CharClass.property? (String.ofList [c])).map fun a => (a.complementIf negated, rest)
  | [] => none

/-- A class that is complemented, which needs Unicode to stay within characters. -/
def negatedClass? (flags : Flags) (a : CharClass) (rest : List Char) : Option (Atom × List Char) :=
  if flags.unicode then some (.cls a.complement, rest) else none

/-- The condition named in braces behind `\b`. -/
def namedBoundary? (unicode : Bool) (name : String) : Option Look :=
  match name with
  | "start" => some (.wordStart unicode)
  | "end" => some (.wordEnd unicode)
  | "start-half" => some (.wordStartHalf unicode)
  | "end-half" => some (.wordEndHalf unicode)
  | _ => none

/-- A word boundary. Braces with a name behind it choose a kind; other braces are left alone. -/
def boundary? (flags : Flags) (cs : List Char) : Option (Atom × List Char) :=
  let plain : Option (Atom × List Char) := some (.look (.wordBoundary flags.unicode), cs)
  match cs with
  | '\x7b' :: rest =>
    let rest := flags.skip rest
    let isName (c : Char) : Bool := c.isAlpha || c == '-'
    if (rest.head?.map isName).getD false then
      match rest.dropWhile isName with
      | '\x7d' :: more =>
        (namedBoundary? flags.unicode (String.ofList (rest.takeWhile isName))).map fun l =>
          (.look l, more)
      | _ => none
    else plain
  | _ => plain

/-- What follows a backslash. -/
def escape? (flags : Flags) (cs : List Char) : Option (Atom × List Char) :=
  match cs with
  | [] => none
  | c :: rest =>
    let u := flags.unicode
    let char (c : Char) : Option (Atom × List Char) := some (.char c, rest)
    let hex (width : Nat) : Option (Atom × List Char) :=
      (hexEscape? width rest).bind fun (c, rest) =>
        if u ∨ c.toNat < 128 then some (.char c, rest) else none
    match c with
    | 'x' => hex 2
    | 'u' => hex 4
    | 'U' => hex 8
    | 'p' => if u then (propertyEscape? false rest).map fun (a, rest) =>
        (.cls (a.caselessIf flags.caseless), rest) else none
    | 'P' => if u then (propertyEscape? true rest).map fun (a, rest) =>
        (.cls (a.caselessIf flags.caseless), rest) else none
    | 'd' => some (.cls (.digit u), rest)
    | 'D' => negatedClass? flags (.digit u) rest
    | 's' => some (.cls (.space u), rest)
    | 'S' => negatedClass? flags (.space u) rest
    | 'w' => some (.cls (.word u), rest)
    | 'W' => negatedClass? flags (.word u) rest
    | 'a' => char '\x07'
    | 'f' => char '\x0c'
    | 't' => char '\t'
    | 'n' => char '\n'
    | 'r' => char '\r'
    | 'v' => char '\x0b'
    | 'A' => some (.look .textStart, rest)
    | 'z' => some (.look .textEnd, rest)
    | 'b' => boundary? flags rest
    | 'B' => some (.look (.notWordBoundary u), rest)
    | '<' => some (.look (.wordStart u), rest)
    | '>' => some (.look (.wordEnd u), rest)
    | _ => if isEscapable c then char c else none

/-! ## Bracketed classes -/

inductive SetOp where
  | inter
  | diff
  | symmDiff

def SetOp.apply : SetOp → CharClass → CharClass → CharClass
  | .inter, a, b => .inter a b
  | .diff, a, b => .diff a b
  | .symmDiff, a, b => .symmDiff a b

/-- A named class behind `[:`, with its closing `:]`. -/
def asciiClass? (cs : List Char) : Option (CharClass × List Char) :=
  let (negated, body) := match cs with
    | '^' :: rest => (true, rest)
    | _ => (false, cs)
  match body.dropWhile Char.isAlpha with
  | ':' :: ']' :: rest =>
    (CharClass.named? (String.ofList (body.takeWhile Char.isAlpha))).map fun rs =>
      (CharClass.complementIf negated (.ranges rs), rest)
  | _ => none

/-- One end of a range in a class. -/
def classAtom? (flags : Flags) (cs : List Char) : Option (Atom × List Char) :=
  match cs with
  | [] => none
  | '\\' :: rest => escape? flags rest
  | c :: rest => some (.char c, rest)

/-- A character, an escape or a range. -/
def classItem? (flags : Flags) (cs : List Char) : Option (CharClass × List Char) :=
  match classAtom? flags cs with
  | none => none
  | some (.look _, _) => none
  | some (first, rest) =>
    let alone : Option (CharClass × List Char) :=
      match first with
      | .char c => some (.single c, rest)
      | .cls a => some (a, rest)
      | .look _ => none
    match flags.skip rest with
    | [] => none
    | '-' :: more =>
      let next := (flags.skip more).head?
      if next = some ']' ∨ next = some '-' then alone
      else
        match first, classAtom? flags (flags.skip more) with
        | .char lo, some (.char hi, rest) =>
          if lo ≤ hi then some (.ranges [(lo.toNat, hi.toNat)], rest) else none
        | _, _ => none
    | _ => alone

/-- The hyphens that stand for themselves at the start of a class. -/
def leadingHyphens (flags : Flags) : Nat → List Char → CharClass × List Char
  | 0, cs => (.empty, cs)
  | fuel + 1, cs =>
    match cs with
    | '-' :: rest =>
      let (a, rest) := leadingHyphens flags fuel (flags.skip rest)
      (.union (.single '-') a, rest)
    | _ => (.empty, cs)

mutual

/-- A class behind its opening bracket: an optional `^`, then hyphens or a closing bracket that
stand for themselves, then the items. -/
def bracketed? : Nat → Flags → List Char → Option (CharClass × List Char)
  | 0, _, _ => none
  | fuel + 1, flags, cs =>
    let cs := flags.skip cs
    let (negated, cs) := match cs with
      | '^' :: rest => (true, flags.skip rest)
      | _ => (false, cs)
    let (start, rest) := leadingHyphens flags cs.length cs
    let (start, rest) := match cs, rest with
      | ']' :: _, ']' :: more => (CharClass.single ']', flags.skip more)
      | _, _ => (start, rest)
    match classItems? fuel flags none start rest with
    | none => none
    | some (a, rest) =>
      if negated && !flags.unicode then none
      else some ((a.caselessIf flags.caseless).complementIf negated, rest)

/-- The items up to the closing bracket. `pending` is the operation to the left with its left
side. -/
def classItems? : Nat → Flags → Option (SetOp × CharClass) → CharClass → List Char →
    Option (CharClass × List Char)
  | 0, _, _, _, _ => none
  | fuel + 1, flags, pending, acc, cs =>
    let combined : CharClass :=
      match pending with
      | none => acc
      | some (op, left) =>
        op.apply (left.caselessIf flags.caseless) (acc.caselessIf flags.caseless)
    match flags.skip cs with
    | [] => none
    | ']' :: rest => some (combined, rest)
    | '&' :: '&' :: rest => classItems? fuel flags (some (.inter, combined)) .empty rest
    | '-' :: '-' :: rest => classItems? fuel flags (some (.diff, combined)) .empty rest
    | '~' :: '~' :: rest => classItems? fuel flags (some (.symmDiff, combined)) .empty rest
    | '[' :: rest =>
      let named := match rest with
        | ':' :: body => asciiClass? body
        | _ => none
      match named with
      | some (a, rest) =>
        classItems? fuel flags pending (.union acc (a.caselessIf flags.caseless)) rest
      | none =>
        match bracketed? fuel flags rest with
        | some (a, rest) => classItems? fuel flags pending (.union acc a) rest
        | none => none
    | rest =>
      match classItem? flags rest with
      | some (a, rest) => classItems? fuel flags pending (.union acc a) rest
      | none => none

end

/-! ## Flags and repetitions -/

/-- The flags in a group, `on` until the minus sign. `seen` holds the letters so far; none may come
twice, and one must follow the minus sign. -/
def readFlags (flags : Flags) (on : Bool) (seen : List Char) : List Char →
    Option (Flags × Bool × List Char)
  | [] => none
  | c :: cs =>
    if c = ')' ∨ c = ':' then
      if seen.head? = some '-' then none else some (flags, seen.isEmpty, c :: cs)
    else if seen.contains c then none
    else
      let next (f : Flags) : Option (Flags × Bool × List Char) := readFlags f on (c :: seen) cs
      match c with
      | '-' => readFlags flags false ('-' :: seen) cs
      | 'i' => next { flags with caseless := on }
      | 'm' => next { flags with multiLine := on }
      | 's' => next { flags with dotAll := on }
      | 'U' => next { flags with swapGreed := on }
      | 'u' => next { flags with unicode := on }
      | 'R' => next { flags with carriageReturn := on }
      | 'x' => next { flags with verbose := on }
      | _ => none

/-- A count of repetitions, blanks around it ignored. -/
def count? (cs : List Char) : Option (Nat × List Char) :=
  let cs := cs.dropWhile Text.isBlank
  let ds := cs.takeWhile Char.isDigit
  let rest := (cs.dropWhile Char.isDigit).dropWhile Text.isBlank
  if ds.isEmpty then none
  else
    let n := Text.natOfDigits ds
    if n < twoTo 32 then some (n, rest) else none

/-- The bounds of a repetition behind its opening brace. -/
def counts? (flags : Flags) (cs : List Char) : Option ((Nat × Option Nat) × List Char) := do
  let (lo, rest) ← count? (flags.skip cs)
  match rest with
  | '\x7d' :: rest => return ((lo, some lo), rest)
  | ',' :: rest =>
    match flags.skip rest with
    | '\x7d' :: rest => return ((lo, none), rest)
    | rest =>
      let (hi, rest) ← count? rest
      match rest with
      | '\x7d' :: rest => if lo ≤ hi then return ((lo, some hi), rest) else none
      | _ => none
  | _ => none

/-- The name of a group, up to the closing bracket. -/
def groupName? (cs : List Char) : Option (String × List Char) :=
  let isStart (c : Char) : Bool := c.isAlpha || c == '_' || 128 ≤ c.toNat
  let isRest (c : Char) : Bool :=
    isStart c || c.isDigit || c == '.' || c == '[' || c == ']'
  let name := cs.takeWhile (· != '>')
  match name, cs.dropWhile (· != '>') with
  | c :: more, _ :: rest =>
    if isStart c && more.all isRest then some (String.ofList name, rest) else none
  | _, _ => none

/-! ## Patterns -/

/-- The parts of a sequence, the last one first. A part that only set flags is none. -/
def joined (parts : List (Option Pattern)) : Pattern :=
  parts.foldl (fun acc p =>
    match p, acc with
    | none, _ => acc
    | some p, .empty => p
    | some p, acc => .cat p acc) .empty

/-- The alternatives, the last one first. -/
def alternatives (last : Pattern) (done : List Pattern) : Pattern :=
  done.foldl (fun acc p => .alt p acc) last

/-- The pattern of one character or condition. -/
def Atom.pattern (flags : Flags) : Atom → Pattern
  | .char c => .one ((CharClass.single c).caselessIf flags.caseless)
  | .cls a => .one a
  | .look l => .look l

/-- What a character without a backslash stands for outside of brackets. -/
def plainChar? (flags : Flags) (c : Char) : Option Pattern :=
  match c with
  | '.' =>
    if !flags.unicode then none
    else if flags.dotAll then some (.one .any)
    else if flags.carriageReturn then
      some (.one (.complement (.ranges [(10, 10), (13, 13)])))
    else some (.one (.complement (.single '\n')))
  | '^' =>
    some (.look (if flags.multiLine then
      (if flags.carriageReturn then .lineStartCR else .lineStart) else .textStart))
  | '$' =>
    some (.look (if flags.multiLine then
      (if flags.carriageReturn then .lineEndCR else .lineEnd) else .textEnd))
  | c => some (Atom.pattern flags (.char c))

/-- Repeat the last part, lazily if a question mark follows. -/
def repeatLast (flags : Flags) (lo : Nat) (hi : Option Nat) (parts : List (Option Pattern))
    (rest : List Char) : Option (List (Option Pattern) × List Char) :=
  match parts with
  | some p :: parts =>
    match rest with
    | '?' :: rest => some (some (.rep p lo hi flags.swapGreed) :: parts, rest)
    | _ => some (some (.rep p lo hi (!flags.swapGreed)) :: parts, rest)
  | _ => none

mutual

/-- Alternatives up to a closing parenthesis or the end. `done` are the alternatives before this
one and `parts` the parts of this one, both with the last one first. -/
def sequence? : Nat → Flags → List Pattern → List (Option Pattern) → List Char →
    Option (Pattern × List Char)
  | 0, _, _, _, _ => none
  | fuel + 1, flags, done, parts, cs =>
    match flags.skip cs with
    | [] => some (alternatives (joined parts) done, [])
    | c :: rest =>
      match c with
      | ')' => some (alternatives (joined parts) done, c :: rest)
      | '|' => sequence? fuel flags (joined parts :: done) [] rest
      | '*' =>
        (repeatLast flags 0 none parts rest).bind fun (ps, rest) =>
          sequence? fuel flags done ps rest
      | '+' =>
        (repeatLast flags 1 none parts rest).bind fun (ps, rest) =>
          sequence? fuel flags done ps rest
      | '?' =>
        (repeatLast flags 0 (some 1) parts rest).bind fun (ps, rest) =>
          sequence? fuel flags done ps rest
      | '\x7b' =>
        (counts? flags rest).bind fun ((lo, hi), rest) =>
          (repeatLast flags lo hi parts (flags.skip rest)).bind fun (ps, rest) =>
            sequence? fuel flags done ps rest
      | '(' =>
        match group? fuel flags (flags.skip rest) with
        | none => none
        | some (part, flags, rest) => sequence? fuel flags done (part :: parts) rest
      | '[' =>
        match bracketed? fuel flags rest with
        | none => none
        | some (a, rest) => sequence? fuel flags done (some (.one a) :: parts) rest
      | '\\' =>
        match escape? flags rest with
        | none => none
        | some (atom, rest) => sequence? fuel flags done (some (atom.pattern flags) :: parts) rest
      | _ =>
        match plainChar? flags c with
        | none => none
        | some p => sequence? fuel flags done (some p :: parts) rest

/-- What follows an opening parenthesis: the group, or none where it only sets flags, and the flags
from there on. -/
def group? : Nat → Flags → List Char → Option (Option Pattern × Flags × List Char)
  | 0, _, _ => none
  | fuel + 1, flags, cs =>
    let closed (name : Option String) (inner : Flags) (cs : List Char) :
        Option (Option Pattern × Flags × List Char) :=
      match sequence? fuel inner [] [] cs with
      | some (p, ')' :: rest) => some (some (.group name p), flags, rest)
      | _ => none
    let namedGroup (cs : List Char) : Option (Option Pattern × Flags × List Char) :=
      match groupName? cs with
      | some (name, rest) => closed (some name) flags rest
      | none => none
    match cs with
    | '?' :: '=' :: _ => none
    | '?' :: '!' :: _ => none
    | '?' :: '<' :: '=' :: _ => none
    | '?' :: '<' :: '!' :: _ => none
    | '?' :: 'P' :: '<' :: rest => namedGroup rest
    | '?' :: '<' :: rest => namedGroup rest
    | '?' :: rest =>
      match readFlags flags true [] rest with
      | some (inner, isBare, ')' :: rest) => if isBare then none else some (none, inner, rest)
      | some (inner, _, _ :: rest) => closed none inner rest
      | _ => none
    | _ => closed none flags cs

end

/-- The largest size of a pattern with its repetitions written out. -/
def maxSize : Nat := 200000

/-- The pattern that a text writes. -/
def Pattern.parse? (flags : Flags) (text : List Char) : Option Pattern :=
  match sequence? (2 * text.length + 2) flags [] [] text with
  | some (p, []) =>
    if p.groupNames.eraseDups.length = p.groupNames.length ∧ p.expandedSize ≤ maxSize then some p
    else none
  | _ => none

end Stencil.Regex
