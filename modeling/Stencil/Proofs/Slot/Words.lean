import Stencil.Proofs.Path.Positions
import Stencil.Proofs.Slot.Grammar

/-!
# Words and places of slot text

The places of a text that a lexer stands at, where words start and end, and which of them may follow
each other.
-/

namespace Stencil.Slot

open Stencil.Path (Construction Stops stops_cons takeWhile_run dropWhile_run mem_takeWhile)
open Text (byteLength)

/-! ## Places -/

theorem splitBytes_front (front rest : List Char) :
    splitBytes (byteLength front) (front ++ rest) = (front, rest) := by
  induction front with
  | nil =>
    cases rest with
    | nil => rfl
    | cons c rest => simp [splitBytes, Char.utf8Size_pos]
  | cons c front ih =>
    rw [List.cons_append, splitBytes, if_neg (by simp), Text.byteLength_cons,
      Nat.add_sub_cancel_left, ih]

theorem within_of_suffix {size : Nat} {cs rest : List Char} (h : rest <:+ cs)
    (hsize : byteLength cs ≤ size) : byteLength rest ≤ size := by
  obtain ⟨front, rfl⟩ := h
  rw [Text.byteLength_append] at hsize
  omega

namespace Lexer

/-- The lexer in front of the last characters of a text of `size` bytes. -/
def place (size : Nat) (last : Option Token) (cs : List Char) : Lexer :=
  ⟨cs, size - byteLength cs, last, false⟩

theorem start_eq (text : String) :
    start text = place (byteLength text.toList) none text.toList := by
  simp [start, place]

variable {size : Nat} {last : Option Token}

theorem emit_place {cs front rest : List Char} (h : byteLength cs ≤ size) (hcs : cs = front ++ rest)
    (t : Token) :
    (place size last cs).emit t front rest = (.ok (some t), place size (some t) rest) := by
  subst hcs
  rw [Text.byteLength_append] at h
  have position : size - (byteLength front + byteLength rest) + byteLength front =
      size - byteLength rest := by omega
  simp only [emit, skip, place, Text.byteLength_append, position]

theorem skipSpaces_place {cs : List Char} (h : byteLength cs ≤ size) :
    (place size last cs).skipSpaces = place size last (cs.dropWhile isSpace) := by
  have run := List.takeWhile_append_dropWhile (p := isSpace) (l := cs)
  have bytes := congrArg byteLength run
  rw [Text.byteLength_append] at bytes
  have position : size - byteLength cs + byteLength (cs.takeWhile isSpace) =
      size - byteLength (cs.dropWhile isSpace) := by omega
  simp only [skipSpaces, skip, place, position]

end Lexer

/-! ## Words -/

theorem isSpace_of_isNameStart {c : Char} (h : isNameStart c = true) : isSpace c = false := by
  rw [Bool.eq_false_iff]
  intro hspace
  simp only [isSpace, Bool.or_eq_true, beq_iff_eq] at hspace
  rcases hspace with (((rfl | rfl) | rfl) | rfl) | rfl <;> exact absurd h (by decide)

section

variable {t : Token} {cs text rest : List Char}

theorem lexeme_stop (rest : List Char) : Lexeme .stop ('\x7d' :: rest) rest :=
  show Lexeme .stop (['\x7d'] ++ rest) rest from .sign rfl (by simp)

theorem lexeme_condition (rest : List Char) : Lexeme .condition ('?' :: rest) rest :=
  show Lexeme .condition (['?'] ++ rest) rest from .sign rfl (by simp)

theorem lexeme_else (rest : List Char) : Lexeme .else_ (':' :: rest) rest :=
  show Lexeme .else_ ([':'] ++ rest) rest from .sign rfl (by simp)

theorem Lexeme.stops (h : Lexeme t text rest) : Stops isSpace text := by
  cases h with
  | sign hsign =>
    cases t with
    | operator op =>
      cases hsign
      cases op <;> exact stops_cons rfl
    | condition | else_ | stop =>
      cases hsign
      exact stops_cons rfl
    | text | start | reference | format | match_ | substring | literal => cases hsign
  | name hc => exact stops_cons (isSpace_of_isNameStart hc)
  | path | html | format | regex | range | literal => exact stops_cons rfl

theorem word_iff : Word t cs rest ↔ Lexeme t (cs.dropWhile isSpace) rest := by
  constructor
  · rintro ⟨gap, text, rfl, hgap, h⟩
    rwa [dropWhile_run hgap h.stops]
  · intro h
    refine ⟨cs.takeWhile isSpace, _, ?_, fun c => mem_takeWhile, h⟩
    exact List.takeWhile_append_dropWhile.symm

theorem Lexeme.suffix (h : Lexeme t text rest) : rest <:+ text := by
  cases h with
  | @sign _ symbol => exact ⟨symbol, rfl⟩
  | @name c cs => exact ⟨c :: cs, rfl⟩
  | @path path => exact ⟨'$' :: path, rfl⟩
  | @html path => exact ⟨'/' :: path, rfl⟩
  | @format c cs => exact ⟨':' :: c :: cs, rfl⟩
  | @regex body flags => exact ⟨':' :: '/' :: (body ++ '/' :: flags), by simp⟩
  | @range range => exact ⟨':' :: '[' :: (range ++ [']']), by simp⟩
  | @literal body => exact ⟨'\'' :: (body ++ ['\'']), by simp⟩

theorem Word.suffix (h : Word t cs rest) : rest <:+ cs := by
  obtain ⟨gap, text, rfl, -, h⟩ := h
  exact h.suffix.trans (List.suffix_append gap text)

theorem Word.within {size : Nat} {t : Token} {cs rest : List Char} (h : Word t cs rest)
    (hsize : byteLength cs ≤ size) : byteLength rest ≤ size :=
  within_of_suffix h.suffix hsize

theorem Piece.suffix {s : String} (h : Piece s cs rest) : rest <:+ cs := by
  cases h with
  | @plain run => exact ⟨run, rfl⟩
  | doubledOpening => exact ⟨['\x7b', '\x7b'], rfl⟩
  | doubledClosing => exact ⟨['\x7d', '\x7d'], rfl⟩
  | opening => exact ⟨['\x7b'], rfl⟩
  | closing => exact ⟨['\x7d'], rfl⟩

end

theorem opensSlot_of_reference {key : String} {cs rest : List Char}
    (h : Word (.reference key) cs rest) : opensSlot cs = true := by
  rw [word_iff] at h
  unfold opensSlot
  generalize cs.dropWhile isSpace = text at h
  cases h with
  | sign hsign => cases hsign
  | name hc => simp [isReferenceStart, hc]
  | path | html => rfl

/-! ## What may come next -/

/-- In front of literal text or a slot. -/
def isTextual : Option Token → Bool
  | none | some (.text _) | some .stop => true
  | _ => false

/-- The tokens behind a reference or a modifier. -/
def Token.continues : Token → Bool
  | format _ | match_ _ | substring _ | operator _ | condition | stop => true
  | _ => false

/-- The tokens behind text in quotes. -/
def Token.joins : Token → Bool
  | condition | else_ | stop => true
  | _ => false

/-- The tokens within a slot, by the token in front of them. -/
def Expects (t : Token) : Token → Prop
  | .start => ∃ key, t = .reference key
  | .reference _ | .format _ | .match_ _ | .substring _ => t.continues = true
  | .operator _ | .condition | .else_ => ∃ body, t = .literal body
  | .literal _ => t.joins = true
  | .text _ | .stop => False

theorem expects_reference (key : String) : Expects (.reference key) .start := ⟨key, rfl⟩

theorem expects_branch (body : String) : Expects (.literal body) .condition := ⟨body, rfl⟩

theorem expects_otherBranch (body : String) : Expects (.literal body) .else_ := ⟨body, rfl⟩

theorem expects_comparand (body : String) (op : Comparison) :
    Expects (.literal body) (.operator op) := ⟨body, rfl⟩

/-- The tokens behind which a slot may end: a reference, a modifier or text in quotes. -/
def Token.mayEnd (t : Token) : Prop := Expects .condition t ∧ Expects .stop t

/-- The tokens that set the text of a slot and are no condition. -/
def Token.setsText : Token → Bool
  | .reference _ | .format _ | .match_ _ | .substring _ => true
  | _ => false

theorem expects_of_setsText {t last : Token} (h : last.setsText = true)
    (ht : t.continues = true) : Expects t last := by
  cases last <;> first | exact ht | cases h

theorem mayEnd_of_setsText {last : Token} (h : last.setsText = true) : last.mayEnd :=
  ⟨expects_of_setsText h rfl, expects_of_setsText h rfl⟩

theorem mayEnd_literal (body : String) : (Token.literal body).mayEnd :=
  ⟨rfl, rfl⟩

theorem Token.setsText_of_modifier {t : Token} {position : Nat} {modifier : Modifier}
    (h : t.modifier? position = some modifier) : t.setsText = true ∧ t.continues = true := by
  cases t <;> first | exact ⟨rfl, rfl⟩ | cases h

theorem setsText_of_expects {t last : Token} (h : Expects t last) (ht : t.continues = true)
    (hcondition : t ≠ .condition) (hstop : t ≠ .stop) : last.setsText = true := by
  cases last with
  | reference | format | match_ | substring => rfl
  | start =>
    obtain ⟨key, rfl⟩ := h
    cases ht
  | operator | condition | else_ =>
    obtain ⟨body, rfl⟩ := h
    cases ht
  | literal =>
    cases t with
    | condition => exact absurd rfl hcondition
    | stop => exact absurd rfl hstop
    | else_ => cases ht
    | text | start | reference | format | match_ | substring | operator | literal => cases h
  | text | stop => cases h

/-- The token at the start of a text, behind the given one. -/
inductive Takes (last : Option Token) : Construction Token where
  | text {s : String} {cs rest : List Char} :
    isTextual last = true → Piece s cs rest → Takes last (.text s) cs rest
  | start {rest : List Char} :
    isTextual last = true → opensSlot rest = true → Takes last .start ('\x7b' :: rest) rest
  | word {t t' : Token} {cs rest : List Char} :
    last = some t' → Expects t t' → Word t cs rest → Takes last t cs rest

theorem Takes.suffix {last : Option Token} {t : Token} {cs rest : List Char}
    (h : Takes last t cs rest) : rest <:+ cs := by
  cases h with
  | text _ piece => exact piece.suffix
  | start => exact List.suffix_cons _ _
  | word _ _ word => exact word.suffix

end Stencil.Slot
