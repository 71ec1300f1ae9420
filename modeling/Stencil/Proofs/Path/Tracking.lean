import Stencil.Proofs.Path.Cursor
import Stencil.Proofs.Path.Heads

/-!
# Reading in place is reading

A cursor stands where a reader stands, and all it looks at lies within the text: every byte is
there, and every slice starts and ends on boundaries.
-/

namespace Stencil.Path

open Text (Bytewise IsRest IsSlice OnBoundary byteLength leadByte leadByte_eq_iff)

/-- The cursor stands where the reader does, and its offsets are those of the reader's token. -/
structure Cursor.Tracks (text : String) (c : Cursor) (r : Reader) : Prop where
  place : IsRest text c.position r.rest
  position : c.position = r.position
  token : c.token = r.token
  mode : c.mode = r.mode
  done : c.done = r.done
  embedded : c.embedded = r.embedded
  segment : IsSlice text c.segment.1 c.segment.2 r.text
  behind : c.segment.2 ≤ c.position

/-- What is seen by bytes is what is found by characters. -/
inductive Sight.Tracks (text : String) : Option Sight → Scan → Prop where
  | token {c : Cursor} {r : Reader} : c.Tracks text r → Tracks text (some (.token c)) (.token r)
  | nothing {c : Cursor} {r : Reader} :
    c.Tracks text r → Tracks text (some (.nothing c)) (.nothing r)
  | fault {c : Cursor} {r : Reader} (e : PathError) :
    c.Tracks text r → Tracks text (some (.fault e c)) (.fault e r)

/-! ## Kinds of characters -/

theorem bytewise_isNameStart : Bytewise isNameStart :=
  .of_true fun c hc => by simp [isNameStart, hc]

theorem isNameChar_of_isNameStart {c : Char} (h : isNameStart c = true) : isNameChar c = true := by
  simp only [isNameStart, isNameChar, Char.isAlphanum, Bool.or_eq_true] at h ⊢
  tauto

theorem bytewise_isNameChar : Bytewise isNameChar :=
  .of_true fun c hc => by simp [isNameChar, hc]

theorem bytewise_isDigit : Bytewise Char.isDigit := .of_false fun _ hc => Text.isDigit_long hc

theorem bytewise_isNumberStart : Bytewise isNumberStart :=
  .of_false fun c hc => by
    rw [isNumberStart, Text.isDigit_long hc, Text.beq_long hc (d := '-') rfl, Bool.or_self]

theorem bytewise_isSpace : Bytewise (· == ' ') := .of_false fun _ hc => Text.beq_long hc rfl

theorem bytewise_isNoQuote : Bytewise (· != '\'') :=
  .of_true fun c hc => by rw [bne, Text.beq_long hc (d := '\'') rfl, Bool.not_false]

namespace Cursor

section

variable {text : String} {c : Cursor} {r : Reader} {front lexeme cs rest : List Char} {d : Char}
  {p : Char → Bool}

/-! ## Looking at the text -/

theorem Tracks.byteAt? (h : c.Tracks text r) :
    Text.byteAt? text c.position = r.rest.head?.map leadByte := h.place.byteAt?

theorem Tracks.passing (h : c.Tracks text r) (hp : Bytewise p) :
    Text.passing text p c.position = c.position + byteLength (r.rest.takeWhile p) :=
  h.place.passing hp

theorem Tracks.size (h : c.Tracks text r) :
    text.utf8ByteSize = c.position + byteLength r.rest := h.place.size

theorem Tracks.slice? (h : c.Tracks text r) :
    Text.slice? text c.position text.utf8ByteSize = some (String.ofList r.rest) := h.place.slice?

theorem Tracks.onBoundary (h : c.Tracks text r) : OnBoundary text c.position :=
  h.place.onBoundary

/-! ## Going on -/

theorem Tracks.onward (h : c.Tracks text r) (hrest : r.rest = front ++ rest) :
    Tracks text { c with position := c.position + byteLength front }
      { r with rest := rest, position := r.position + byteLength front } :=
  { h with
    place := (hrest ▸ h.place).onward
    position := congrArg (· + byteLength front) h.position
    behind := Nat.le_add_right_of_le h.behind }

theorem Tracks.cut (h : c.Tracks text r) (hrest : r.rest = lexeme ++ rest) (token : Token) :
    let behind := c.position + byteLength lexeme
    (c.cut token c.position behind behind).Tracks text (r.past token lexeme rest) := by
  have place : IsRest text c.position (lexeme ++ rest) := hrest ▸ h.place
  exact { h.onward hrest with
    token := rfl
    segment := place.isSlice
    behind := Nat.le_refl _ }

theorem Tracks.sign (h : c.Tracks text r) (hrest : r.rest = lexeme ++ rest) (token : Token) :
    (c.sign token (byteLength lexeme)).Tracks text (r.past token lexeme rest) := h.cut hrest token

theorem byteLength_one (one : d.utf8Size = 1) : byteLength [d] = 1 := by
  rw [Text.byteLength_cons, Text.byteLength_nil, one]

theorem Tracks.mark (h : c.Tracks text r) (hrest : r.rest = d :: cs) (one : d.utf8Size = 1)
    (token : Token) : (c.sign token 1).Tracks text (r.past token [d] cs) := by
  rw [← byteLength_one one]
  exact h.sign hrest token

theorem Tracks.step (h : c.Tracks text r) (hrest : r.rest = d :: cs) (one : d.utf8Size = 1) :
    Tracks text { c with position := c.position + 1 }
      { r with rest := cs, position := r.position + 1 } := by
  have character : r.rest = [d] ++ cs := hrest
  rw [← byteLength_one one]
  exact h.onward character

theorem Tracks.enter (h : c.Tracks text r) (mode : Mode) :
    (c.enter mode).Tracks text (r.enter mode) := { h with mode := rfl }

theorem Tracks.skipSpaces (h : c.Tracks text r) :
    (c.skipSpaces text).Tracks text r.skipSpaces := by
  unfold Cursor.skipSpaces
  rw [h.passing bytewise_isSpace]
  exact h.onward List.takeWhile_append_dropWhile.symm

theorem Tracks.pastComma (h : c.Tracks text r) (hrest : r.rest = ',' :: rest) :
    (c.pastComma text).Tracks text (r.pastComma rest) :=
  (h.step hrest rfl).skipSpaces

theorem Tracks.passing_behind (h : c.Tracks text r) (hp : Bytewise p)
    (hrest : r.rest = front ++ rest) :
    Text.passing text p (c.position + byteLength front) =
      c.position + byteLength (front ++ rest.takeWhile p) := by
  rw [Text.byteLength_append, ← Nat.add_assoc]
  exact (h.onward hrest).passing hp

theorem Tracks.peek (h : c.Tracks text r) (hrest : r.rest = d :: cs) (one : d.utf8Size = 1)
    {e : Char} (he : e.toNat < 128) :
    Text.byteAt? text (c.position + 1) = some e ↔ cs.head? = some e := by
  have place : IsRest text c.position (d :: cs) := hrest ▸ h.place
  exact place.peek one he

/-! ## Tokens by kind -/

theorem Tracks.scanString (h : c.Tracks text r) (hrest : r.rest = '\'' :: cs) :
    Sight.Tracks text (c.scanString text) r.scanString := by
  have inside := h.step hrest rfl
  have run : cs = cs.takeWhile (· != '\'') ++ cs.dropWhile (· != '\'') :=
    List.takeWhile_append_dropWhile.symm
  have stop : Text.passing text (· != '\'') (c.position + 1) =
      c.position + 1 + byteLength (cs.takeWhile (· != '\'')) := inside.passing bytewise_isNoQuote
  have slice : Text.slice? text (c.position + 1) text.utf8ByteSize = some (String.ofList cs) :=
    inside.slice?
  unfold Cursor.scanString Reader.scanString
  simp only [slice, stop, hrest, Option.map_some, inside.place.lt_size_iff]
  cases hclose : cs.dropWhile (· != '\'') with
  | nil =>
    rw [if_neg (not_not_intro rfl), h.position]
    exact .fault _ h
  | cons q rest =>
    have quote : q = '\'' := by simpa using stops_dropWhile (· != '\'') cs q (by rw [hclose]; rfl)
    rw [hclose, quote] at run
    have token := (inside.cut run .string).step rfl rfl
    have position : r.position + 1 + byteLength (cs.takeWhile (· != '\'')) + 1 =
        r.position + byteLength (cs.takeWhile (· != '\'')) + 2 := by omega
    rw [if_pos (List.cons_ne_nil q rest)]
    dsimp only
    rw [← position]
    exact .token token

theorem splitMinus_width (d : Char) (cs : List Char) (n : Nat) :
    (if leadByte d = '-' then n + 1 else n) =
      n + byteLength (Reader.splitMinus (d :: cs)).1 := by
  unfold Reader.splitMinus
  split
  · next hminus =>
    obtain rfl := (leadByte_eq_iff (by decide)).1 hminus
    rfl
  · next hminus =>
    split
    · next heq =>
      cases heq
      exact absurd rfl hminus
    · rfl

theorem Tracks.fraction (h : c.Tracks text r) {whole : List Char}
    (hrest : r.rest = whole ++ '.' :: cs) :
    let start := c.position + byteLength whole + 1
    let stop := Text.passing text Char.isDigit start
    Sight.Tracks text
      (some (if stop = start then .fault (.malformed stop .fractionExpected) c
        else .token (c.cut .number c.position stop stop)))
      (if (cs.takeWhile Char.isDigit).isEmpty then
        .fault (.malformed (r.position + byteLength whole + 1) .fractionExpected) r
      else .token (r.past .number (whole ++ '.' :: cs.takeWhile Char.isDigit)
        (cs.dropWhile Char.isDigit))) := by
  have point : r.rest = whole ++ ['.'] ++ cs := by rw [hrest, List.append_cons]
  have width : c.position + byteLength (whole ++ ['.']) = c.position + byteLength whole + 1 := by
    rw [Text.byteLength_append]
    rfl
  have stop := h.passing_behind bytewise_isDigit point
  rw [width] at stop
  dsimp only
  rw [stop, ← width, List.append_cons whole '.' (cs.takeWhile _)]
  simp only [Text.byteLength_append_eq_iff]
  split_ifs with missing
  · rw [Text.byteLength_append_eq_iff.2 missing, width, h.position]
    exact .fault _ h
  · refine .token (h.cut ?_ .number)
    rw [point, List.append_assoc _ (cs.takeWhile _), List.takeWhile_append_dropWhile]

theorem Tracks.scanNumber (h : c.Tracks text r) (hrest : r.rest = d :: cs) (fraction : Bool) :
    Sight.Tracks text (c.scanNumber text fraction) (r.scanNumber fraction) := by
  have hsplit := (Reader.splitMinus_eq (d :: cs)).1
  have minus := splitMinus_width d cs c.position
  rcases hs : Reader.splitMinus (d :: cs) with ⟨sign, tail⟩
  rw [hs] at hsplit minus
  have stop := h.passing_behind bytewise_isDigit (hrest.trans hsplit)
  have run : r.rest = (sign ++ tail.takeWhile Char.isDigit) ++ tail.dropWhile Char.isDigit := by
    rw [hrest, hsplit, List.append_assoc, List.takeWhile_append_dropWhile]
  have next := (h.onward run).byteAt?
  dsimp only at next
  unfold Cursor.scanNumber Reader.scanNumber
  simp only [h.byteAt?, hrest, hs, List.head?_cons, Option.map_some, minus, stop, next,
    Text.byteLength_append_eq_iff]
  by_cases missing : (tail.takeWhile Char.isDigit).isEmpty = true
  · rw [if_pos missing, if_pos missing, h.position]
    exact .fault _ h
  rw [if_neg missing, if_neg missing]
  by_cases point : fraction = true ∧ (tail.dropWhile Char.isDigit).head?.map leadByte = some '.'
  · rw [if_pos point]
    obtain ⟨rfl, point⟩ := point
    obtain ⟨e, he, lead⟩ := Option.map_eq_some_iff.1 point
    obtain rfl := (leadByte_eq_iff (by decide)).1 lead
    obtain ⟨more, hmore⟩ := List.head?_eq_some_iff.1 he
    rw [hmore] at run ⊢
    exact h.fraction run
  · rw [if_neg point]
    have whole := Sight.Tracks.token (h.cut run .number)
    split
    · next hmore => exact absurd ⟨rfl, by rw [hmore]; rfl⟩ point
    · exact whole

theorem Tracks.scanMember (h : c.Tracks text r) (hrest : r.rest = d :: cs) :
    Sight.Tracks text (some (c.scanMember text d)) r.scanMember := by
  rw [Reader.scanMember_cons hrest]
  unfold Cursor.scanMember
  split_ifs with star name
  · subst star
    exact .token (h.mark hrest rfl .wildcard)
  · have goesOn : isNameChar d = true := isNameChar_of_isNameStart name
    have first : Text.byteAt? text c.position = some (leadByte d) := by rw [h.byteAt?, hrest]; rfl
    have run : r.rest = (d :: cs.takeWhile isNameChar) ++ cs.dropWhile isNameChar := by
      rw [hrest, List.cons_append, List.takeWhile_append_dropWhile]
    have stop : Text.passing text isNameChar (c.position + 1) =
        c.position + byteLength (d :: cs.takeWhile isNameChar) := by
      rw [Text.passing_succ first (by rw [bytewise_isNameChar.leadByte, goesOn]),
        h.passing bytewise_isNameChar, hrest, List.takeWhile_cons_of_pos goesOn]
    dsimp only
    rw [stop]
    exact .token (h.cut run .propertyName)
  · exact .nothing h

theorem Tracks.scanRegex (h : c.Tracks text r) (hrest : r.rest = '/' :: cs) :
    Sight.Tracks text (some (c.scanRegex text)) r.scanRegex := by
  obtain ⟨front, htext, hposition⟩ := h.place
  have stop := Regex.literalEnd?_behind (htext.trans (by rw [hrest]))
  rw [hposition, ← hrest] at stop
  unfold Cursor.scanRegex Reader.scanRegex
  rw [stop]
  rcases hcut : Regex.cutLiteral? r.rest with _ | ⟨literal, rest⟩
  · dsimp only [Option.map_none]
    rw [h.position]
    exact .fault _ h
  · exact .token (h.cut (cutLiteral?_sound hcut).1 .regex)

theorem Tracks.scanEndFilter (h : c.Tracks text r) (hrest : r.rest = d :: cs) :
    Sight.Tracks text (some (c.scanEndFilter d)) r.scanEndFilter := by
  rw [Reader.scanEndFilter_cons hrest]
  unfold Cursor.scanEndFilter
  split_ifs with close
  · subst close
    rw [h.mode]
    exact .token ((h.mark hrest rfl .endFilter).enter _)
  · exact .nothing h

theorem Tracks.scanEndExpression (h : c.Tracks text r) (hrest : r.rest = d :: cs) :
    Sight.Tracks text (some (c.scanEndExpression d)) r.scanEndExpression := by
  rw [Reader.scanEndExpression_cons hrest]
  unfold Cursor.scanEndExpression
  rw [h.mode]
  split_ifs with close
  · obtain ⟨rfl, -⟩ := close
    exact .token ((h.mark hrest rfl .endExpression).enter _)
  · exact .nothing h

theorem Tracks.opensWith (h : c.Tracks text r) (op : Operator) :
    c.opensWith text (String.ofList r.rest) op = (Reader.afterOperator? r.rest op).isSome := by
  unfold Cursor.opensWith Reader.afterOperator?
  rw [String.toList_ofList]
  dsimp only
  cases hprefix : op.symbol.toList.isPrefixOf r.rest with
  | false => rfl
  | true =>
    obtain ⟨rest, hrest⟩ := List.isPrefixOf_iff_prefix.1 hprefix
    have next := (h.onward hrest.symm).byteAt?
    dsimp only at next
    have ends : (rest.head?.map leadByte).any isNameChar =
        (rest.head?.map isNameChar).getD false := by
      cases rest with
      | nil => rfl
      | cons e rest => exact bytewise_isNameChar.leadByte e
    rw [next, ← hrest, List.drop_left, if_pos rfl, ends, Bool.true_and]
    cases Operator.words.contains op <;> cases (rest.head?.map isNameChar).getD false <;> rfl

theorem Tracks.scanOperator (h : c.Tracks text r) :
    Sight.Tracks text (c.scanOperator text) r.scanOperator := by
  have alike : (Operator.signs ++ Operator.words).find? (c.opensWith text (String.ofList r.rest)) =
      ((Operator.signs ++ Operator.words).findSome? fun op =>
        (Reader.afterOperator? r.rest op).map fun rest => (op, rest)).map Prod.fst := by
    induction Operator.signs ++ Operator.words with
    | nil => rfl
    | cons op ops ih =>
      rw [List.find?_cons, List.findSome?_cons, h.opensWith, ih]
      cases Reader.afterOperator? r.rest op <;> rfl
  unfold Cursor.scanOperator Reader.scanOperator
  rw [h.slice?, Option.map_some]
  dsimp only
  rw [alike]
  cases hfound : (Operator.signs ++ Operator.words).findSome? fun op =>
    (Reader.afterOperator? r.rest op).map fun rest => (op, rest) with
  | none => exact .nothing h
  | some found =>
    obtain ⟨op, rest⟩ := found
    obtain ⟨_, -, hop⟩ := List.exists_of_findSome?_eq_some hfound
    obtain ⟨rest, hafter, he⟩ := Option.map_eq_some_iff.1 hop
    cases he
    exact .token (h.sign (Reader.afterOperator?_eq_some.1 hafter).1 _)

end

end Cursor

end Stencil.Path
