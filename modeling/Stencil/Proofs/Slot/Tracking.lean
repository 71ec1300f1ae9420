import Stencil.Proofs.Slot.Boundaries
import Stencil.Proofs.Slot.Cursor

/-!
# Reading slot text in place is reading it

A cursor that stands where a lexer stands answers as the lexer does and stays with it: every byte it
looks at is there, and every slice that it takes starts and ends on boundaries. Inside of a character
behind a quoted text there is nothing to take.
-/

namespace Stencil.Slot

open Text (Bytewise IsRest OnBoundary byteAt? byteLength leadByte leadByte_eq_iff)

/-! ## Kinds of characters -/

theorem isSpace_long {c : Char} (hc : 128 ≤ c.toNat) : isSpace c = false := by
  simp only [isSpace, Text.beq_long hc (d := ' ') rfl, Text.beq_long hc (d := '\t') rfl,
    Text.beq_long hc (d := '\n') rfl, Text.beq_long hc (d := '\r') rfl,
    Text.beq_long hc (d := '\x0c') rfl, Bool.or_self]

theorem bytewise_isSpace : Bytewise isSpace := .of_false fun _ hc => isSpace_long hc

theorem bytewise_isNameStart : Bytewise isNameStart :=
  .of_false fun c hc => by
    rw [isNameStart, Text.isAlpha_long hc, Text.beq_long hc (d := '_') rfl, Bool.or_self]

theorem bytewise_isNameChar : Bytewise isNameChar :=
  .of_false fun c hc => by
    rw [isNameChar, Char.isAlphanum, Text.isAlpha_long hc, Text.isDigit_long hc,
      Text.beq_long hc (d := '_') rfl, Bool.or_self, Bool.or_self]

theorem bytewise_isReferenceStart : Bytewise isReferenceStart :=
  .of_false fun c hc => by
    simp only [isReferenceStart, isNameStart, Text.isAlpha_long hc, Text.beq_long hc (d := '$') rfl,
      Text.beq_long hc (d := '/') rfl, Text.beq_long hc (d := '_') rfl, Bool.or_self]

theorem endsHtmlPath_long {c : Char} (hc : 128 ≤ c.toNat) : endsHtmlPath c = false := by
  simp only [endsHtmlPath, endsFormat, Text.beq_long hc (d := ' ') rfl,
    Text.beq_long hc (d := '\x7d') rfl, Text.beq_long hc (d := ':') rfl,
    Text.beq_long hc (d := '=') rfl, Text.beq_long hc (d := '!') rfl,
    Text.beq_long hc (d := '<') rfl, Text.beq_long hc (d := '>') rfl,
    Text.beq_long hc (d := '?') rfl, Bool.or_self]

/-! ## HTML paths -/

section

variable {text : String} {i k depth : Nat} {quote : Option Char} {b c : Char} {cs rest : List Char}

theorem htmlPath_step (depth : Nat) (quote : Option Char) (c : Char) (cs : List Char) :
    htmlPath depth quote (c :: cs) =
      match htmlStep depth quote c with
      | none => ([], c :: cs, true)
      | some (depth, quote) => prepend [c] (htmlPath depth quote cs) := by
  rw [htmlPath.eq_def]
  unfold htmlStep
  cases quote with
  | some q => rfl
  | none =>
    dsimp only
    split_ifs <;> rfl

theorem htmlPathEnd?_none (h : byteAt? text i = none) :
    htmlPathEnd? text depth quote i = if depth = 0 ∧ quote = none then some i else none := by
  rw [htmlPathEnd?]
  split
  · rfl
  · next hb =>
    rw [h] at hb
    cases hb

theorem htmlPathEnd?_some (h : byteAt? text i = some b) :
    htmlPathEnd? text depth quote i =
      match htmlStep depth quote b with
      | none => some i
      | some (depth, quote) => htmlPathEnd? text depth quote (i + 1) := by
  rw [htmlPathEnd?]
  split
  · next hb =>
    rw [h] at hb
    cases hb
  · next hb =>
    rw [h] at hb
    cases hb
    rfl

/-- Quotes are single bytes. -/
def IsShort (quote : Option Char) : Prop := ∀ q, quote = some q → q.toNat < 128

theorem htmlStep_long (hquote : IsShort quote) (hb : 128 ≤ b.toNat) :
    htmlStep depth quote b = some (depth, quote) := by
  have other {d : Char} (hd : d.toNat < 128) : b ≠ d := by
    rintro rfl
    omega
  cases quote with
  | some q => rw [htmlStep, if_neg (other (hquote q rfl))]
  | none =>
    have ends : ¬ (depth = 0 ∧ endsHtmlPath b = true) := by
      rw [endsHtmlPath_long hb]
      exact fun h => Bool.false_ne_true h.2
    have opens : ¬ ((b = '\'' ∨ b = '"') ∧ 0 < depth) := fun h =>
      h.1.elim (other (by decide)) (other (by decide))
    rw [htmlStep, if_neg opens, if_neg (other (by decide)), if_neg (other (by decide)),
      if_neg ends]

theorem htmlStep_isShort {further : Nat} {left : Option Char} (hquote : IsShort quote)
    (h : htmlStep depth quote c = some (further, left)) : IsShort left := by
  cases quote with
  | some q =>
    cases h
    split_ifs
    · exact nofun
    · exact hquote
  | none =>
    rw [htmlStep] at h
    split_ifs at h with opens <;> cases h
    · rintro q ⟨⟩
      rcases opens.1 with rfl | rfl <;> decide
    all_goals exact nofun

theorem htmlPathEnd?_of_long (hquote : IsShort quote)
    (h : ∀ j < k, ∃ b, byteAt? text (i + j) = some b ∧ 128 ≤ b.toNat) :
    htmlPathEnd? text depth quote i = htmlPathEnd? text depth quote (i + k) := by
  induction k generalizing i with
  | zero => rfl
  | succ k ih =>
    obtain ⟨b, hb, long⟩ := h 0 (Nat.succ_pos k)
    rw [htmlPathEnd?_some (i := i) hb, htmlStep_long hquote long, Nat.add_comm k 1, ← Nat.add_assoc]
    refine ih fun j hj => ?_
    rw [Nat.add_assoc, Nat.add_comm 1 j]
    exact h (j + 1) (Nat.succ_lt_succ hj)

/-- The offset behind the path, if all of its brackets and quotes are closed. -/
def closedEnd (i : Nat) : List Char × List Char × Bool → Option Nat
  | (path, _, closed) => if closed then some (i + byteLength path) else none

theorem closedEnd_prepend (i : Nat) (c : Char) (x : List Char × List Char × Bool) :
    closedEnd i (prepend [c] x) = closedEnd (i + c.utf8Size) x := by
  obtain ⟨path, rest, closed⟩ := x
  rw [prepend, closedEnd, closedEnd, List.singleton_append, Text.byteLength_cons, Nat.add_assoc]

-- By induction on the characters. A character that is a byte is one step on both sides, and the
-- bytes of a longer one are passed without a change.
theorem htmlPathEnd?_eq (hquote : IsShort quote) (h : IsRest text i rest) :
    htmlPathEnd? text depth quote i = closedEnd i (htmlPath depth quote rest) := by
  induction rest generalizing i depth quote with
  | nil =>
    rw [htmlPathEnd?_none h.byteAt?, htmlPath, closedEnd]
    cases quote <;> simp
  | cons c cs ih =>
    rw [htmlPath_step]
    rcases Nat.lt_or_ge c.toNat 128 with hc | hc
    · have one := Text.utf8Size_short hc
      rw [htmlPathEnd?_some (h.head hc)]
      cases hstep : htmlStep depth quote c with
      | none => rfl
      | some behind =>
        dsimp only
        rw [closedEnd_prepend, one, ih (htmlStep_isShort hquote hstep) (h.step one)]
    · have onward := h.next
      obtain ⟨front, htext, rfl⟩ := h
      rw [htmlStep_long hquote hc]
      dsimp only
      rw [closedEnd_prepend, ← ih hquote onward]
      exact htmlPathEnd?_of_long hquote fun j hj => Text.byteAt?_inside htext hc hj

end

/-! ## Calls -/

/-- Where the lexer stands, and the token in front of it. -/
def Lexer.cursor (l : Lexer) : Cursor := ⟨l.position, l.last⟩

/-- What a call of a lexer comes to for the cursor. -/
def inPlace (x : Except SlotError (Option Token) × Lexer) : Call := (x.1, x.2.cursor)

open Lexer

section

variable {text : String} {l : Lexer} {c d : Char} {cs rest : List Char}

theorem behind?_eq {i : Nat} (h : IsRest text i rest) (p : Char → Bool) :
    behind? text p i = some (i + byteLength (rest.takeWhile p)) := by
  rw [behind?, h.slice?, Option.map_some, String.toList_ofList]

theorem Stands.byteAt? (h : Stands text l) :
    Text.byteAt? text l.cursor.position = l.rest.head?.map leadByte := h.place.byteAt?

theorem Stands.follows (h : Stands text l) (hrest : l.rest = rest) :
    IsRest text l.cursor.position rest := hrest ▸ h.place

theorem Stands.skipSpaces (h : Stands text l) : l.cursor.skipSpaces text = l.skipSpaces.cursor :=
  congrArg (Cursor.mk · l.last) (h.place.passing bytewise_isSpace)

theorem Stands.unexpected (h : Stands text l) (hd : l.rest.head?.getD ' ' = d) :
    l.cursor.unexpected text l.position =
      some (inPlace (l.fail (.unexpectedCharacter d))) := by
  rw [Cursor.unexpected, h.place.slice?, Option.map_some, String.toList_ofList, hd]
  rfl

theorem Stands.piece? (h : Stands text l) (kind : String → Token) (front body tail : List Char)
    (hrest : l.rest = cs ++ rest) (hcs : cs = front ++ (body ++ tail)) {start stop behind : Nat}
    (hstart : start = l.position + byteLength front) (hstop : stop = start + byteLength body)
    (hbehind : behind = stop + byteLength tail) :
    Cursor.piece? text kind start stop behind =
      some (inPlace (l.emit (kind (String.ofList body)) cs rest)) := by
  have split : l.rest = front ++ (body ++ (tail ++ rest)) := by
    rw [hrest, hcs, List.append_assoc, List.append_assoc]
  have place : IsRest text start (body ++ (tail ++ rest)) := by
    rw [hstart]
    exact (h.follows split).onward
  have width : l.position + byteLength cs = behind := by
    rw [hbehind, hstop, hstart, hcs, Text.byteLength_append, Text.byteLength_append]
    omega
  rw [Cursor.piece?, hstop, place.isSlice.slice?, Option.map_some, ← width]
  rfl

/-! ## Text -/

theorem readText_nil (hrest : l.rest = []) : l.readText = (.ok none, l) := by
  unfold Lexer.readText
  rw [hrest]

theorem readText_cons (hrest : l.rest = d :: cs) :
    l.readText =
      if d = '\x7b' ∨ d = '\x7d' then
        if cs.head? = some d then l.emit (.text (String.ofList [d])) [d, d] cs.tail
        else if d = '\x7b' ∧ (cs.dropWhile isSpace).head?.any isReferenceStart = true then
          l.emit .start [d] cs
        else l.emit (.text (String.ofList [d])) [d] cs
      else
        let isPlain (c : Char) : Bool := c != '\x7b' && c != '\x7d'
        l.emit (.text (String.ofList ((d :: cs).takeWhile isPlain))) ((d :: cs).takeWhile isPlain)
          ((d :: cs).dropWhile isPlain) := by
  unfold Lexer.readText
  rw [hrest]
  split
  · next h => cases h
  · next h =>
    cases h
    rfl
  · next h =>
    cases h
    rfl
  · next hsingle h =>
    cases h
    have single : ¬ cs.head? = some '\x7b' := by
      rw [List.head?_eq_some_iff]
      rintro ⟨more, rfl⟩
      exact hsingle more rfl
    rw [if_pos (.inl rfl), if_neg single]
    cases cs.dropWhile isSpace with
    | nil => rfl
    | cons c more => cases hc : isReferenceStart c <;> simp [hc]
  · next h =>
    cases h
    simp_all [List.head?_eq_some_iff]
  · next hopen hclose => simp_all

theorem Stands.readText (h : Stands text l) :
    l.cursor.readText text = some (inPlace l.readText) := by
  unfold Cursor.readText
  rw [h.byteAt?]
  cases hrest : l.rest with
  | nil =>
    rw [readText_nil hrest]
    rfl
  | cons d cs =>
    have place := h.follows hrest
    rw [readText_cons hrest, List.head?_cons, Option.map_some]
    dsimp only
    simp (disch := decide) only [leadByte_eq_iff]
    by_cases brace : d = '\x7b' ∨ d = '\x7d'
    · have short : d.toNat < 128 := by rcases brace with rfl | rfl <;> decide
      have one := Text.utf8Size_short short
      have opens := ((place.step one).passed bytewise_isSpace).byteAt?
      have width : byteLength [d] = 1 := by rw [Text.byteLength_cons, one, Text.byteLength_nil]
      rw [if_pos brace, if_pos brace, Text.leadByte_short short, opens]
      simp only [place.peek one short, Option.any_map, bytewise_isReferenceStart.leadByte]
      split_ifs with doubled
      · obtain ⟨more, rfl⟩ := List.head?_eq_some_iff.1 doubled
        exact h.piece? .text [] [d] [d] hrest rfl rfl (by rw [width]) (by rw [width])
      · rw [Cursor.past, ← width]
        rfl
      · exact h.piece? .text [] [d] [] hrest rfl rfl (by rw [width]) rfl
    · rw [if_neg brace, if_neg brace, behind?_eq place]
      exact h.piece? .text [] _ [] (hrest.trans List.takeWhile_append_dropWhile.symm)
        (List.append_nil _).symm rfl rfl rfl

/-! ## References -/

theorem Stands.spaced (h : Stands text l) : Stands text l.skipSpaces :=
  h.of_advances (advances_skipSpaces l)

theorem readReference_nil (hrest : l.skipSpaces.rest = []) :
    l.readReference = l.skipSpaces.fail (.unexpectedCharacter ' ') := by
  unfold Lexer.readReference
  dsimp only
  rw [hrest]

theorem readReference_cons (hrest : l.skipSpaces.rest = d :: cs) :
    l.readReference =
      if d = '$' then
        match Path.embeddedLength (String.ofList ('$' :: cs)) with
        | .error e => (.error (.path e), l.skipSpaces)
        | .ok n =>
          let (path, rest) := splitBytes (n - 1) cs
          l.skipSpaces.emit (.reference (String.ofList ('$' :: path))) ('$' :: path) rest
      else if d = '/' then
        let (path, rest, closed) := htmlPath 0 none (d :: cs)
        if closed then l.skipSpaces.emit (.reference (String.ofList path)) path rest
        else l.skipSpaces.fail .openPredicate
      else if isNameStart d then
        let name := d :: cs.takeWhile isNameChar
        l.skipSpaces.emit (.reference (String.ofList name)) name (cs.dropWhile isNameChar)
      else l.skipSpaces.fail (.unexpectedCharacter d) := by
  unfold Lexer.readReference
  dsimp only
  rw [hrest]
  split
  · next h =>
    cases h
    rfl
  · next h =>
    cases h
    rfl
  · next hdollar hslash h =>
    cases h
    rw [if_neg hdollar, if_neg hslash]
  · next h => cases h

theorem isNameChar_of_isNameStart (h : isNameStart c = true) : isNameChar c = true := by
  simp only [isNameStart, isNameChar, Char.isAlphanum, Bool.or_eq_true] at h ⊢
  tauto

theorem Stands.readReference (h : Stands text l) :
    l.cursor.readReference text = some (inPlace l.readReference) := by
  have spaced := h.spaced
  unfold Cursor.readReference
  rw [h.skipSpaces]
  dsimp only
  rw [spaced.byteAt?]
  cases hrest : l.skipSpaces.rest with
  | nil =>
    rw [readReference_nil hrest]
    exact spaced.unexpected (by rw [hrest]; rfl)
  | cons d cs =>
    have place := spaced.follows hrest
    rw [readReference_cons hrest, List.head?_cons, Option.map_some]
    dsimp only
    simp (disch := decide) only [leadByte_eq_iff, bytewise_isNameStart.leadByte]
    by_cases dollar : d = '$'
    · subst dollar
      rw [if_pos rfl, if_pos rfl, place.slice?, Option.bind_some]
      rcases hn : Path.embeddedLength (String.ofList ('$' :: cs)) with e | n
      · rfl
      · obtain ⟨path, rest, hpath, rfl⟩ := Path.embeddedLength_eq_ok hn
        obtain rfl := (List.cons.inj hpath).2
        have one : '$'.utf8Size = 1 := rfl
        dsimp only
        rw [Text.byteLength_cons, one, Nat.add_sub_cancel_left, splitBytes_front]
        exact spaced.piece? .reference [] ('$' :: path) [] hrest (List.append_nil _).symm rfl
          (by rw [Text.byteLength_cons, one]) rfl
    rw [if_neg dollar, if_neg dollar]
    by_cases slash : d = '/'
    · subst slash
      rw [if_pos rfl, if_pos rfl, htmlPathEnd?_eq (fun _ h => by cases h) place]
      rcases hp : htmlPath 0 none ('/' :: cs) with ⟨path, rest, _ | _⟩
      · rfl
      · obtain ⟨split, -, -⟩ := htmlPath_sound hp
        exact spaced.piece? .reference [] path [] (hrest.trans split) (List.append_nil _).symm rfl
          rfl rfl
    rw [if_neg slash, if_neg slash]
    split_ifs with name
    · have goesOn := isNameChar_of_isNameStart name
      have stop : Text.passing text isNameChar (l.skipSpaces.cursor.position + 1) =
          l.skipSpaces.cursor.position + byteLength (d :: cs.takeWhile isNameChar) := by
        rw [← List.takeWhile_cons_of_pos goesOn, ← place.passing bytewise_isNameChar]
        exact Text.passing_succ place.byteAt? (by rw [bytewise_isNameChar.leadByte, goesOn])
      have run : l.skipSpaces.rest = d :: cs.takeWhile isNameChar ++ cs.dropWhile isNameChar := by
        rw [hrest, List.cons_append, List.takeWhile_append_dropWhile]
      exact spaced.piece? .reference [] _ [] run (List.append_nil _).symm rfl stop rfl
    · exact spaced.unexpected (by rw [hrest]; rfl)

/-! ## Modifiers -/

theorem Stands.readMatch (h : Stands text l) (hrest : l.rest = ':' :: '/' :: cs) :
    l.cursor.readMatch text (l.cursor.position + 1) =
      some (inPlace (l.readMatch ('/' :: cs))) := by
  obtain ⟨front, htext, hposition⟩ := (h.follows hrest).step rfl
  have stop := Regex.literalEnd?_behind htext
  rw [hposition] at stop
  unfold Cursor.readMatch Lexer.readMatch
  rw [stop]
  rcases hcut : Regex.cutLiteral? ('/' :: cs) with _ | ⟨literal, rest⟩
  · rfl
  · have run : l.rest = ':' :: literal ++ rest := by
      rw [hrest, (Path.cutLiteral?_sound hcut).1, List.cons_append]
    exact h.piece? .match_ [':'] literal [] run (by simp) rfl rfl rfl

theorem Stands.readFormat (h : Stands text l) (hrest : l.rest = ':' :: cs) :
    l.cursor.readFormat text (l.cursor.position + 1) = some (inPlace (l.readFormat cs)) := by
  have place := (h.follows hrest).step rfl
  unfold Cursor.readFormat Lexer.readFormat
  rw [behind?_eq place, Option.bind_some]
  have empty : l.cursor.position + 1 + byteLength (cs.takeWhile fun c => !endsFormat c) =
      l.cursor.position + 1 ↔ (cs.takeWhile fun c => !endsFormat c).isEmpty = true :=
    @Text.byteLength_append_eq_iff [] _ _
  simp only [empty]
  split_ifs with missing
  · rfl
  · have run : l.rest = (':' :: cs.takeWhile fun c => !endsFormat c) ++
        cs.dropWhile fun c => !endsFormat c := by
      rw [hrest, List.cons_append, List.takeWhile_append_dropWhile]
    exact h.piece? .format [':'] _ [] run (by simp) rfl rfl rfl

theorem Stands.readSubstring (h : Stands text l) (hrest : l.rest = ':' :: '[' :: cs) :
    l.cursor.readSubstring text (l.cursor.position + 2) = some (inPlace (l.readSubstring cs)) := by
  have place : IsRest text (l.cursor.position + 2) cs := ((h.follows hrest).step rfl).step rfl
  unfold Cursor.readSubstring Lexer.readSubstring
  rw [behind?_eq place, Option.bind_some]
  simp only [place.lt_size_iff]
  rcases hcs : cs.dropWhile (· != ']') with _ | ⟨c, rest⟩
  · rfl
  · obtain ⟨hcut, -⟩ := Path.dropWhile_ne_eq_cons hcs
    have run : l.rest = ':' :: '[' :: cs.takeWhile (· != ']') ++ [']'] ++ rest := by
      rw [hrest]
      simpa using hcut
    rw [if_pos (List.cons_ne_nil c rest)]
    exact h.piece? .substring [':', '['] _ [']'] run (by simp) rfl rfl rfl

theorem readOperator_cons (hrest : l.rest = d :: cs) :
    l.readOperator =
      let isLonger := cs.head? = some '='
      let longer (op : Comparison) := l.emit (.operator op) [d, '='] cs.tail
      if d = '=' ∧ isLonger then longer .equal
      else if d = '!' ∧ isLonger then longer .notEqual
      else if d = '<' ∧ isLonger then longer .lessEq
      else if d = '>' ∧ isLonger then longer .greaterEq
      else if d = '<' then l.emit (.operator .less) [d] cs
      else if d = '>' then l.emit (.operator .greater) [d] cs
      else l.fail .comparisonExpected := by
  unfold Lexer.readOperator
  rw [hrest]
  by_cases longer : cs.head? = some '='
  · obtain ⟨more, rfl⟩ := List.head?_eq_some_iff.1 longer
    split
    case h_5 hsingle h | h_6 hsingle h =>
      cases h
      exact (hsingle more rfl).elim
    all_goals simp_all
  · have short : ∀ more, cs ≠ '=' :: more := by
      rintro more rfl
      exact longer rfl
    split <;> simp_all

theorem Stands.readOperator (h : Stands text l) (hrest : l.rest = d :: cs) (hd : d.toNat < 128) :
    l.cursor.readOperator text d = inPlace l.readOperator := by
  have one := Text.utf8Size_short hd
  have width : l.position + byteLength [d] = l.position + 1 := by
    rw [Text.byteLength_cons, one, Text.byteLength_nil]
  have longer : l.position + byteLength [d, '='] = l.position + 2 := by
    rw [Text.byteLength_cons, one]
    rfl
  unfold Cursor.readOperator
  rw [readOperator_cons hrest]
  simp only [(h.follows hrest).peek one (d := '=') (by decide)]
  split_ifs <;> simp only [inPlace, emit, skip, Lexer.cursor, width, longer] <;> rfl

theorem readModifier_nil (hrest : l.skipSpaces.rest = []) :
    l.readModifier = l.skipSpaces.fail .notTerminated := by
  unfold Lexer.readModifier
  dsimp only
  rw [hrest]

theorem readModifier_cons (hrest : l.skipSpaces.rest = d :: cs) :
    l.readModifier =
      if d = '\x7d' then l.skipSpaces.emit .stop [d] cs
      else if d = '?' then l.skipSpaces.emit .condition [d] cs
      else if d = ':' then
        if cs.head? = some '/' then l.skipSpaces.readMatch cs
        else if cs.head? = some '[' then l.skipSpaces.readSubstring cs.tail
        else l.skipSpaces.readFormat cs
      else if d = '=' ∨ d = '!' ∨ d = '<' ∨ d = '>' then l.skipSpaces.readOperator
      else l.skipSpaces.fail (.unexpectedCharacter d) := by
  unfold Lexer.readModifier
  dsimp only
  rw [hrest]
  split <;> simp_all [List.head?_eq_some_iff]

theorem Stands.readModifier (h : Stands text l) :
    l.cursor.readModifier text = some (inPlace l.readModifier) := by
  have spaced := h.spaced
  unfold Cursor.readModifier
  rw [h.skipSpaces]
  dsimp only
  rw [spaced.byteAt?]
  cases hrest : l.skipSpaces.rest with
  | nil =>
    rw [readModifier_nil hrest]
    rfl
  | cons d cs =>
    have place := spaced.follows hrest
    rw [readModifier_cons hrest, List.head?_cons, Option.map_some]
    dsimp only
    simp (disch := decide) only [leadByte_eq_iff]
    by_cases colon : d = ':'
    · subst colon
      simp only [place.peek rfl (d := '/') (by decide), place.peek rfl (d := '[') (by decide),
        Char.reduceEq, if_false, if_true]
      split_ifs with slash bracket
      · obtain ⟨more, rfl⟩ := List.head?_eq_some_iff.1 slash
        exact spaced.readMatch hrest
      · obtain ⟨more, rfl⟩ := List.head?_eq_some_iff.1 bracket
        exact spaced.readSubstring hrest
      · exact spaced.readFormat hrest
    rw [if_neg colon, if_neg colon]
    split_ifs with close question operator
    · subst close
      rfl
    · subst question
      rfl
    · have short : d.toNat < 128 := by rcases operator with rfl | rfl | rfl | rfl <;> decide
      rw [Text.leadByte_short short, spaced.readOperator hrest short]
    · exact spaced.unexpected (by rw [hrest]; rfl)

/-! ## Quoted texts -/

theorem readLiteral_nil (hrest : l.skipSpaces.rest = []) :
    l.readLiteral = l.skipSpaces.fail .notTerminated := by
  unfold Lexer.readLiteral
  dsimp only
  rw [hrest]

theorem readLiteral_cons (hrest : l.skipSpaces.rest = d :: cs) :
    l.readLiteral =
      if d = '\'' then
        let body := cs.takeWhile (· != '\'')
        match cs.dropWhile (· != '\'') with
        | _ :: rest =>
          l.skipSpaces.emit (.literal (String.ofList body)) ('\'' :: body ++ ['\'']) rest
        | [] => l.skipSpaces.fail .openQuote
      else l.skipSpaces.fail .quoteExpected := by
  unfold Lexer.readLiteral
  dsimp only
  rw [hrest]
  split
  · next h => cases h
  · next h =>
    cases h
    rfl
  · next hquote =>
    rw [if_neg]
    rintro rfl
    exact hquote cs rfl

theorem Stands.readLiteral (h : Stands text l) :
    l.cursor.readLiteral text = some (inPlace l.readLiteral) := by
  have spaced := h.spaced
  unfold Cursor.readLiteral
  rw [h.skipSpaces]
  dsimp only
  rw [spaced.byteAt?]
  cases hrest : l.skipSpaces.rest with
  | nil =>
    rw [readLiteral_nil hrest]
    rfl
  | cons d cs =>
    have place := spaced.follows hrest
    rw [readLiteral_cons hrest, List.head?_cons, Option.map_some]
    dsimp only
    simp (disch := decide) only [leadByte_eq_iff]
    split_ifs with quote
    · subst quote
      have behind := place.step rfl
      rw [behind?_eq behind, Option.bind_some]
      simp only [behind.lt_size_iff]
      rcases hcs : cs.dropWhile (· != '\'') with _ | ⟨c, rest⟩
      · rfl
      · obtain ⟨hcut, -⟩ := Path.dropWhile_ne_eq_cons hcs
        have run : l.skipSpaces.rest = '\'' :: cs.takeWhile (· != '\'') ++ ['\''] ++ rest := by
          rw [hrest]
          simpa using hcut
        rw [if_pos (List.cons_ne_nil c rest)]
        exact spaced.piece? .literal ['\''] _ ['\''] run (by simp) rfl rfl rfl
    · rfl

theorem readAfterLiteral_nil (hinside : l.inside = false) (hrest : l.skipSpaces.rest = []) :
    l.readAfterLiteral = l.skipSpaces.fail .notTerminated := by
  unfold Lexer.readAfterLiteral
  rw [hinside, if_neg Bool.false_ne_true]
  dsimp only
  rw [hrest]

theorem inPlace_readAfterLiteral (hinside : l.inside = false) (hrest : l.skipSpaces.rest = d :: cs) :
    inPlace l.readAfterLiteral =
      let next : Cursor := { l.skipSpaces.cursor with position := l.skipSpaces.position + 1 }
      if d = '?' then Cursor.past .condition next.position
      else if d = ':' then Cursor.past .else_ next.position
      else if d = '\x7d' then Cursor.past .stop next.position
      else next.fail l.skipSpaces.position (.unexpectedCharacter d) := by
  unfold Lexer.readAfterLiteral
  rw [hinside, if_neg Bool.false_ne_true]
  dsimp only
  rw [hrest]
  split
  · next h => cases h
  · next h =>
    cases h
    rfl
  · next h =>
    cases h
    rfl
  · next h =>
    cases h
    rfl
  · next hquestion hcolon hclose h =>
    cases h
    rw [if_neg hquestion, if_neg hcolon, if_neg hclose]
    split_ifs <;> rfl

theorem Stands.readAfterLiteral (h : Stands text l) :
    l.cursor.readAfterLiteral text = some (inPlace l.readAfterLiteral) := by
  have spaced := h.spaced
  unfold Cursor.readAfterLiteral
  rw [h.skipSpaces]
  dsimp only
  rw [spaced.byteAt?]
  cases hrest : l.skipSpaces.rest with
  | nil =>
    rw [readAfterLiteral_nil h.whole hrest]
    rfl
  | cons d cs =>
    rw [inPlace_readAfterLiteral h.whole hrest, List.head?_cons, Option.map_some]
    dsimp only
    simp (disch := decide) only [leadByte_eq_iff]
    split_ifs
    · rfl
    · rfl
    · rfl
    · rw [Cursor.unexpected, (spaced.follows hrest).slice?, Option.map_some, String.toList_ofList]
      rfl

/-! ## Repeated calls -/

/-- A call of the cursor comes to what the call of the lexer comes to. -/
theorem Stands.next (h : Stands text l) : l.cursor.next text = some (inPlace l.next) := by
  have same : l.cursor.last = l.last := rfl
  unfold Cursor.next Lexer.next
  rw [same]
  rcases l.last with _ | t
  · exact h.readText
  cases t with
  | text | stop => exact h.readText
  | start => exact h.readReference
  | reference | format | match_ | substring => exact h.readModifier
  | operator | condition | else_ => exact h.readLiteral
  | literal => exact h.readAfterLiteral

theorem next_inside {front : List Char} (s : String) (htext : text.toList = front ++ c :: rest)
    (hc : 1 < c.utf8Size) :
    Cursor.next text ⟨byteLength front + 1, some (.literal s)⟩ = none := by
  have big : 128 ≤ c.toNat := by
    refine Nat.le_of_not_lt fun small => ?_
    rw [Text.utf8Size_short small] at hc
    exact Nat.lt_irrefl 1 hc
  obtain ⟨b, hb, long⟩ := Text.byteAt?_inside htext big hc
  have other {d : Char} (hd : d.toNat < 128) : b ≠ d := by
    rintro rfl
    omega
  have stays : Text.passing text isSpace (byteLength front + 1) = byteLength front + 1 :=
    Text.passing_stop hb (isSpace_long long)
  unfold Cursor.next Cursor.readAfterLiteral Cursor.skipSpaces Cursor.unexpected
  dsimp only
  rw [stays, hb]
  dsimp only
  rw [if_neg (other (by decide)), if_neg (other (by decide)), if_neg (other (by decide)),
    Text.slice?, if_neg fun h => Text.not_onBoundary_inside htext hc h.1]
  rfl

theorem after?_eq {n : Nat} (h : ∀ k < n, ((Lexer.start text).after k).splits = false) :
    Cursor.start.after? text n = some ((Lexer.start text).after n).cursor := by
  induction n with
  | zero => rfl
  | succ n ih =>
    have before : ∀ k < n, ((Lexer.start text).after k).splits = false := fun k hk =>
      h k (Nat.lt_succ_of_lt hk)
    rw [Cursor.after?, ih before, Option.bind_some, (stands_after before).next, Option.map_some]
    rfl

/-- However often a lexer is asked for a token, it stays on the boundaries of characters. Done in
place, no call looks at a byte beyond the text or cuts a character in two, until one behind a quoted
text comes to a character of several bytes. That call leaves the lexer inside of the character,
where the next one cannot cut the text. -/
theorem next_on_boundaries (text : String) (n : Nat)
    (h : ∀ k < n, ((start text).after k).splits = false) :
    OnBoundaries text ((start text).after n) ∧
      (Cursor.start.after? text n = some ((start text).after n).cursor ∧
        ((start text).after n).cursor.next text =
          some (((start text).after n).next.1, ((start text).after (n + 1)).cursor)) ∧
      (((start text).after n).splits = true →
        ¬ OnBoundary text ((start text).after (n + 1)).position ∧
        ((start text).after (n + 1)).next =
          ((start text).after (n + 1)).fail .insideCharacter ∧
        ((start text).after (n + 1)).cursor.next text = none) := by
  have stands := stands_after h
  refine ⟨stands.onBoundaries, ⟨after?_eq h, stands.next⟩, fun hsplits => ?_⟩
  obtain ⟨front, c, rest, htext, hc, hsplit⟩ := stands.next_splits hsplits
  obtain ⟨s, -, -, hlast, -, -⟩ := splits_iff.1 hsplits
  have behind : (start text).after (n + 1) =
      ⟨c :: rest, byteLength front + 1, some (.literal s), true⟩ := by
    rw [after, hsplit, hlast]
  rw [behind]
  exact ⟨Text.not_onBoundary_inside htext hc, rfl, next_inside s htext hc⟩

theorem next_on_boundaries_quoted :
    (∀ k < 4, ((start "\x7ba?'b'\u00e9").after k).splits = false) ∧
    OnBoundaries "\x7ba?'b'\u00e9" ((start "\x7ba?'b'\u00e9").after 4) ∧
    Cursor.start.after? "\x7ba?'b'\u00e9" 4 = some ⟨6, some (.literal "b")⟩ ∧
    ((start "\x7ba?'b'\u00e9").after 4).splits = true ∧
    ((start "\x7ba?'b'\u00e9").after 5).cursor.next "\x7ba?'b'\u00e9" = none := by
  have whole : ∀ k < 4, ((start "\x7ba?'b'\u00e9").after k).splits = false := by decide +kernel
  have splits : ((start "\x7ba?'b'\u00e9").after 4).splits = true := by decide +kernel
  obtain ⟨boundaries, ⟨reached, -⟩, inside⟩ := next_on_boundaries "\x7ba?'b'\u00e9" 4 whole
  have place : ((start "\x7ba?'b'\u00e9").after 4).cursor = ⟨6, some (.literal "b")⟩ := by
    decide +kernel
  exact ⟨whole, boundaries, reached.trans (congrArg some place), splits, (inside splits).2.2⟩

/-- Behind the quoted text stands a character of two bytes. -/
theorem position_inside_character :
    ((start "\x7ba?'b'\u00e9").after 5).position = 7 ∧
    ¬ OnBoundary "\x7ba?'b'\u00e9" 7 ∧
    ((start "\x7ba?'b'\u00e9").after 5).next.1 = .error (.malformed 7 .insideCharacter) ∧
    Cursor.start.after? "\x7ba?'b'\u00e9" 5 = some ⟨7, some (.literal "b")⟩ ∧
    Cursor.next "\x7ba?'b'\u00e9" ⟨7, some (.literal "b")⟩ = none := by
  have behind : "\x7ba?'b'\u00e9".toList = "\x7ba?'b'".toList ++ ['\u00e9'] := rfl
  exact ⟨by decide +kernel, Text.not_onBoundary_inside behind (by decide), by decide +kernel,
    by decide +kernel, next_inside "b" behind (by decide)⟩

end

end Stencil.Slot
