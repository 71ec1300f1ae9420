import Stencil.Proofs.Slot.References
import Stencil.Proofs.Text.Bytes

/-!
# Character boundaries in slot text

Whatever a lexer is asked for, it stands on the boundary of a character, and what it cuts out of the
text or points at starts and ends on one. The one exception is a longer character behind a quoted
text: it is not expected there, only its first byte is passed, and the next call starts inside of
it.
-/

namespace Stencil.Slot

open Stencil.Path (dropWhile_ne_eq_cons)
open Text (byteLength OnBoundary IsRest IsSlice)

/-- The piece of the text that a token holds. -/
def Token.piece? : Token → Option String
  | text s | reference s | format s | match_ s | substring s | literal s => some s
  | start | operator _ | condition | else_ | stop => none

/-- The token refers to a document. -/
def Token.IsPath (t : Token) : Prop := ∃ key, t = .reference key ∧ key.toList.head? = some '$'

/-- What stands where the fault is found. -/
def Fault.StandsAt (rest : List Char) : Fault → Prop
  | unexpectedCharacter c => rest.head?.getD ' ' = c
  | openQuote => rest.head? = some '\''
  | insideCharacter => False
  | _ => True

namespace Lexer

variable {l m n : Lexer} {t : Token} {cs rest : List Char} {fault : Fault}
  {x : Except SlotError (Option Token) × Lexer}

/-! ## Single calls -/

/-- The second lexer stands further on in the same text, by as many bytes as lie in between. -/
def Advances (l m : Lexer) : Prop :=
  ∃ front, l.rest = front ++ m.rest ∧ m.position = l.position + byteLength front ∧
    m.inside = l.inside

theorem Advances.refl (l : Lexer) : l.Advances l := ⟨[], rfl, rfl, rfl⟩

theorem Advances.trans (h : l.Advances m) (hn : m.Advances n) : l.Advances n := by
  obtain ⟨front, hrest, hposition, hinside⟩ := h
  obtain ⟨more, hrest', hposition', hinside'⟩ := hn
  refine ⟨front ++ more, ?_, ?_, hinside'.trans hinside⟩
  · rw [hrest, hrest', List.append_assoc]
  · rw [hposition', hposition, Text.byteLength_append, Nat.add_assoc]

/-- A token holds a piece of the text in front of the next place, a fault is found at a place of the
text, and a path that cannot be read starts at the next place. -/
def Holds (l : Lexer) : Except SlotError (Option Token) × Lexer → Prop
  | (.ok (some t), m) => ∀ s, t.piece? = some s →
    ∃ front tail, l.rest = front ++ (s.toList ++ (tail ++ m.rest)) ∧
      (t.IsPath → Path.embeddedLength (String.ofList (s.toList ++ (tail ++ m.rest))) =
        .ok (byteLength s.toList))
  | (.error (.malformed p fault), _) =>
    ∃ front rest, l.rest = front ++ rest ∧ p = l.position + byteLength front ∧
      fault.StandsAt rest
  | (.error (.path e), m) => Path.embeddedLength (String.ofList m.rest) = .error e
  | _ => True

/-- The answer of a call comes from the characters in front of the lexer, and so does its new
place. -/
structure Passes (l : Lexer) (x : Except SlotError (Option Token) × Lexer) : Prop where
  advances : l.Advances x.2
  holds : l.Holds x

theorem emit_passes (h : l.rest = cs ++ rest)
    (hpiece : ∀ s, t.piece? = some s → ∃ front tail, cs = front ++ (s.toList ++ tail) ∧
      (t.IsPath → Path.embeddedLength (String.ofList (s.toList ++ (tail ++ rest))) =
        .ok (byteLength s.toList))) : l.Passes (l.emit t cs rest) where
  advances := ⟨cs, h, rfl, rfl⟩
  holds := by
    intro s hs
    obtain ⟨front, tail, rfl, hpath⟩ := hpiece s hs
    refine ⟨front, tail, ?_, hpath⟩
    rw [h, List.append_assoc, List.append_assoc]
    rfl

theorem emit_sign_passes (h : l.rest = cs ++ rest) (hsign : t.piece? = none) :
    l.Passes (l.emit t cs rest) :=
  emit_passes h fun s hs => by
    rw [hsign] at hs
    cases hs

theorem emit_piece_passes (front body tail : List Char)
    (h : l.rest = front ++ (body ++ (tail ++ rest))) (hpiece : t.piece? = some (String.ofList body))
    (hcs : cs = front ++ (body ++ tail)) (hpath : ¬ t.IsPath) : l.Passes (l.emit t cs rest) := by
  subst hcs
  refine emit_passes (by simpa using h) fun s hs => ?_
  obtain rfl := Option.some.inj (hpiece.symm.trans hs)
  rw [String.toList_ofList]
  exact ⟨front, tail, rfl, fun ht => absurd ht hpath⟩

theorem fail_passes (h : fault.StandsAt l.rest) : l.Passes (l.fail fault) where
  advances := .refl l
  holds := ⟨[], l.rest, rfl, rfl, h⟩

theorem advances_skipSpaces (l : Lexer) : l.Advances l.skipSpaces :=
  ⟨_, List.takeWhile_append_dropWhile.symm, rfl, rfl⟩

theorem Passes.of_advances (h : l.Advances m) (hx : m.Passes x) : l.Passes x := by
  refine ⟨h.trans hx.advances, ?_⟩
  obtain ⟨passed, hrest, hposition, -⟩ := h
  have holds := hx.holds
  rcases x with ⟨e | _ | t, n⟩
  · cases e with
    | malformed p fault =>
      obtain ⟨front, rest, hrest', rfl, hfault⟩ := holds
      refine ⟨passed ++ front, rest, ?_, ?_, hfault⟩
      · rw [hrest, hrest', List.append_assoc]
      · rw [hposition, Text.byteLength_append, Nat.add_assoc]
    | path e => exact holds
    | invalidRegex => trivial
  · trivial
  · intro s hs
    obtain ⟨front, tail, hrest', hpath⟩ := holds s hs
    exact ⟨passed ++ front, tail, by rw [hrest, hrest', List.append_assoc], hpath⟩

theorem readText_passes (l : Lexer) : l.Passes l.readText := by
  have no_path (s : String) : ¬ (Token.text s).IsPath := by
    rintro ⟨key, h, -⟩
    cases h
  unfold readText
  split
  · exact ⟨.refl l, trivial⟩
  · next rest h =>
    exact emit_piece_passes [] ['\x7b'] ['\x7b'] h rfl rfl (no_path _)
  · next rest h =>
    exact emit_piece_passes [] ['\x7d'] ['\x7d'] h rfl rfl (no_path _)
  · next rest _ h =>
    have brace : l.Passes (l.emit (.text "\x7b") ['\x7b'] rest) :=
      emit_piece_passes [] ['\x7b'] [] h rfl rfl (no_path _)
    split
    · split
      · exact emit_sign_passes h rfl
      · exact brace
    · exact brace
  · next rest _ h =>
    exact emit_piece_passes [] ['\x7d'] [] h rfl rfl (no_path _)
  · next cs _ _ _ _ _ =>
    exact emit_piece_passes [] _ [] List.takeWhile_append_dropWhile.symm rfl
      (List.append_nil _).symm (no_path _)

theorem readReference_passes (l : Lexer) : l.Passes l.readReference := by
  unfold readReference
  dsimp only
  refine .of_advances (advances_skipSpaces l) ?_
  generalize l.skipSpaces = l
  split
  · next cs h =>
    split
    · next e he => exact ⟨.refl l, he⟩
    · next n hn =>
      rw [h] at hn
      obtain ⟨path, rest, hpath, rfl⟩ := Path.embeddedLength_eq_ok hn
      obtain rfl := (List.cons.inj hpath).2
      have one : '$'.utf8Size = 1 := rfl
      rw [Text.byteLength_cons, one, Nat.add_sub_cancel_left, splitBytes_front]
      refine emit_passes h fun s hs => ?_
      obtain rfl := Option.some.inj hs
      rw [String.toList_ofList]
      exact ⟨[], [], by simp, fun _ => hn⟩
  · next h =>
    split
    · next closed =>
      rw [h] at closed
      obtain ⟨path, rest, hp, rfl, -⟩ := htmlPath_closed closed
      rw [h, hp]
      refine emit_piece_passes [] _ [] h rfl (List.append_nil _).symm ?_
      rintro ⟨key, hkey, hhead⟩
      cases hkey
      rw [String.toList_ofList] at hhead
      cases hhead
    · exact fail_passes trivial
  · next c cs hdollar _ h =>
    split
    · next hc =>
      refine emit_piece_passes [] _ [] ?_ rfl (List.append_nil _).symm ?_
      · rw [h]
        exact congrArg (c :: ·) List.takeWhile_append_dropWhile.symm
      · rintro ⟨key, hkey, hhead⟩
        cases hkey
        rw [String.toList_ofList] at hhead
        obtain rfl : c = '$' := Option.some.inj hhead
        exact hdollar rfl
    · exact fail_passes (by rw [h]; rfl)
  · next h => exact fail_passes (by rw [h]; rfl)

theorem readMatch_passes (h : l.rest = ':' :: cs) : l.Passes (l.readMatch cs) := by
  unfold readMatch
  split
  · next literal rest hcut =>
    obtain rfl := (Path.cutLiteral?_sound hcut).1
    refine emit_piece_passes [':'] _ [] ?_ rfl ?_ ?_
    · rw [h]
      simp
    · simp
    · rintro ⟨key, hkey, -⟩
      cases hkey
  · exact ⟨.refl l, [':'], cs, h, rfl, trivial⟩

theorem readFormat_passes (h : l.rest = ':' :: cs) : l.Passes (l.readFormat cs) := by
  unfold readFormat
  dsimp only
  split
  · exact ⟨.refl l, [':'], cs, h, rfl, trivial⟩
  · refine emit_piece_passes [':'] _ [] ?_ rfl ?_ ?_
    · rw [h]
      simp
    · simp
    · rintro ⟨key, hkey, -⟩
      cases hkey

theorem readSubstring_passes (h : l.rest = ':' :: '[' :: cs) : l.Passes (l.readSubstring cs) := by
  unfold readSubstring
  dsimp only
  split
  · next c rest hcs =>
    obtain ⟨hcut, -⟩ := dropWhile_ne_eq_cons hcs
    refine emit_piece_passes [':', '['] _ [']'] ?_ rfl ?_ ?_
    · rw [h]
      exact congrArg (':' :: '[' :: ·) hcut
    · simp
    · rintro ⟨key, hkey, -⟩
      cases hkey
  · exact ⟨.refl l, [':', '['], cs, h, rfl, trivial⟩

theorem readOperator_passes (l : Lexer) : l.Passes l.readOperator := by
  unfold readOperator
  split
  case h_7 => exact fail_passes trivial
  all_goals
    next h => exact emit_sign_passes h rfl

theorem readModifier_passes (l : Lexer) : l.Passes l.readModifier := by
  unfold readModifier
  dsimp only
  refine .of_advances (advances_skipSpaces l) ?_
  generalize l.skipSpaces = l
  split
  · exact fail_passes trivial
  · next h => exact emit_sign_passes h rfl
  · next h => exact emit_sign_passes h rfl
  · next h => exact readMatch_passes h
  · next h => exact readSubstring_passes h
  · next h => exact readFormat_passes h
  · next h =>
    split
    · exact readOperator_passes l
    · exact fail_passes (by rw [h]; rfl)

theorem readLiteral_passes (l : Lexer) : l.Passes l.readLiteral := by
  unfold readLiteral
  dsimp only
  refine .of_advances (advances_skipSpaces l) ?_
  generalize l.skipSpaces = l
  split
  · exact fail_passes trivial
  · next cs h =>
    split
    · next c rest hcs =>
      obtain ⟨hcut, -⟩ := dropWhile_ne_eq_cons hcs
      refine emit_piece_passes ['\''] _ ['\''] ?_ rfl ?_ ?_
      · rw [h]
        exact congrArg ('\'' :: ·) hcut
      · simp
      · rintro ⟨key, hkey, -⟩
        cases hkey
    · exact fail_passes (by rw [h]; rfl)
  · exact fail_passes trivial

/-- The call comes to a character of several bytes behind a quoted text. -/
def splits (l : Lexer) : Bool :=
  match l.last, l.rest.dropWhile isSpace with
  | some (.literal _), c :: _ => 1 < c.utf8Size
  | _, _ => false

theorem readAfterLiteral_passes (hinside : l.inside = false)
    (hshort : ∀ c, (l.rest.dropWhile isSpace).head? = some c → ¬ 1 < c.utf8Size) :
    l.Passes l.readAfterLiteral := by
  unfold readAfterLiteral
  rw [hinside, if_neg Bool.false_ne_true]
  dsimp only
  refine .of_advances (advances_skipSpaces l) ?_
  have short : ∀ c, l.skipSpaces.rest.head? = some c → ¬ 1 < c.utf8Size := hshort
  have inside : l.skipSpaces.inside = false := hinside
  generalize l.skipSpaces = l at short inside
  split
  · exact fail_passes trivial
  · next h => exact emit_sign_passes h rfl
  · next h => exact emit_sign_passes h rfl
  · next h => exact emit_sign_passes h rfl
  · next c rest _ _ _ h =>
    have one : c.utf8Size = 1 := by
      have := short c (by rw [h]; rfl)
      have := c.utf8Size_pos
      omega
    rw [if_pos one]
    refine ⟨⟨[c], h, ?_, rfl⟩, [], l.rest, rfl, rfl, by rw [h]; rfl⟩
    rw [Text.byteLength_cons, one]
    rfl

theorem readAfterLiteral_inside {c : Char} (hinside : l.inside = false)
    (h : l.rest.dropWhile isSpace = c :: rest) (hc : 1 < c.utf8Size) :
    l.readAfterLiteral = (.error (.malformed l.skipSpaces.position (.unexpectedCharacter c)),
      { l.skipSpaces with position := l.skipSpaces.position + 1, inside := true }) := by
  have spaced : l.skipSpaces.rest = c :: rest := h
  have long : c.utf8Size ≠ 1 := by omega
  unfold readAfterLiteral
  rw [hinside, if_neg Bool.false_ne_true]
  dsimp only
  rw [spaced]
  split
  · next hcs => cases hcs
  · next hcs =>
    cases hcs
    exact absurd hc (by decide)
  · next hcs =>
    cases hcs
    exact absurd hc (by decide)
  · next hcs =>
    cases hcs
    exact absurd hc (by decide)
  · next hcs =>
    cases hcs
    rw [if_neg long]

theorem next_passes (hinside : l.inside = false) (hwhole : l.splits = false) :
    l.Passes l.next := by
  unfold next
  split
  case h_12 s hlast =>
    refine readAfterLiteral_passes hinside fun c hc => ?_
    obtain ⟨rest, hrest⟩ := List.head?_eq_some_iff.1 hc
    unfold splits at hwhole
    rw [hlast, hrest] at hwhole
    exact of_decide_eq_false hwhole
  all_goals first
    | exact readText_passes l
    | exact readReference_passes l
    | exact readModifier_passes l
    | exact readLiteral_passes l

theorem splits_iff : l.splits = true ↔
    ∃ s c rest, l.last = some (.literal s) ∧ l.rest.dropWhile isSpace = c :: rest ∧
      1 < c.utf8Size := by
  unfold splits
  split
  · next s c rest hlast hrest =>
    rw [decide_eq_true_iff, hlast, hrest]
    refine ⟨fun hc => ⟨s, c, rest, rfl, rfl, hc⟩, ?_⟩
    rintro ⟨-, d, more, -, h, hd⟩
    cases h
    exact hd
  · next hother =>
    refine ⟨nofun, ?_⟩
    rintro ⟨s, c, rest, hlast, hrest, -⟩
    exact (hother s c rest hlast hrest).elim

/-! ## Repeated calls -/

/-- The lexer behind a number of calls, whatever came of them. -/
def after (l : Lexer) : Nat → Lexer
  | 0 => l
  | n + 1 => (l.after n).next.2

end Lexer

open Lexer

section

variable {text : String} {l : Lexer}

/-- The lexer stands in front of a character of the text, or at the end. -/
structure Stands (text : String) (l : Lexer) : Prop where
  whole : l.inside = false
  place : IsRest text l.position l.rest

/-- The piece lies in between of the two places, cut at the boundaries of characters. A path is as
long as the one that is found where it starts. -/
def Token.CutOut (t : Token) (text : String) (before behind : Nat) (s : String) : Prop :=
  ∃ p q, before ≤ p ∧ q ≤ behind ∧ IsSlice text p q s ∧
    (t.IsPath → Path.embeddedLength (String.Pos.Raw.extract text ⟨p⟩ text.rawEndPos) =
      .ok (q - p))

/-- The fault is at the boundary of a character: of the one that is quoted, if one is. The search
for a closing quote starts behind the opening one, any other search at the place itself. -/
def Fault.At (fault : Fault) (text : String) (p : Nat) : Prop :=
  OnBoundary text p ∧ fault ≠ .insideCharacter ∧
    (∀ c, fault = .unexpectedCharacter c → (String.Pos.Raw.get? text ⟨p⟩).getD ' ' = c) ∧
    (fault = .openQuote → OnBoundary text (p + 1))

/-- The lexer stands on the boundary of a character, and what the next call cuts out of the text,
searches or points at starts and ends on one. -/
structure OnBoundaries (text : String) (l : Lexer) : Prop where
  position : OnBoundary text l.position
  le : l.position ≤ text.utf8ByteSize
  piece : ∀ t s m, l.next = (.ok (some t), m) → t.piece? = some s →
    t.CutOut text l.position m.position s
  fault : ∀ p fault m, l.next = (.error (.malformed p fault), m) → fault.At text p
  path : ∀ e m, l.next = (.error (.path e), m) → OnBoundary text m.position ∧
    Path.embeddedLength (String.Pos.Raw.extract text ⟨m.position⟩ text.rawEndPos) = .error e

theorem stands_start (text : String) : Stands text (start text) := ⟨rfl, .start text⟩

theorem Stands.onBoundary (h : Stands text l) : OnBoundary text l.position := h.place.onBoundary

theorem Stands.of_advances {m : Lexer} (h : Stands text l) (hm : l.Advances m) :
    Stands text m := by
  obtain ⟨front, hrest, hposition, hinside⟩ := hm
  refine ⟨hinside.trans h.whole, ?_⟩
  rw [hposition]
  exact IsRest.onward (hrest ▸ h.place)

theorem Stands.path {e : Path.PathError} {m : Lexer} (h : Stands text l)
    (hpasses : l.Passes (.error (.path e), m)) : OnBoundary text m.position ∧
      Path.embeddedLength (String.Pos.Raw.extract text ⟨m.position⟩ text.rawEndPos) = .error e := by
  have behind := h.of_advances hpasses.advances
  obtain ⟨front, htext, hposition⟩ := behind.place
  refine ⟨behind.onBoundary, ?_⟩
  rw [← hposition, Text.extract_rest htext]
  exact hpasses.holds

theorem Stands.piece {t : Token} {s : String} {m : Lexer} (h : Stands text l)
    (hpasses : l.Passes (.ok (some t), m)) (hpiece : t.piece? = some s) :
    t.CutOut text l.position m.position s := by
  obtain ⟨before, htext, hposition⟩ := h.place
  obtain ⟨passed, hrest, hposition', -⟩ := hpasses.advances
  obtain ⟨front, tail, hfront, hpath⟩ := hpasses.holds s hpiece
  have htext' : text.toList = before ++ front ++ (s.toList ++ (tail ++ m.rest)) := by
    rw [htext, hfront, List.append_assoc]
  have same : passed = front ++ (s.toList ++ tail) := by
    have whole : passed ++ m.rest = front ++ (s.toList ++ tail) ++ m.rest := by
      rw [← hrest, hfront]
      simp
    exact List.append_cancel_right whole
  have slice := Text.isSlice_of_append htext'
  refine ⟨byteLength (before ++ front), _, ?_, ?_, slice, fun ht => ?_⟩
  · rw [Text.byteLength_append]
    omega
  · rw [hposition', same]
    simp only [Text.byteLength_append]
    omega
  · rw [Text.extract_rest htext', hpath ht, Nat.add_sub_cancel_left]

theorem Stands.fault {p : Nat} {fault : Fault} {front rest : List Char} (h : Stands text l)
    (hrest : l.rest = front ++ rest) (hp : p = l.position + byteLength front)
    (hfault : fault.StandsAt rest) : fault.At text p := by
  obtain ⟨before, htext, hposition⟩ := h.place
  rw [hrest, ← List.append_assoc] at htext
  rw [← hposition, ← Text.byteLength_append] at hp
  subst hp
  refine ⟨Text.onBoundary_of_append htext, ?_, ?_, ?_⟩
  · rintro rfl
    exact hfault
  · rintro c rfl
    rw [Text.get?_of_append htext]
    exact hfault
  · rintro rfl
    obtain ⟨more, rfl⟩ := List.head?_eq_some_iff.1 hfault
    have behind : text.toList = (before ++ front ++ ['\'']) ++ more := by
      rw [htext]
      simp
    have boundary := Text.onBoundary_of_append behind
    rw [Text.byteLength_append] at boundary
    exact boundary

theorem Stands.next_splits (h : Stands text l) (hsplits : l.splits = true) :
    ∃ front c rest, text.toList = front ++ c :: rest ∧ 1 < c.utf8Size ∧
      l.next = (.error (.malformed (byteLength front) (.unexpectedCharacter c)),
        ⟨c :: rest, byteLength front + 1, l.last, true⟩) := by
  obtain ⟨s, c, rest, hlast, hrest, hc⟩ := splits_iff.1 hsplits
  obtain ⟨front, htext, hposition⟩ := (h.of_advances (advances_skipSpaces l)).place
  have spaced : l.skipSpaces.rest = c :: rest := hrest
  refine ⟨front, c, rest, by rw [htext, spaced], hc, ?_⟩
  have reads : l.next = l.readAfterLiteral := by rw [next, hlast]
  rw [reads, readAfterLiteral_inside h.whole hrest hc, hposition, ← spaced]
  rfl

theorem Stands.onBoundaries (h : Stands text l) : OnBoundaries text l := by
  have position := h.onBoundary
  cases hsplits : l.splits with
  | false =>
    have passes := next_passes h.whole hsplits
    refine ⟨position, position.le, fun t s m hnext hpiece => ?_, fun p fault m hnext => ?_,
      fun e m hnext => ?_⟩ <;> rw [hnext] at passes
    · exact h.piece passes hpiece
    · obtain ⟨front, rest, hrest, hp, hfault⟩ := passes.holds
      exact h.fault hrest hp hfault
    · exact h.path passes
  | true =>
    -- A call that splits a character still points at its first byte.
    obtain ⟨front, c, rest, htext, -, hsplit⟩ := h.next_splits hsplits
    refine ⟨position, position.le, fun t s m hnext => ?_, fun p fault m hnext => ?_,
      fun e m hnext => ?_⟩ <;> rw [hsplit] at hnext <;> cases hnext
    refine ⟨Text.onBoundary_of_append htext, nofun, ?_, nofun⟩
    rintro d ⟨⟩
    rw [Text.get?_of_append htext]
    rfl

/-- As long as no call has split a character. -/
theorem stands_after {n : Nat} (h : ∀ k < n, ((start text).after k).splits = false) :
    Stands text ((start text).after n) := by
  induction n with
  | zero => exact stands_start text
  | succ n ih =>
    have before := ih fun k hk => h k (Nat.lt_succ_of_lt hk)
    exact before.of_advances (next_passes before.whole (h n (Nat.lt_succ_self n))).advances

end

end Stencil.Slot
