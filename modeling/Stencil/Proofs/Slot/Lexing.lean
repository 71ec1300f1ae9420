import Stencil.Proofs.Slot.HtmlPath
import Stencil.Proofs.Slot.Words

/-!
# Reading slot text

What a lexer reads at a place of a text is what the grammar has there, and everything that the
grammar has there is read.
-/

namespace Stencil.Slot

open Stencil.Path (IsPattern Stops stops_dropWhile takeWhile_run dropWhile_run mem_takeWhile)
open Text (byteLength)

namespace Lexer

variable {size : Nat} {last : Option Token} {cs : List Char} {t : Token} {m : Lexer}

@[simp] theorem rest_place : (place size last cs).rest = cs := rfl

theorem emit_eq_ok {front rest : List Char} {t' : Token} (hsize : byteLength cs ≤ size)
    (hcs : cs = front ++ rest) (h : (place size last cs).emit t' front rest = (.ok (some t), m)) :
    t = t' ∧ m = place size (some t) rest := by
  rw [emit_place hsize hcs] at h
  cases h
  exact ⟨rfl, rfl⟩

theorem readText_sound (hsize : byteLength cs ≤ size) (hlast : isTextual last = true)
    (h : (place size last cs).readText = (.ok (some t), m)) :
    ∃ rest, Takes last t cs rest ∧ m = place size (some t) rest := by
  unfold readText at h
  rw [rest_place] at h
  split at h
  · cases h
  · obtain ⟨rfl, rfl⟩ := emit_eq_ok hsize rfl h
    exact ⟨_, .text hlast (.doubledOpening _), rfl⟩
  · obtain ⟨rfl, rfl⟩ := emit_eq_ok hsize rfl h
    exact ⟨_, .text hlast (.doubledClosing _), rfl⟩
  · next rest hdouble =>
    have single : rest.head? ≠ some '\x7b' := by
      intro hhead
      obtain ⟨tail, rfl⟩ := List.head?_eq_some_iff.1 hhead
      exact hdouble tail rfl
    split at h
    · next c tail hc =>
      split at h
      · next hstart =>
        obtain ⟨rfl, rfl⟩ := emit_eq_ok hsize rfl h
        exact ⟨_, .start hlast (by simp [opensSlot, hc, hstart]), rfl⟩
      · next hstart =>
        obtain ⟨rfl, rfl⟩ := emit_eq_ok hsize rfl h
        exact ⟨_, .text hlast (.opening single (by simp [opensSlot, hc, hstart])), rfl⟩
    · next hc =>
      obtain ⟨rfl, rfl⟩ := emit_eq_ok hsize rfl h
      exact ⟨_, .text hlast (.opening single (by simp [opensSlot, hc])), rfl⟩
  · next rest hdouble =>
    obtain ⟨rfl, rfl⟩ := emit_eq_ok hsize rfl h
    refine ⟨_, .text hlast (.closing ?_), rfl⟩
    intro hhead
    obtain ⟨tail, rfl⟩ := List.head?_eq_some_iff.1 hhead
    exact hdouble tail rfl
  · next hnil _ _ hopen hclose =>
    obtain ⟨rfl, rfl⟩ := emit_eq_ok hsize List.takeWhile_append_dropWhile.symm h
    have piece : Piece (String.ofList (cs.takeWhile isPlain))
        (cs.takeWhile isPlain ++ cs.dropWhile isPlain) (cs.dropWhile isPlain) := by
      apply Piece.plain
      · rcases cs with _ | ⟨c, cs⟩
        · exact absurd rfl hnil
        · have plain : isPlain c = true := by
            simp only [isPlain, Bool.and_eq_true, bne_iff_ne, ne_eq]
            constructor
            · rintro rfl
              exact hopen cs rfl
            · rintro rfl
              exact hclose cs rfl
          simp [plain]
      · exact fun c => mem_takeWhile
      · exact stops_dropWhile isPlain cs
    rw [List.takeWhile_append_dropWhile] at piece
    exact ⟨_, .text hlast piece, rfl⟩

theorem readText_text {s : String} {rest : List Char} (hsize : byteLength cs ≤ size)
    (h : Piece s cs rest) :
    (place size last cs).readText = (.ok (some (.text s)), place size (some (.text s)) rest) := by
  unfold readText
  rw [rest_place]
  cases h with
  | @plain run rest hne hrun hrest =>
    obtain ⟨c, run, rfl⟩ := List.exists_cons_of_ne_nil hne
    have plain : c ≠ '\x7b' ∧ c ≠ '\x7d' := by simpa [isPlain] using hrun c List.mem_cons_self
    have taken : (c :: run ++ rest).takeWhile isPlain = c :: run := takeWhile_run hrun hrest
    have dropped : (c :: run ++ rest).dropWhile isPlain = rest := dropWhile_run hrun hrest
    split
    · next hcs => cases hcs
    · next hcs => exact absurd (List.cons.inj hcs).1 plain.1
    · next hcs => exact absurd (List.cons.inj hcs).1 plain.2
    · next hcs => exact absurd (List.cons.inj hcs).1 plain.1
    · next hcs => exact absurd (List.cons.inj hcs).1 plain.2
    · show (place size last (c :: run ++ rest)).emit
        (.text (String.ofList ((c :: run ++ rest).takeWhile isPlain)))
        ((c :: run ++ rest).takeWhile isPlain) ((c :: run ++ rest).dropWhile isPlain) = _
      rw [taken, dropped]
      exact emit_place hsize rfl _
  | doubledOpening rest => exact emit_place hsize rfl _
  | doubledClosing rest => exact emit_place hsize rfl _
  | @opening rest hdouble hopens =>
    split
    · next hcs => cases hcs
    · next hcs =>
      cases hcs
      exact absurd rfl hdouble
    · next hcs => cases hcs
    · next hcs =>
      cases hcs
      split
      · next c tail hc =>
        rw [opensSlot, hc] at hopens
        rw [if_neg (by simpa using hopens)]
        exact emit_place hsize rfl _
      · exact emit_place hsize rfl _
    · next hcs => cases hcs
    · next hopen _ => exact absurd rfl (hopen rest)
  | @closing rest hdouble =>
    split
    · next hcs => cases hcs
    · next hcs => cases hcs
    · next hcs =>
      cases hcs
      exact absurd rfl hdouble
    · next hcs => cases hcs
    · next hcs =>
      cases hcs
      exact emit_place hsize rfl _
    · next hclose => exact absurd rfl (hclose rest)

theorem readText_start {rest : List Char} (hsize : byteLength ('\x7b' :: rest) ≤ size)
    (h : opensSlot rest = true) :
    (place size last ('\x7b' :: rest)).readText =
      (.ok (some .start), place size (some .start) rest) := by
  unfold readText
  rw [rest_place]
  split
  · next hcs => cases hcs
  · next hcs =>
    cases hcs
    cases h
  · next hcs => cases hcs
  · next hcs =>
    cases hcs
    split
    · next c tail hc =>
      rw [opensSlot, hc] at h
      rw [if_pos (by simpa using h)]
      exact emit_place hsize rfl _
    · next hc =>
      rw [opensSlot, hc] at h
      cases h
  · next hcs => cases hcs
  · next hopen _ => exact absurd rfl (hopen rest)

theorem byteLength_skipped (hsize : byteLength cs ≤ size) :
    byteLength (cs.dropWhile isSpace) ≤ size := by
  have bytes := congrArg byteLength (List.takeWhile_append_dropWhile (p := isSpace) (l := cs))
  rw [Text.byteLength_append] at bytes
  omega

theorem readReference_sound (hsize : byteLength cs ≤ size)
    (h : (place size last cs).readReference = (.ok (some t), m)) :
    ∃ rest, (∃ key, t = .reference key) ∧ Word t cs rest ∧ m = place size (some t) rest := by
  have hsize' := byteLength_skipped hsize
  unfold readReference at h
  rw [skipSpaces_place hsize] at h
  simp only [word_iff]
  generalize cs.dropWhile isSpace = text at h hsize'
  simp only [rest_place] at h
  split at h
  · next cs =>
    split at h
    · cases h
    · next n hn =>
      obtain ⟨path, rest, hcs, rfl⟩ := Path.embeddedLength_eq_ok hn
      cases hcs
      have split : splitBytes (byteLength ('$' :: path) - 1) (path ++ rest) = (path, rest) := by
        have one : '$'.utf8Size = 1 := rfl
        rw [Text.byteLength_cons, one, Nat.add_sub_cancel_left, splitBytes_front]
      rw [split] at h
      obtain ⟨rfl, rfl⟩ := emit_eq_ok hsize' rfl h
      exact ⟨rest, ⟨_, rfl⟩, .path hn, rfl⟩
  · next cs =>
    by_cases hclosed : (htmlPath 0 none ('/' :: cs)).2.2 = true
    · obtain ⟨path, rest, hp, rfl, hpath, stops⟩ := htmlPath_closed hclosed
      simp only [hp, if_true] at h
      obtain ⟨rfl, rfl⟩ := emit_eq_ok hsize' rfl h
      exact ⟨rest, ⟨_, rfl⟩, .html hpath stops, rfl⟩
    · simp only [hclosed] at h
      cases h
  · next c cs _ _ =>
    split at h
    · next hc =>
      obtain ⟨rfl, rfl⟩ := emit_eq_ok hsize' (by simp) h
      have hcs : ∀ d ∈ cs.takeWhile isNameChar, isNameChar d = true := fun d => mem_takeWhile
      have name := Lexeme.name hc hcs (stops_dropWhile isNameChar cs)
      rw [List.takeWhile_append_dropWhile] at name
      exact ⟨_, ⟨_, rfl⟩, name, rfl⟩
    · cases h
  · cases h

theorem readReference_word {key : String} {rest : List Char} (hsize : byteLength cs ≤ size)
    (h : Word (.reference key) cs rest) :
    (place size last cs).readReference =
      (.ok (some (.reference key)), place size (some (.reference key)) rest) := by
  have hsize' := byteLength_skipped hsize
  unfold readReference
  rw [skipSpaces_place hsize]
  rw [word_iff] at h
  generalize cs.dropWhile isSpace = text at h hsize'
  dsimp only [rest_place]
  cases h with
  | sign hsign => cases hsign
  | @name c cs rest hc hcs hrest =>
    have dollar : c ≠ '$' := by
      rintro rfl
      exact absurd hc (by decide)
    have slash : c ≠ '/' := by
      rintro rfl
      exact absurd hc (by decide)
    split
    · next h => exact absurd (List.cons.inj h).1 dollar
    · next h => exact absurd (List.cons.inj h).1 slash
    · next h =>
      cases h
      rw [if_pos hc, takeWhile_run hcs hrest, dropWhile_run hcs hrest]
      exact emit_place hsize' rfl _
    · next h => cases h
  | @path path rest hpath =>
    have one : '$'.utf8Size = 1 := rfl
    simp only [hpath, Text.byteLength_cons, one, Nat.add_sub_cancel_left, splitBytes_front]
    exact emit_place hsize' rfl _
  | @html path rest hpath hrest =>
    have cut := htmlPath_complete hpath hrest
    rw [List.cons_append] at cut
    simp only [cut, if_true]
    exact emit_place hsize' rfl _

theorem readOperator_sound (hsize : byteLength cs ≤ size)
    (h : (place size last cs).readOperator = (.ok (some t), m)) :
    ∃ rest, (∃ op, t = .operator op) ∧ Lexeme t cs rest ∧ m = place size (some t) rest := by
  unfold readOperator at h
  rw [rest_place] at h
  have taken (op : Comparison) {rest : List Char} (hcs : cs = op.symbol ++ rest)
      (hend : op = .less ∨ op = .greater → rest.head? ≠ some '=')
      (h : (place size last cs).emit (.operator op) op.symbol rest = (.ok (some t), m)) :
      ∃ rest, (∃ op, t = .operator op) ∧ Lexeme t cs rest ∧ m = place size (some t) rest := by
    obtain ⟨rfl, rfl⟩ := emit_eq_ok hsize hcs h
    subst hcs
    exact ⟨rest, ⟨op, rfl⟩, .sign rfl (by simpa using hend), rfl⟩
  split at h
  · exact taken .equal rfl (by simp) h
  · exact taken .notEqual rfl (by simp) h
  · exact taken .lessEq rfl (by simp) h
  · exact taken .greaterEq rfl (by simp) h
  · next rest hdouble =>
    refine taken .less rfl (fun _ hhead => ?_) h
    obtain ⟨tail, rfl⟩ := List.head?_eq_some_iff.1 hhead
    exact hdouble tail rfl
  · next rest hdouble =>
    refine taken .greater rfl (fun _ hhead => ?_) h
    obtain ⟨tail, rfl⟩ := List.head?_eq_some_iff.1 hhead
    exact hdouble tail rfl
  · cases h

theorem readOperator_lexeme {op : Comparison} {rest : List Char} (hsize : byteLength cs ≤ size)
    (h : Lexeme (.operator op) cs rest) :
    (place size last cs).readOperator =
      (.ok (some (.operator op)), place size (some (.operator op)) rest) := by
  cases h with
  | @sign _ symbol _ hsign hend =>
    cases hsign
    unfold readOperator
    rw [rest_place]
    cases op with
    | equal | notEqual | lessEq | greaterEq => exact emit_place hsize rfl _
    | less =>
      have single := hend (.inl rfl)
      split
      · next hcs => cases hcs
      · next hcs => cases hcs
      · next hcs =>
        cases hcs
        exact absurd rfl single
      · next hcs => cases hcs
      · next hcs =>
        cases hcs
        exact emit_place hsize rfl _
      · next hcs => cases hcs
      · next hless _ => exact absurd rfl (hless rest)
    | greater =>
      have single := hend (.inr rfl)
      split
      · next hcs => cases hcs
      · next hcs => cases hcs
      · next hcs => cases hcs
      · next hcs =>
        cases hcs
        exact absurd rfl single
      · next hcs => cases hcs
      · next hcs =>
        cases hcs
        exact emit_place hsize rfl _
      · next hgreater => exact absurd rfl (hgreater rest)

theorem readMatch_sound (hsize : byteLength (':' :: '/' :: cs) ≤ size)
    (h : (place size last (':' :: '/' :: cs)).readMatch ('/' :: cs) = (.ok (some t), m)) :
    ∃ rest, t.continues = true ∧ Lexeme t (':' :: '/' :: cs) rest ∧
      m = place size (some t) rest := by
  unfold readMatch at h
  split at h
  · next literal rest hcut =>
    obtain ⟨hcs, stops, body, flags, rfl, hbody, hflags⟩ := Path.cutLiteral?_sound hcut
    obtain ⟨rfl, rfl⟩ := emit_eq_ok hsize (by rw [hcs]; rfl) h
    have regex := Lexeme.regex hbody hflags stops
    rw [hcs]
    refine ⟨rest, rfl, ?_, rfl⟩
    simpa using regex
  · cases h

theorem readMatch_lexeme {body flags rest : List Char} (hbody : IsPattern .longest body)
    (hflags : ∀ c ∈ flags, Regex.isFlag c = true) (hrest : Stops Regex.isFlag rest)
    (hsize : byteLength (':' :: '/' :: (body ++ '/' :: (flags ++ rest))) ≤ size) :
    (place size last (':' :: '/' :: (body ++ '/' :: (flags ++ rest)))).readMatch
        ('/' :: (body ++ '/' :: (flags ++ rest))) =
      (.ok (some (.match_ (String.ofList ('/' :: (body ++ '/' :: flags))))),
        place size (some (.match_ (String.ofList ('/' :: (body ++ '/' :: flags))))) rest) := by
  unfold readMatch
  simp only [Path.cutLiteral?_complete hbody hflags hrest]
  exact emit_place hsize (by simp) _

theorem readSubstring_sound (hsize : byteLength (':' :: '[' :: cs) ≤ size)
    (h : (place size last (':' :: '[' :: cs)).readSubstring cs = (.ok (some t), m)) :
    ∃ rest, t.continues = true ∧ Lexeme t (':' :: '[' :: cs) rest ∧
      m = place size (some t) rest := by
  unfold readSubstring at h
  dsimp only at h
  split at h
  · next c rest hrest =>
    obtain ⟨hcs, hrange⟩ := Path.dropWhile_ne_eq_cons hrest
    obtain ⟨rfl, rfl⟩ := emit_eq_ok hsize (by simpa using hcs) h
    have range : Lexeme _ (':' :: '[' :: (cs.takeWhile (· != ']') ++ ']' :: rest)) rest :=
      .range hrange
    rw [← hcs] at range
    exact ⟨rest, rfl, range, rfl⟩
  · cases h

theorem readSubstring_lexeme {range rest : List Char} (hrange : ']' ∉ range)
    (hsize : byteLength (':' :: '[' :: (range ++ ']' :: rest)) ≤ size) :
    (place size last (':' :: '[' :: (range ++ ']' :: rest))).readSubstring (range ++ ']' :: rest) =
      (.ok (some (.substring (String.ofList range))),
        place size (some (.substring (String.ofList range))) rest) := by
  obtain ⟨taken, dropped⟩ := Path.cut_ne hrange rest
  unfold readSubstring
  simp only [taken, dropped]
  exact emit_place hsize (by simp) _

theorem readFormat_sound (hsize : byteLength (':' :: cs) ≤ size)
    (hslash : ∀ tail, cs ≠ '/' :: tail) (hbracket : ∀ tail, cs ≠ '[' :: tail)
    (h : (place size last (':' :: cs)).readFormat cs = (.ok (some t), m)) :
    ∃ rest, t.continues = true ∧ Lexeme t (':' :: cs) rest ∧ m = place size (some t) rest := by
  unfold readFormat at h
  dsimp only at h
  split at h
  · cases h
  · next hspec =>
    obtain ⟨rfl, rfl⟩ := emit_eq_ok hsize (by simp) h
    have run := List.takeWhile_append_dropWhile (p := fun c => !endsFormat c) (l := cs)
    have inner : ∀ c ∈ cs.takeWhile fun c => !endsFormat c, endsFormat c = false := by
      intro c hc
      simpa using mem_takeWhile hc
    have stops := stops_dropWhile (fun c => !endsFormat c) cs
    generalize cs.takeWhile (fun c => !endsFormat c) = spec at run inner hspec
    rcases spec with _ | ⟨c, spec⟩
    · exact absurd rfl hspec
    have slash : c ≠ '/' := by
      rintro rfl
      exact hslash _ run.symm
    have bracket : c ≠ '[' := by
      rintro rfl
      exact hbracket _ run.symm
    have format := Lexeme.format slash bracket inner stops
    rw [← List.cons_append, run] at format
    exact ⟨_, rfl, format, rfl⟩

theorem readFormat_lexeme {spec rest : List Char} (hne : spec ≠ [])
    (hspec : ∀ c ∈ spec, endsFormat c = false) (hrest : Stops (fun c => !endsFormat c) rest)
    (hsize : byteLength (':' :: (spec ++ rest)) ≤ size) :
    (place size last (':' :: (spec ++ rest))).readFormat (spec ++ rest) =
      (.ok (some (.format (String.ofList spec))),
        place size (some (.format (String.ofList spec))) rest) := by
  have run : ∀ c ∈ spec, (!endsFormat c) = true := by
    intro c hc
    simpa using hspec c hc
  unfold readFormat
  simp only [takeWhile_run run hrest, dropWhile_run run hrest, List.isEmpty_iff, hne, if_false]
  exact emit_place hsize rfl _

theorem readModifier_sound (hsize : byteLength cs ≤ size)
    (h : (place size last cs).readModifier = (.ok (some t), m)) :
    ∃ rest, t.continues = true ∧ Word t cs rest ∧ m = place size (some t) rest := by
  have hsize' := byteLength_skipped hsize
  unfold readModifier at h
  rw [skipSpaces_place hsize] at h
  simp only [word_iff]
  generalize cs.dropWhile isSpace = text at h hsize'
  simp only [rest_place] at h
  split at h
  · cases h
  · obtain ⟨rfl, rfl⟩ := emit_eq_ok hsize' rfl h
    exact ⟨_, rfl, lexeme_stop _, rfl⟩
  · obtain ⟨rfl, rfl⟩ := emit_eq_ok hsize' rfl h
    exact ⟨_, rfl, lexeme_condition _, rfl⟩
  · exact readMatch_sound hsize' h
  · exact readSubstring_sound hsize' h
  · next hregex hrange => exact readFormat_sound hsize' hregex hrange h
  · split at h
    · obtain ⟨rest, ⟨op, rfl⟩, lexeme, rfl⟩ := readOperator_sound hsize' h
      exact ⟨rest, rfl, lexeme, rfl⟩
    · cases h

theorem readModifier_word {rest : List Char} (hsize : byteLength cs ≤ size)
    (ht : t.continues = true) (h : Word t cs rest) :
    (place size last cs).readModifier = (.ok (some t), place size (some t) rest) := by
  have hsize' := byteLength_skipped hsize
  unfold readModifier
  rw [skipSpaces_place hsize]
  rw [word_iff] at h
  generalize cs.dropWhile isSpace = text at h hsize'
  dsimp only [rest_place]
  cases t with
  | text | start | reference | literal | else_ => cases ht
  | stop =>
    cases h with
    | sign hsign =>
      cases hsign
      exact emit_place hsize' rfl _
  | condition =>
    cases h with
    | sign hsign =>
      cases hsign
      exact emit_place hsize' rfl _
  | operator op =>
    have read : (place size last text).readOperator = _ := readOperator_lexeme hsize' h
    cases h with
    | sign hsign =>
      cases hsign
      cases op <;> exact read
  | format spec =>
    cases h with
    | sign hsign => cases hsign
    | @format c spec rest hslash hbracket hspec hrest =>
      split
      · next hcs => cases hcs
      · next hcs => cases hcs
      · next hcs => cases hcs
      · next hcs =>
        cases hcs
        exact absurd rfl hslash
      · next hcs =>
        cases hcs
        exact absurd rfl hbracket
      · next hcs =>
        cases hcs
        exact readFormat_lexeme (List.cons_ne_nil c spec) hspec hrest hsize'
      · next hcolon hcs =>
        cases hcs
        exact (hcolon rfl).elim
  | match_ literal =>
    cases h with
    | sign hsign => cases hsign
    | regex hbody hflags hrest => exact readMatch_lexeme hbody hflags hrest hsize'
  | substring range =>
    cases h with
    | sign hsign => cases hsign
    | range hrange => exact readSubstring_lexeme hrange hsize'

theorem readLiteral_sound (hsize : byteLength cs ≤ size)
    (h : (place size last cs).readLiteral = (.ok (some t), m)) :
    ∃ rest, (∃ body, t = .literal body) ∧ Word t cs rest ∧ m = place size (some t) rest := by
  have hsize' := byteLength_skipped hsize
  unfold readLiteral at h
  rw [skipSpaces_place hsize] at h
  simp only [word_iff]
  generalize cs.dropWhile isSpace = text at h hsize'
  simp only [rest_place] at h
  split at h
  · cases h
  · next cs =>
    split at h
    · next c rest hrest =>
      obtain ⟨hcs, hbody⟩ := Path.dropWhile_ne_eq_cons hrest
      obtain ⟨rfl, rfl⟩ := emit_eq_ok hsize' (by simpa using hcs) h
      have literal : Lexeme _ ('\'' :: (cs.takeWhile (· != '\'') ++ '\'' :: rest)) rest :=
        .literal hbody
      rw [← hcs] at literal
      exact ⟨rest, ⟨_, rfl⟩, literal, rfl⟩
    · cases h
  · cases h

theorem readLiteral_word {body : String} {rest : List Char} (hsize : byteLength cs ≤ size)
    (h : Word (.literal body) cs rest) :
    (place size last cs).readLiteral =
      (.ok (some (.literal body)), place size (some (.literal body)) rest) := by
  have hsize' := byteLength_skipped hsize
  unfold readLiteral
  rw [skipSpaces_place hsize]
  rw [word_iff] at h
  generalize cs.dropWhile isSpace = text at h hsize'
  dsimp only [rest_place]
  cases h with
  | sign hsign => cases hsign
  | @literal body rest hbody =>
    obtain ⟨taken, dropped⟩ := Path.cut_ne hbody rest
    simp only [taken, dropped]
    exact emit_place hsize' (by simp) _

theorem readAfterLiteral_sound (hsize : byteLength cs ≤ size)
    (h : (place size last cs).readAfterLiteral = (.ok (some t), m)) :
    ∃ rest, t.joins = true ∧ Word t cs rest ∧ m = place size (some t) rest := by
  have hsize' := byteLength_skipped hsize
  unfold readAfterLiteral at h
  rw [skipSpaces_place hsize] at h
  simp only [word_iff]
  generalize cs.dropWhile isSpace = text at h hsize'
  simp only [place, Bool.false_eq_true, if_false] at h
  split at h
  · cases h
  · obtain ⟨rfl, rfl⟩ := emit_eq_ok hsize' rfl h
    exact ⟨_, rfl, lexeme_condition _, rfl⟩
  · obtain ⟨rfl, rfl⟩ := emit_eq_ok hsize' rfl h
    exact ⟨_, rfl, lexeme_else _, rfl⟩
  · obtain ⟨rfl, rfl⟩ := emit_eq_ok hsize' rfl h
    exact ⟨_, rfl, lexeme_stop _, rfl⟩
  · cases h

theorem readAfterLiteral_word {rest : List Char} (hsize : byteLength cs ≤ size)
    (ht : t.joins = true) (h : Word t cs rest) :
    (place size last cs).readAfterLiteral = (.ok (some t), place size (some t) rest) := by
  have hsize' := byteLength_skipped hsize
  have open_ : (place size last cs).inside = false := rfl
  unfold readAfterLiteral
  rw [skipSpaces_place hsize, open_]
  rw [word_iff] at h
  generalize cs.dropWhile isSpace = text at h hsize'
  dsimp only [rest_place]
  cases t with
  | condition | else_ | stop =>
    cases h with
    | sign hsign =>
      cases hsign
      exact emit_place hsize' rfl _
  | text | start | reference | format | match_ | substring | operator | literal => cases ht

/-! ## The next token -/

/-- A token that is read is one that may come next. -/
theorem next_sound (hsize : byteLength cs ≤ size)
    (h : (place size last cs).next = (.ok (some t), m)) :
    ∃ rest, Takes last t cs rest ∧ m = place size (some t) rest := by
  have word {t' : Token} {rest : List Char} (hlast : last = some t') (ht : Expects t t')
      (h : Word t cs rest ∧ m = place size (some t) rest) :
      ∃ rest, Takes last t cs rest ∧ m = place size (some t) rest :=
    ⟨rest, .word hlast ht h.1, h.2⟩
  unfold next at h
  rcases last with _ | t'
  · exact readText_sound hsize rfl h
  cases t' with
  | text | stop => exact readText_sound hsize rfl h
  | start =>
    obtain ⟨rest, ht, h⟩ := readReference_sound hsize h
    exact word rfl ht h
  | reference | format | match_ | substring =>
    obtain ⟨rest, ht, h⟩ := readModifier_sound hsize h
    exact word rfl ht h
  | operator | condition | else_ =>
    obtain ⟨rest, ht, h⟩ := readLiteral_sound hsize h
    exact word rfl ht h
  | literal =>
    obtain ⟨rest, ht, h⟩ := readAfterLiteral_sound hsize h
    exact word rfl ht h

/-- A token that may come next is read. -/
theorem next_complete {rest : List Char} (hsize : byteLength cs ≤ size)
    (h : Takes last t cs rest) :
    (place size last cs).next = (.ok (some t), place size (some t) rest) := by
  have textual (hlast : isTextual last = true) :
      (place size last cs).next = (place size last cs).readText := by
    rcases last with _ | t'
    · rfl
    · cases t' <;> first | rfl | cases hlast
  cases h with
  | text hlast h => rw [textual hlast, readText_text hsize h]
  | start hlast h => rw [textual hlast, readText_start hsize h]
  | @word _ t' _ _ hlast ht h =>
    subst hlast
    cases t' with
    | text | stop => cases ht
    | start =>
      obtain ⟨key, rfl⟩ := ht
      exact readReference_word hsize h
    | reference | format | match_ | substring => exact readModifier_word hsize ht h
    | operator | condition | else_ =>
      obtain ⟨body, rfl⟩ := ht
      exact readLiteral_word hsize h
    | literal => exact readAfterLiteral_word hsize ht h

section

variable (l : Lexer)

theorem emit_ne_none (front rest : List Char) : (l.emit t front rest).1 ≠ .ok none := by
  rintro ⟨⟩

theorem fail_ne_none (fault : Fault) : (l.fail fault).1 ≠ .ok none := by
  rintro ⟨⟩

theorem readReference_ne_none : l.readReference.1 ≠ .ok none := by
  unfold readReference
  dsimp only
  split
  · split
    · rintro ⟨⟩
    · exact emit_ne_none _ _ _
  · split
    · exact emit_ne_none _ _ _
    · exact fail_ne_none _ _
  · split
    · exact emit_ne_none _ _ _
    · exact fail_ne_none _ _
  · exact fail_ne_none _ _

theorem readOperator_ne_none : l.readOperator.1 ≠ .ok none := by
  unfold readOperator
  split
  all_goals first
    | exact emit_ne_none _ _ _
    | exact fail_ne_none _ _

theorem readModifier_ne_none : l.readModifier.1 ≠ .ok none := by
  unfold readModifier
  dsimp only
  split
  · exact fail_ne_none _ _
  · exact emit_ne_none _ _ _
  · exact emit_ne_none _ _ _
  · unfold readMatch
    split
    · exact emit_ne_none _ _ _
    · rintro ⟨⟩
  · unfold readSubstring
    dsimp only
    split
    · exact emit_ne_none _ _ _
    · rintro ⟨⟩
  · unfold readFormat
    dsimp only
    split
    · rintro ⟨⟩
    · exact emit_ne_none _ _ _
  · split
    · exact readOperator_ne_none _
    · exact fail_ne_none _ _

theorem readLiteral_ne_none : l.readLiteral.1 ≠ .ok none := by
  unfold readLiteral
  dsimp only
  split
  · exact fail_ne_none _ _
  · split
    · exact emit_ne_none _ _ _
    · exact fail_ne_none _ _
  · exact fail_ne_none _ _

theorem readAfterLiteral_ne_none : l.readAfterLiteral.1 ≠ .ok none := by
  unfold readAfterLiteral
  split
  · exact fail_ne_none _ _
  · dsimp only
    split
    · exact fail_ne_none _ _
    · exact emit_ne_none _ _ _
    · exact emit_ne_none _ _ _
    · exact emit_ne_none _ _ _
    · rintro ⟨⟩

theorem readText_eq_none (h : l.readText = (.ok none, m)) : l.rest = [] := by
  have none_ : l.readText.1 = .ok none := by rw [h]
  unfold readText at none_
  split at none_
  · assumption
  · exact absurd none_ (emit_ne_none _ _ _)
  · exact absurd none_ (emit_ne_none _ _ _)
  · split at none_
    · split at none_ <;> exact absurd none_ (emit_ne_none _ _ _)
    · exact absurd none_ (emit_ne_none _ _ _)
  · exact absurd none_ (emit_ne_none _ _ _)
  · exact absurd none_ (emit_ne_none _ _ _)

end

theorem next_eq_none :
    (place size last cs).next = (.ok none, m) → isTextual last = true ∧ cs = [] := by
  intro h
  have none_ : (place size last cs).next.1 = .ok none := by rw [h]
  unfold next at h none_
  rcases last with _ | t'
  · exact ⟨rfl, readText_eq_none _ h⟩
  cases t' with
  | text | stop => exact ⟨rfl, readText_eq_none _ h⟩
  | start => exact absurd none_ (readReference_ne_none _)
  | reference | format | match_ | substring => exact absurd none_ (readModifier_ne_none _)
  | operator | condition | else_ => exact absurd none_ (readLiteral_ne_none _)
  | literal => exact absurd none_ (readAfterLiteral_ne_none _)

theorem next_nil (hlast : isTextual last = true) :
    (place size last []).next = (.ok none, place size last []) := by
  rcases last with _ | t'
  · rfl
  · cases t' <;> first | rfl | cases hlast

end Lexer

/-! ## The next word -/

open Lexer (place next_complete next_sound)

section

variable {size : Nat} {last : Token} {cs : List Char}

theorem next_word {t : Token} {rest : List Char} (hsize : byteLength cs ≤ size)
    (ht : Expects t last) (h : Word t cs rest) :
    (place size (some last) cs).next = (.ok (some t), place size (some t) rest) :=
  next_complete hsize (.word rfl ht h)

theorem word_of_next {t : Token} {m : Lexer} (hsize : byteLength cs ≤ size)
    (hlast : isTextual (some last) = false)
    (h : (place size (some last) cs).next = (.ok (some t), m)) :
    ∃ rest, Expects t last ∧ Word t cs rest ∧ m = place size (some t) rest := by
  obtain ⟨rest, takes, rfl⟩ := next_sound hsize h
  cases takes with
  | text htextual => rw [hlast] at htextual; cases htextual
  | start htextual => rw [hlast] at htextual; cases htextual
  | word hsome ht word =>
    cases hsome
    exact ⟨rest, ht, word, rfl⟩

end

end Stencil.Slot
