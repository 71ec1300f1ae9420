import Stencil.Proofs.Slot.Interpretation
import Stencil.Proofs.Slot.Ranges

/-!
# Text with doubled braces

A text whose braces are doubled holds no slot. It renders to the text itself, whatever follows it,
and what follows it is rendered as if it stood alone.
-/

namespace Stencil.Slot

open Lexer (place next_complete next_sound)
open Stencil.Path (Stops stops_dropWhile mem_takeWhile)
open Stencil.Path.Reader (bind_eq_ok)
open Text (byteLength)

/-- A character as it is written in literal text. -/
def escapeChar (c : Char) : List Char := if isPlain c then [c] else [c, c]

/-- The text with every brace doubled. -/
def escape (text : String) : String := String.ofList (text.toList.flatMap escapeChar)

section

variable {registry : Registry} {ctx : Parameter} {current : String} {size : Nat}
  {last : Option Token} {cs : List Char}

theorem next_textual (h : isTextual last = true) : (place size last cs).next =
    (place size last cs).readText := by
  rcases last with _ | t
  · rfl
  · cases t <;> first | rfl | cases h

theorem readText_place (last : Option Token) (hcs : cs ≠ []) :
    (place size last cs).readText = (place size none cs).readText := by
  unfold Lexer.readText
  simp only [Lexer.rest_place]
  split
  · exact absurd rfl hcs
  all_goals rfl

theorem renderFrom_textual (h : isTextual last = true) :
    renderFrom registry ctx current (place size last cs) =
      renderFrom registry ctx current (place size none cs) := by
  by_cases hcs : cs = []
  · subst hcs
    rw [renderFrom_end (Lexer.next_nil h), renderFrom_end (Lexer.next_nil rfl)]
  have same : (place size last cs).next = (place size none cs).next := by
    rw [next_textual h, next_textual rfl, readText_place last hcs]
  rcases hn : (place size none cs).next with ⟨e | _ | t, m⟩
  · rw [renderFrom_error hn, renderFrom_error (same.trans hn)]
  · rw [renderFrom_end hn, renderFrom_end (same.trans hn)]
  · rw [renderFrom_token hn, renderFrom_token (same.trans hn)]

theorem renderFrom_piece {s : String} {rest : List Char} (hsize : byteLength cs ≤ size)
    (h : isTextual last = true) (piece : Piece s cs rest) :
    renderFrom registry ctx current (place size last cs) =
      (renderFrom registry ctx current (place size none rest)).map (s ++ ·) := by
  rw [renderFrom_token (next_complete hsize (.text h piece)), renderToken, renderFrom_textual rfl]
  rfl

theorem renderFrom_plain {c : Char} (hc : isPlain c = true) (hsize : byteLength (c :: cs) ≤ size) :
    renderFrom registry ctx current (place size none (c :: cs)) =
      (renderFrom registry ctx current (place size none cs)).map (String.singleton c ++ ·) := by
  have hrun : ∀ d ∈ cs.takeWhile isPlain, isPlain d = true := fun d => mem_takeWhile
  have hstop := stops_dropWhile isPlain cs
  have hcs := List.takeWhile_append_dropWhile (p := isPlain) (l := cs)
  generalize cs.takeWhile isPlain = run at hrun hcs
  generalize cs.dropWhile isPlain = rest at hstop hcs
  subst hcs
  have hfirst : ∀ d ∈ c :: run, isPlain d = true := by
    simpa [hc] using hrun
  have whole : Piece (String.ofList (c :: run)) (c :: (run ++ rest)) rest :=
    .plain (List.cons_ne_nil c run) hfirst hstop
  rw [renderFrom_piece hsize rfl whole]
  by_cases hne : run = []
  · subst hne
    rfl
  have more : Piece (String.ofList run) (run ++ rest) rest := .plain hne hrun hstop
  have hsize' : byteLength (run ++ rest) ≤ size := by
    rw [Text.byteLength_cons] at hsize
    omega
  rw [renderFrom_piece hsize' rfl more]
  cases renderFrom registry ctx current (place size none rest) with
  | error e => rfl
  | ok s => simp [Except.map, String.ofList_cons, String.append_assoc]

theorem renderFrom_escapeChar (c : Char) (hsize : byteLength (escapeChar c ++ cs) ≤ size) :
    renderFrom registry ctx current (place size none (escapeChar c ++ cs)) =
      (renderFrom registry ctx current (place size none cs)).map (String.singleton c ++ ·) := by
  by_cases hopen : c = '\x7b'
  · subst hopen
    exact renderFrom_piece hsize rfl (.doubledOpening cs)
  by_cases hclose : c = '\x7d'
  · subst hclose
    exact renderFrom_piece hsize rfl (.doubledClosing cs)
  have plain : isPlain c = true := by simp [isPlain, hopen, hclose]
  rw [escapeChar, if_pos plain] at hsize ⊢
  exact renderFrom_plain plain hsize

theorem renderFrom_escaped (front : List Char)
    (hsize : byteLength (front.flatMap escapeChar ++ cs) ≤ size) :
    renderFrom registry ctx current (place size none (front.flatMap escapeChar ++ cs)) =
      (renderFrom registry ctx current (place size none cs)).map (String.ofList front ++ ·) := by
  induction front with
  | nil =>
    simp only [List.flatMap_nil, List.nil_append]
    cases renderFrom registry ctx current (place size none cs) <;> simp [Except.map]
  | cons c front ih =>
    simp only [List.flatMap_cons, List.append_assoc] at hsize ⊢
    have hsize' : byteLength (front.flatMap escapeChar ++ cs) ≤ size := by
      rw [Text.byteLength_append] at hsize
      omega
    rw [renderFrom_escapeChar c hsize, ih hsize']
    cases renderFrom registry ctx current (place size none cs) with
    | error e => rfl
    | ok s => simp [Except.map, String.ofList_cons, String.append_assoc]

end

theorem render_escape (registry : Registry) (ctx : Parameter) (text : String) :
    render registry ctx (escape text) = .ok text := by
  have fits : byteLength (text.toList.flatMap escapeChar ++ []) ≤
      byteLength (text.toList.flatMap escapeChar) := by
    simp
  have whole := @renderFrom_escaped registry ctx "" _ [] text.toList fits
  rw [renderFrom_end (Lexer.next_nil rfl), List.append_nil] at whole
  rw [render, Lexer.start_eq, escape, String.toList_ofList, whole]
  simp [Except.map]

/-! ## Text behind other text -/

/-- Lexers in front of the same characters of two texts. -/
inductive Alike : Lexer → Lexer → Prop where
  | mk {size size' : Nat} {last : Option Token} {cs : List Char} :
    byteLength cs ≤ size → byteLength cs ≤ size' → Alike (place size last cs) (place size' last cs)

section

variable {registry : Registry} {ctx : Parameter} {current s : String} {l l' m : Lexer}

theorem Alike.symm (h : Alike l l') : Alike l' l := by
  obtain ⟨hsize, hsize'⟩ := h
  exact .mk hsize' hsize

theorem Alike.next_token {t : Token} (h : Alike l l') (hl : l.next = (.ok (some t), m)) :
    ∃ m', l'.next = (.ok (some t), m') ∧ Alike m m' := by
  obtain ⟨hsize, hsize'⟩ := h
  obtain ⟨rest, takes, rfl⟩ := next_sound hsize hl
  exact ⟨_, next_complete hsize' takes, .mk (within_of_suffix takes.suffix hsize)
    (within_of_suffix takes.suffix hsize')⟩

theorem Alike.next_end (h : Alike l l') (hl : l.next = (.ok none, m)) :
    ∃ m', l'.next = (.ok none, m') := by
  cases h with
  | mk =>
    obtain ⟨hlast, rfl⟩ := Lexer.next_eq_none hl
    exact ⟨_, Lexer.next_nil hlast⟩

theorem Alike.comparand {body : String} (h : Alike l l') (hl : readComparand l = .ok (body, m)) :
    ∃ m', readComparand l' = .ok (body, m') ∧ Alike m m' := by
  unfold readComparand at hl
  split at hl
  · cases hl
  · next hnext =>
    cases hl
    obtain ⟨m', hnext', alike⟩ := h.next_token hnext
    exact ⟨m', by rw [readComparand, hnext'], alike⟩
  · cases hl

theorem Alike.condition (h : Alike l l') (hl : readCondition l = .ok m) :
    ∃ m', readCondition l' = .ok m' ∧ Alike m m' := by
  unfold readCondition at hl
  split at hl
  · cases hl
  · next hnext =>
    cases hl
    obtain ⟨m', hnext', alike⟩ := h.next_token hnext
    exact ⟨m', by rw [readCondition, hnext'], alike⟩
  · cases hl

theorem Alike.branches {b : Branches} (h : Alike l l') (hl : readBranches l = .ok (b, m)) :
    ∃ m', readBranches l' = .ok (b, m') ∧ Alike m m' := by
  unfold readBranches at hl
  split at hl
  · cases hl
  · next yes k hfirst =>
    obtain ⟨k', hfirst', alike⟩ := h.next_token hfirst
    split at hl
    · cases hl
    · next hstop =>
      cases hl
      obtain ⟨_, hstop', -⟩ := alike.next_token hstop
      exact ⟨k', by rw [readBranches, hfirst']; dsimp only; rw [hstop'], alike⟩
    · next helse =>
      obtain ⟨n', helse', behind⟩ := alike.next_token helse
      split at hl
      · cases hl
      · next hsecond =>
        cases hl
        obtain ⟨m', hsecond', last⟩ := behind.next_token hsecond
        refine ⟨m', ?_, last⟩
        rw [readBranches, hfirst']
        dsimp only
        rw [helse']
        dsimp only
        rw [hsecond']
      · cases hl
    · cases hl
  · cases hl

theorem Alike.token_rendered {t : Token} (h : Alike m l')
    (ih : ∀ {current s k k'}, k.rest.length ≤ m.rest.length → Alike k k' →
      renderFrom registry ctx current k = .ok s → renderFrom registry ctx current k' = .ok s)
    (hs : renderToken registry ctx current m t = .ok s) :
    renderToken registry ctx current l' t = .ok s := by
  have here {current s} := @ih current s m l' (Nat.le_refl _) h
  cases t with
  | text body =>
    obtain ⟨rest, hrest, hs⟩ := bind_eq_ok hs
    rw [renderToken, here hrest]
    exact hs
  | start => exact here hs
  | reference key =>
    obtain ⟨v, hv, hs⟩ := bind_eq_ok hs
    rw [renderToken, hv]
    exact here hs
  | format spec => exact here hs
  | match_ literal =>
    obtain ⟨found, hfound, hs⟩ := bind_eq_ok hs
    rw [renderToken, hfound]
    exact here hs
  | substring range =>
    obtain ⟨part, hpart, hs⟩ := bind_eq_ok hs
    have hpart' : substring current range l'.position = .ok part :=
      substring_eq_ok_iff.2 (substring_eq_ok_iff.1 (mapError_eq_ok.1 hpart))
    rw [renderToken, hpart']
    exact here hs
  | condition =>
    obtain ⟨⟨b, n⟩, read, hs⟩ := bind_eq_ok hs
    obtain ⟨chosen, hchosen, hs⟩ := bind_eq_ok hs
    have hread := mapError_eq_ok.1 read
    obtain ⟨n', read', alike⟩ := h.branches hread
    rw [renderToken, read', mapError_ok, ok_bind]
    dsimp only
    rw [hchosen]
    exact ih (Nat.le_of_lt (readBranches_lt hread).1) alike hs
  | operator op =>
    obtain ⟨⟨comparand, n⟩, readLiteral, hs⟩ := bind_eq_ok hs
    obtain ⟨right, hright, hs⟩ := bind_eq_ok hs
    obtain ⟨k, readMark, hs⟩ := bind_eq_ok hs
    obtain ⟨⟨b, last⟩, read, hs⟩ := bind_eq_ok hs
    obtain ⟨chosen, hchosen, hs⟩ := bind_eq_ok hs
    rw [mapError_eq_ok] at readLiteral readMark read
    obtain ⟨n', readLiteral', alike⟩ := h.comparand readLiteral
    obtain ⟨k', readMark', alike⟩ := alike.condition readMark
    obtain ⟨last', read', alike⟩ := alike.branches read
    have shorter : last.rest.length ≤ m.rest.length := by
      have := (readComparand_lt readLiteral).1
      have := readCondition_lt readMark
      have := (readBranches_lt read).1
      omega
    rw [renderToken, readLiteral', mapError_ok, ok_bind]
    dsimp only
    rw [hright, ok_bind, readMark', mapError_ok, ok_bind, read', mapError_ok, ok_bind]
    dsimp only
    rw [hchosen]
    exact ih shorter alike hs
  | stop =>
    obtain ⟨rest, hrest, hs⟩ := bind_eq_ok hs
    rw [renderToken, here hrest]
    exact hs
  | literal body => cases hs
  | else_ => cases hs

/-- What is rendered does not hang on what stands in front of it. -/
theorem Alike.rendered (h : Alike l l') (hs : renderFrom registry ctx current l = .ok s) :
    renderFrom registry ctx current l' = .ok s := by
  induction hn : l.rest.length using Nat.strongRecOn generalizing l l' current s with
  | ind n ih =>
    subst hn
    rcases hnext : l.next with ⟨e | _ | t, m⟩
    · rw [renderFrom_error hnext] at hs
      cases hs
    · obtain ⟨m', hnext'⟩ := h.next_end hnext
      rw [renderFrom_end hnext] at hs
      rw [renderFrom_end hnext', hs]
    · obtain ⟨m', hnext', alike⟩ := h.next_token hnext
      rw [renderFrom_token hnext] at hs
      rw [renderFrom_token hnext']
      have short := Lexer.next_lt hnext
      exact alike.token_rendered (fun hle hk hs => ih _ (by omega) hk hs rfl) hs

end

/-- Text with doubled braces in front of another text is put out as it was, and the other text is
rendered as it is alone. -/
theorem render_escape_append (registry : Registry) (ctx : Parameter) (front text : String) :
    (∀ out, render registry ctx (escape front ++ text) = .ok out ↔
      ∃ rest, render registry ctx text = .ok rest ∧ out = front ++ rest) ∧
    render registry ctx (escape front) = .ok front := by
  refine ⟨fun out => ?_, render_escape registry ctx front⟩
  let size := byteLength (front.toList.flatMap escapeChar ++ text.toList)
  have whole : render registry ctx (escape front ++ text) =
      (renderFrom registry ctx "" (place size none text.toList)).map (front ++ ·) := by
    have escaped :=
      @renderFrom_escaped registry ctx "" size text.toList front.toList (Nat.le_refl _)
    rw [String.ofList_toList] at escaped
    rw [render, Lexer.start_eq, escape, String.toList_append, String.toList_ofList]
    exact escaped
  have alike : Alike (place size none text.toList) (.start text) := by
    rw [Lexer.start_eq]
    exact .mk (by simp [size]) (Nat.le_refl _)
  have alone (rest : String) : renderFrom registry ctx "" (place size none text.toList) = .ok rest ↔
      render registry ctx text = .ok rest :=
    ⟨alike.rendered, alike.symm.rendered⟩
  rw [whole]
  constructor
  · intro h
    rcases hrest : renderFrom registry ctx "" (place size none text.toList) with e | rest
    · rw [hrest] at h
      cases h
    · rw [hrest] at h
      cases h
      exact ⟨rest, (alone rest).1 hrest, rfl⟩
  · rintro ⟨rest, hrest, rfl⟩
    rw [(alone rest).2 hrest]
    rfl

end Stencil.Slot
