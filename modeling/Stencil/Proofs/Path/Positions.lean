import Stencil.Proofs.Path.Lexing
import Stencil.Path.Evaluate

/-!
# Positions in a path

A reader's position is the number of bytes of the text that it has passed, so the length of an
embedded path is that of a piece at the start of the text.
-/

namespace Stencil.Path

open Text (byteLength)

namespace Reader

/-- The second reader stands further on in the same text, by as many bytes as lie in between. -/
def Advances (r s : Reader) : Prop :=
  ∃ front, r.rest = front ++ s.rest ∧ s.position = r.position + byteLength front

theorem Advances.refl (r : Reader) : r.Advances r := ⟨[], rfl, rfl⟩

theorem Advances.trans {r s t : Reader} (h : r.Advances s) (ht : s.Advances t) : r.Advances t := by
  obtain ⟨front, hrest, hposition⟩ := h
  obtain ⟨more, hrest', hposition'⟩ := ht
  refine ⟨front ++ more, ?_, ?_⟩
  · rw [hrest, hrest', List.append_assoc]
  · rw [hposition', hposition, Text.byteLength_append, Nat.add_assoc]

theorem Advances.position_eq {r s : Reader} {front : List Char} (h : r.Advances s)
    (hrest : r.rest = front ++ s.rest) : s.position = r.position + byteLength front := by
  obtain ⟨front', hrest', hposition⟩ := h
  have same : front' = front := List.append_cancel_right (hrest'.symm.trans hrest)
  rw [hposition, same]

theorem advances_past {r : Reader} {lexeme rest : List Char} (h : r.rest = lexeme ++ rest)
    (t : Token) : r.Advances (r.past t lexeme rest) := ⟨lexeme, h, rfl⟩

theorem advances_skipSpaces (r : Reader) : r.Advances r.skipSpaces :=
  ⟨_, List.takeWhile_append_dropWhile.symm, rfl⟩

/-- Wherever a scan has led, it is further on. -/
def Onward (r : Reader) : Scan → Prop
  | .token s | .nothing s | .fault _ s => r.Advances s

theorem Onward.trans {r s : Reader} {scan : Scan} (h : r.Advances s) (hs : s.Onward scan) :
    r.Onward scan := by
  cases scan <;> exact h.trans hs

section

variable (r : Reader)

theorem scanString_onward : r.Onward r.scanString := by
  unfold scanString
  split
  · next cs h =>
    split
    · exact .refl r
    · next c rest hc =>
      have run := (dropWhile_ne_eq_cons hc).1.symm
      refine ⟨'\'' :: (cs.takeWhile (· != '\'') ++ ['\'']), ?_, ?_⟩
      · rw [h]
        simp only [past, List.cons_append, List.append_assoc, List.nil_append, run]
      · simp only [Text.byteLength_cons, Text.byteLength_append, Text.byteLength_nil]
        have quote : '\''.utf8Size = 1 := rfl
        omega
  · exact .refl r

theorem scanNumber_onward (fraction : Bool) : r.Onward (r.scanNumber fraction) := by
  rcases hs : r.scanNumber fraction with s | s | ⟨e, s⟩
  · obtain ⟨text, rest, hrest, rfl, -⟩ := scanNumber_sound hs
    exact advances_past hrest .number
  all_goals
    have stays : s = r := by
      unfold scanNumber at hs
      dsimp only at hs
      split at hs
      · cases hs
        try rfl
      split at hs
      · split at hs <;> cases hs
        try rfl
      · cases hs
    rw [stays]
    exact .refl r

theorem scanMember_onward : r.Onward r.scanMember := by
  unfold scanMember
  split
  · next h => exact advances_past h .wildcard
  · next c cs _ h =>
    split
    · apply advances_past
      rw [h, List.cons_append, List.takeWhile_append_dropWhile]
    · exact .refl r
  · exact .refl r

theorem scanRegex_onward : r.Onward r.scanRegex := by
  unfold scanRegex
  split
  · next h => exact advances_past (cutLiteral?_sound h).1 .regex
  · exact .refl r

theorem scanEndFilter_onward : r.Onward r.scanEndFilter := by
  unfold scanEndFilter
  split
  · next h => exact advances_past h .endFilter
  · exact .refl r

theorem scanEndExpression_onward : r.Onward r.scanEndExpression := by
  unfold scanEndExpression
  split
  · next h _ => exact advances_past h .endExpression
  · exact .refl r

theorem scanOperator_onward : r.Onward r.scanOperator := by
  rcases hs : r.scanOperator with s | s | ⟨e, s⟩
  · obtain ⟨op, rest, hrest, -, rfl⟩ := scanOperator_sound hs
    exact advances_past hrest _
  all_goals
    unfold scanOperator at hs
    dsimp only at hs
    split at hs <;> cases hs
    try exact .refl r

theorem scanAfterNode_onward : r.Onward r.scanAfterNode := by
  unfold scanAfterNode
  split
  · next h => exact advances_past h .deepScan
  · next h => exact advances_past h .child
  · next h => exact advances_past h .startFilter
  · split
    · exact scanEndExpression_onward r
    · exact .refl r
  · split
    · exact scanOperator_onward r
    · exact .refl r

theorem scanFilterStart_onward : r.Onward r.scanFilterStart := by
  unfold scanFilterStart
  split
  · exact scanString_onward r
  · next h => exact advances_past h .slice
  · next h => exact advances_past h .wildcard
  · next h =>
    split
    · exact .refl r
    · exact advances_past h .startExpression
  · split
    · exact scanNumber_onward r false
    · exact .refl r
  · exact .refl r

theorem scanListItem_onward : r.Onward r.scanListItem := by
  unfold scanListItem
  split
  · exact scanString_onward r
  · split
    · exact scanNumber_onward r true
    · exact .refl r
  · exact .refl r

theorem scanListStart_onward : r.Onward r.scanListStart := by
  unfold scanListStart
  split
  · next h => exact advances_past h .endList
  · exact scanListItem_onward r

theorem advances_pastComma {rest : List Char} (h : r.rest = ',' :: rest) :
    r.Advances (r.pastComma rest) := by
  have comma : r.Advances { r with rest := rest, position := r.position + 1 } := ⟨[','], h, rfl⟩
  exact comma.trans (advances_skipSpaces _)

theorem scanAfterLiteral_onward (isNumber : Bool) : r.Onward (r.scanAfterLiteral isNumber) := by
  unfold scanAfterLiteral
  split
  · split
    · next h => exact (scanListItem_onward _).trans (advances_pastComma r h)
    · next h => exact advances_past h .endList
    · exact .refl r
  split
  · split
    · next rest h =>
      have comma := advances_pastComma r h
      dsimp only
      split
      · exact (scanString_onward _).trans comma
      · split
        · exact (scanNumber_onward _ false).trans comma
        · exact comma
      · exact comma
    · next h =>
      split
      · exact advances_past h .slice
      · exact .refl r
    · exact scanEndFilter_onward r
  · exact scanEndExpression_onward r

theorem scanAfterSlice_onward : r.Onward r.scanAfterSlice := by
  unfold scanAfterSlice
  split
  · split
    · exact scanNumber_onward r false
    · exact scanEndFilter_onward r
  · exact .refl r

theorem scanOperandPath_onward : r.Onward r.scanOperandPath := by
  unfold scanOperandPath
  split
  · next h => exact advances_past h .current
  · next h => exact advances_past h .root
  · exact .refl r

theorem scanOperand_onward : r.Onward r.scanOperand := by
  unfold scanOperand
  split
  · exact scanOperandPath_onward r
  · exact scanOperandPath_onward r
  · exact scanString_onward r
  · exact scanRegex_onward r
  · next h => exact advances_past h .startList
  · split
    · exact scanNumber_onward r true
    · exact .refl r
  · exact .refl r

theorem scanRoot_onward : r.Onward r.scanRoot := by
  unfold scanRoot
  split
  · next h => exact advances_past h .root
  · exact .refl r

theorem scan_onward : r.Onward r.scan := by
  unfold scan
  split
  · exact scanRoot_onward r
  all_goals first
    | exact scanAfterNode_onward r
    | exact scanMember_onward r
    | exact scanFilterStart_onward r
    | exact scanAfterLiteral_onward r _
    | exact scanAfterSlice_onward r
    | exact scanOperandPath_onward r
    | exact scanEndExpression_onward r
    | exact scanOperand_onward r
    | exact scanListStart_onward r
    | exact scanEndFilter_onward r
    | (split; exact scanEndFilter_onward r; exact scanAfterNode_onward r)

end

/-- Whatever comes of it, reading only goes on in the text. -/
theorem read_advances (r : Reader) : r.Advances r.read.2 := by
  unfold read
  split
  · exact .refl r
  · dsimp only
    have lead : r.Advances (if r.mode = .path then r else r.skipSpaces) := by
      split
      · exact .refl r
      · exact advances_skipSpaces r
    generalize (if r.mode = .path then r else r.skipSpaces) = s at lead
    have scanned := scan_onward s
    split
    · exact lead
    · split
      · next hs =>
        rw [hs] at scanned
        exact lead.trans scanned
      · next hs =>
        rw [hs] at scanned
        exact lead.trans scanned
      · next hs =>
        rw [hs] at scanned
        split
        · exact lead
        · exact lead.trans scanned

theorem readToEnd_advances {r : Reader} {n : Nat} (h : r.readToEnd = .ok n) :
    ∃ front rest, r.rest = front ++ rest ∧ n = r.position + byteLength front := by
  induction hlen : r.rest.length using Nat.strongRecOn generalizing r with
  | ind len ih =>
    subst hlen
    have onward := read_advances r
    rw [readToEnd] at h
    split at h
    · cases h
    · next s hs =>
      cases h
      rw [hs] at onward
      obtain ⟨front, hrest, hposition⟩ := onward
      exact ⟨front, s.rest, hrest, hposition⟩
    · next s hs =>
      rw [hs] at onward
      obtain ⟨front, hrest, hposition⟩ := onward
      obtain ⟨more, rest, hmore, hn⟩ := ih _ (read_lt hs) h rfl
      refine ⟨front ++ more, rest, ?_, ?_⟩
      · rw [hrest, hmore, List.append_assoc]
      · rw [hn, hposition, Text.byteLength_append, Nat.add_assoc]

end Reader

theorem Reader.read_startEmbedded {cs : List Char} {b : Bool} {s : Reader}
    (h : (Reader.startEmbedded (String.ofList cs)).read = (.ok b, s)) :
    b = true ∧ ∃ tail, cs = '$' :: tail ∧ s.rest = tail ∧ s.position = '$'.utf8Size := by
  have rest : (Reader.startEmbedded (String.ofList cs)).rest = cs := String.toList_ofList
  have incomplete : (Reader.startEmbedded (String.ofList cs)).isComplete = false := rfl
  have scanned : (Reader.startEmbedded (String.ofList cs)).scan =
      (Reader.startEmbedded (String.ofList cs)).scanRoot := rfl
  unfold read at h
  rw [if_neg (show ¬ (Reader.startEmbedded (String.ofList cs)).done = true from nofun)] at h
  dsimp only at h
  rw [if_pos (show (Reader.startEmbedded (String.ofList cs)).mode = .path from rfl), scanned,
    incomplete, scanRoot, rest] at h
  split at h
  · cases h
  split at h
  · next hs =>
    cases h
    split at hs
    · next hroot =>
      cases hs
      exact ⟨rfl, _, hroot, rfl, rfl⟩
    · cases hs
  · cases h
  · cases h

theorem embeddedLength_eq_ok {cs : List Char} {n : Nat}
    (h : embeddedLength (String.ofList cs) = .ok n) :
    ∃ path rest, cs = '$' :: (path ++ rest) ∧ byteLength ('$' :: path) = n := by
  rw [embeddedLength, Reader.readToEnd] at h
  split at h
  · cases h
  · next s hs => cases (Reader.read_startEmbedded hs).1
  · next s hs =>
    obtain ⟨-, tail, rfl, rest, position⟩ := Reader.read_startEmbedded hs
    obtain ⟨path, rest', hpath, rfl⟩ := Reader.readToEnd_advances h
    refine ⟨path, rest', ?_, ?_⟩
    · rw [← rest, hpath]
    · rw [position, Text.byteLength_cons]

end Stencil.Path
