import Stencil.Path.Reader

/-!
# Reading makes progress

Every token read makes the rest of the path shorter, so that a path is read to its end.
-/

namespace Stencil.Path.Reader

/-- If a token was read, fewer than `n` characters are left. -/
def LeavesLess (n : Nat) : Scan → Prop
  | .token next => next.rest.length < n
  | _ => True

theorem length_dropWhile_le {α : Type} (p : α → Bool) (l : List α) :
    (l.dropWhile p).length ≤ l.length :=
  (List.dropWhile_sublist p).length_le

theorem skipSpaces_le (r : Reader) : r.skipSpaces.rest.length ≤ r.rest.length :=
  length_dropWhile_le _ _

theorem scanString_leaves (r : Reader) : LeavesLess r.rest.length r.scanString := by
  unfold scanString
  split
  · next cs h =>
    split
    · trivial
    · next rest h2 =>
      have := length_dropWhile_le (· != '\'') cs
      simp [LeavesLess, past, h, h2] at this ⊢
      omega
  · trivial

theorem length_dropWhile_lt {α : Type} (p : α → Bool) (l : List α)
    (h : (l.takeWhile p).isEmpty = false) : (l.dropWhile p).length < l.length := by
  have e : (l.takeWhile p).length + (l.dropWhile p).length = l.length := by
    rw [← List.length_append, List.takeWhile_append_dropWhile]
  have : 0 < (l.takeWhile p).length := by
    cases hl : l.takeWhile p with
    | nil => simp [hl] at h
    | cons => simp
  omega

theorem splitMinus_le (cs : List Char) : (splitMinus cs).2.length ≤ cs.length := by
  unfold splitMinus
  split <;> simp

theorem scanNumber_leaves (fraction : Bool) (r : Reader) :
    LeavesLess r.rest.length (r.scanNumber fraction) := by
  have bound := splitMinus_le r.rest
  unfold scanNumber
  split
  next sign cs h =>
  rw [h] at bound
  simp only at bound ⊢
  split
  · trivial
  · next hd =>
    have short := length_dropWhile_lt Char.isDigit cs (by simpa using hd)
    split
    · next rest hr =>
      split
      · trivial
      · have := length_dropWhile_le Char.isDigit rest
        simp [LeavesLess, past, hr] at short ⊢
        omega
    · simp only [LeavesLess, past]
      omega

theorem scanMember_leaves (r : Reader) : LeavesLess r.rest.length r.scanMember := by
  unfold scanMember
  split
  · next rest h => simp [LeavesLess, past, h]
  · next c cs _ h =>
    split
    · have := length_dropWhile_le isNameChar cs
      simp [LeavesLess, past, h]
      omega
    · trivial
  · trivial

theorem patternBody?_le {cs body rest : List Char}
    (h : Regex.patternBody? cs = some (body, rest)) : rest.length < cs.length := by
  fun_induction Regex.patternBody? cs generalizing body rest with
  | case1 => simp at h
  | case2 c cs ih =>
    obtain ⟨⟨b, t⟩, hb, he⟩ := Option.map_eq_some_iff.1 h
    have := ih hb
    simp at he
    simp [← he.2]
    omega
  | case3 => simp at h
  | case4 cs => simp at h; simp [h.2]
  | case5 c cs _ _ _ ih =>
    obtain ⟨⟨b, t⟩, hb, he⟩ := Option.map_eq_some_iff.1 h
    have := ih hb
    simp at he
    simp [← he.2]
    omega

theorem scanRegex_leaves (r : Reader) : LeavesLess r.rest.length r.scanRegex := by
  unfold scanRegex Regex.cutLiteral?
  split
  · next literal rest h =>
    split at h
    · next cs hr =>
      obtain ⟨⟨body, t⟩, hb, he⟩ := Option.map_eq_some_iff.1 h
      have := patternBody?_le hb
      have := length_dropWhile_le Regex.isFlag t
      simp at he
      simp [LeavesLess, past, hr, ← he.2]
      omega
    · simp at h
  · trivial

theorem scanEndFilter_leaves (r : Reader) : LeavesLess r.rest.length r.scanEndFilter := by
  unfold scanEndFilter
  split
  · next h => simp [LeavesLess, past, enter, h]
  · trivial

theorem scanEndExpression_leaves (r : Reader) :
    LeavesLess r.rest.length r.scanEndExpression := by
  unfold scanEndExpression
  split
  · next h _ => simp [LeavesLess, past, enter, h]
  · trivial

theorem afterOperator?_lt {cs rest : List Char} {op : Operator}
    (h : afterOperator? cs op = some rest) : rest.length < cs.length := by
  unfold afterOperator? at h
  simp only at h
  split at h
  · next hp =>
    have hl := (List.isPrefixOf_iff_prefix.1 hp).length_le
    have pos : 0 < op.symbol.toList.length := by cases op <;> decide
    split at h
    · simp at h
    · simp at h
      simp [← h] at hl pos ⊢
      omega
  · simp at h

theorem scanOperator_leaves (r : Reader) : LeavesLess r.rest.length r.scanOperator := by
  unfold scanOperator
  simp only
  split
  · next op rest h =>
    obtain ⟨o, -, ho⟩ := List.exists_of_findSome?_eq_some h
    obtain ⟨t, ht, he⟩ := Option.map_eq_some_iff.1 ho
    simp at he
    simpa [LeavesLess, past, ← he.2] using afterOperator?_lt ht
  · trivial

theorem scanAfterNode_leaves (r : Reader) : LeavesLess r.rest.length r.scanAfterNode := by
  unfold scanAfterNode
  split
  · next h =>
    simp only [LeavesLess, past, h, List.length_cons]
    omega
  · next h => simp [LeavesLess, past, h]
  · next h => simp [LeavesLess, past, enter, h]
  · split
    · exact scanEndExpression_leaves r
    · trivial
  · split
    · exact scanOperator_leaves r
    · trivial

theorem scanFilterStart_leaves (r : Reader) : LeavesLess r.rest.length r.scanFilterStart := by
  unfold scanFilterStart
  split
  · exact scanString_leaves r
  · next h => simp [LeavesLess, past, h]
  · next h => simp [LeavesLess, past, h]
  · next h =>
    split
    · trivial
    · simp only [LeavesLess, past, enter, h, List.length_cons]
      omega
  · split
    · exact scanNumber_leaves false r
    · trivial
  · trivial

theorem scanListItem_leaves (r : Reader) : LeavesLess r.rest.length r.scanListItem := by
  unfold scanListItem
  split
  · exact scanString_leaves r
  · split
    · exact scanNumber_leaves true r
    · trivial
  · trivial

theorem scanListStart_leaves (r : Reader) : LeavesLess r.rest.length r.scanListStart := by
  unfold scanListStart
  split
  · next h => simp [LeavesLess, past, enter, h]
  · exact scanListItem_leaves r

theorem LeavesLess.mono {m n : Nat} (h : m ≤ n) {s : Scan} : LeavesLess m s → LeavesLess n s := by
  cases s with
  | token next => exact fun lt => Nat.lt_of_lt_of_le lt h
  | nothing at_ => exact id
  | fault e at_ => exact id

theorem pastComma_le (r : Reader) (rest : List Char) :
    (r.pastComma rest).rest.length ≤ rest.length :=
  length_dropWhile_le _ _

theorem scanAfterLiteral_leaves (r : Reader) (isNumber : Bool) :
    LeavesLess r.rest.length (r.scanAfterLiteral isNumber) := by
  unfold scanAfterLiteral
  split
  · split
    · next rest h =>
      refine LeavesLess.mono ?_ (scanListItem_leaves _)
      have := r.pastComma_le rest
      simp [h]; omega
    · next h => simp [LeavesLess, past, enter, h]
    · trivial
  · split
    · split
      · next rest h =>
        have := r.pastComma_le rest
        simp only
        split
        · exact LeavesLess.mono (by simp [h]; omega) (scanString_leaves _)
        · split
          · exact LeavesLess.mono (by simp [h]; omega) (scanNumber_leaves _ _)
          · trivial
        · trivial
      · next h =>
        split
        · simp [LeavesLess, past, h]
        · trivial
      · exact scanEndFilter_leaves r
    · exact scanEndExpression_leaves r

theorem scanAfterSlice_leaves (r : Reader) : LeavesLess r.rest.length r.scanAfterSlice := by
  unfold scanAfterSlice
  split
  · split
    · exact scanNumber_leaves false r
    · exact scanEndFilter_leaves r
  · trivial

theorem scanOperandPath_leaves (r : Reader) : LeavesLess r.rest.length r.scanOperandPath := by
  unfold scanOperandPath
  split
  · next h => simp [LeavesLess, past, h]
  · next h => simp [LeavesLess, past, h]
  · trivial

theorem scanOperand_leaves (r : Reader) : LeavesLess r.rest.length r.scanOperand := by
  unfold scanOperand
  split
  · exact scanOperandPath_leaves r
  · exact scanOperandPath_leaves r
  · exact scanString_leaves r
  · exact scanRegex_leaves r
  · next h => simp [LeavesLess, past, enter, h]
  · split
    · exact scanNumber_leaves true r
    · trivial
  · trivial

theorem scanRoot_leaves (r : Reader) : LeavesLess r.rest.length r.scanRoot := by
  unfold scanRoot
  split
  · next h => simp [LeavesLess, past, h]
  · trivial

theorem scan_leaves (r : Reader) : LeavesLess r.rest.length r.scan := by
  unfold scan
  split
  · exact scanRoot_leaves r
  all_goals first
    | exact scanAfterNode_leaves r
    | exact scanMember_leaves r
    | exact scanFilterStart_leaves r
    | exact scanAfterLiteral_leaves r _
    | exact scanAfterSlice_leaves r
    | exact scanOperandPath_leaves r
    | exact scanEndExpression_leaves r
    | exact scanOperand_leaves r
    | exact scanListStart_leaves r
    | exact scanEndFilter_leaves r
    | (split; exact scanEndFilter_leaves r; exact scanAfterNode_leaves r)

/-- A token read makes the rest of the path shorter. -/
theorem read_lt {r next : Reader} (h : r.read = (.ok true, next)) :
    next.rest.length < r.rest.length := by
  unfold read at h
  split at h
  · simp at h
  · simp only at h
    have le : (if r.mode = .path then r else r.skipSpaces).rest.length ≤ r.rest.length := by
      split
      · exact Nat.le_refl _
      · exact skipSpaces_le r
    generalize (if r.mode = .path then r else r.skipSpaces) = s at h le
    have scanned := scan_leaves s
    split at h
    · split at h <;> simp at h
    · split at h
      · next n hs =>
        rw [hs] at scanned
        simp at h
        simp only [LeavesLess, h] at scanned
        omega
      · simp at h
      · split at h <;> simp at h

theorem read_end_le {r next : Reader} (h : r.read = (.ok false, next)) :
    next.rest.length ≤ r.rest.length := by
  unfold read at h
  split at h
  · cases h
    exact Nat.le_refl _
  · simp only at h
    have le : (if r.mode = .path then r else r.skipSpaces).rest.length ≤ r.rest.length := by
      split
      · exact Nat.le_refl _
      · exact skipSpaces_le r
    generalize (if r.mode = .path then r else r.skipSpaces) = s at h le
    split at h
    · simp at h
      simpa [← h.2] using le
    · split at h
      · simp at h
      · simp at h
      · split at h
        · simp at h
          simpa [← h] using le
        · simp at h

end Stencil.Path.Reader
