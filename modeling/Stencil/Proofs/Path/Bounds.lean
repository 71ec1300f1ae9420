import Stencil.Proofs.Path.Completion
import Stencil.Proofs.Path.Tracking

/-!
# Reading within the text

However often a path is read from, and whatever comes of it, the reader stands on a boundary of the
text and never goes back. Each token takes it further, so that the end is reached after no more
reads than there are bytes, and one.
-/

namespace Stencil.Path

open Text (IsSlice OnBoundary leadByte leadByte_eq_iff)

namespace Reader

section

variable {r s : Reader}

theorem scan_nothing (h : r.scan = .nothing s) :
    s.isComplete = r.isComplete ∧ s.embedded = r.embedded ∧ (r.isComplete = true → s = r) := by
  by_cases hcomma : r.BehindItem ∧ r.rest.head? = some ','
  · obtain ⟨item, hhead⟩ := hcomma
    obtain ⟨cs, hrest⟩ := List.head?_eq_some_iff.1 hhead
    obtain ⟨isNumber, hscan⟩ := item.scan
    have stays := scanFurther_stays isNumber (r.pastComma cs)
    rw [← scanAfterLiteral_comma item hrest, ← hscan, h] at stays
    obtain rfl : s = r.pastComma cs := stays
    refine ⟨rfl, rfl, fun complete => ?_⟩
    rw [item.incomplete] at complete
    cases complete
  · have stays := scan_stays hcomma
    rw [h] at stays
    obtain rfl : s = r := stays
    exact ⟨rfl, rfl, fun _ => rfl⟩

/-! ## Progress -/

theorem position_lt (h : r.read = (.ok true, s)) : r.position < s.position := by
  have onward := read_advances r
  have shorter := read_lt h
  rw [h] at onward
  obtain ⟨front, hrest, hposition⟩ := onward
  rcases front with _ | ⟨d, front⟩
  · rw [hrest] at shorter
    exact absurd shorter (Nat.lt_irrefl _)
  · have positive := d.utf8Size_pos
    rw [Text.byteLength_cons] at hposition
    dsimp only at hposition
    omega

theorem after_succ (r : Reader) (n : Nat) : r.after (n + 1) = r.read.2.after n := by
  induction n with
  | zero => rfl
  | succ n ih =>
    show (r.after (n + 1)).read.2 = _
    rw [ih]
    rfl

theorem after_add (r : Reader) (m n : Nat) : (r.after m).after n = r.after (m + n) := by
  induction n with
  | zero => rfl
  | succ n ih =>
    show ((r.after m).after n).read.2 = _
    rw [ih]
    rfl

theorem reads_to_end (r : Reader) :
    ∃ k, r.position + k ≤ (r.after k).position ∧ (∀ j < k, (r.after j).read.1 = .ok true) ∧
      (r.after k).read.1 ≠ .ok true ∧
      r.readToEnd = (r.after k).read.1.map fun _ => (r.after (k + 1)).position := by
  fun_induction Reader.readToEnd r with
  | case1 r e s hread =>
    refine ⟨0, Nat.le_refl _, fun j hj => absurd hj (Nat.not_lt_zero j), ?_, ?_⟩
    · simp only [after, hread, ne_eq, reduceCtorEq, not_false_iff]
    · simp only [after, hread, Except.map]
  | case2 r s hread =>
    refine ⟨0, Nat.le_refl _, fun j hj => absurd hj (Nat.not_lt_zero j), ?_, ?_⟩
    · simp [after, hread]
    · simp only [after, hread, Except.map]
  | case3 r s hread ih =>
    have further := position_lt hread
    have same (n : Nat) : r.after (n + 1) = s.after n := by rw [after_succ, hread]
    obtain ⟨k, hk, before, stops, answer⟩ := ih
    refine ⟨k + 1, ?_, fun j hj => ?_, ?_, ?_⟩
    · rw [same]
      omega
    · cases j with
      | zero => simp only [after, hread]
      | succ j =>
        rw [same]
        exact before j (Nat.lt_of_succ_lt_succ hj)
    · rw [same]
      exact stops
    · rw [same, same]
      exact answer

end

end Reader

namespace Cursor

section

variable {text : String} {c : Cursor} {r : Reader} {cs : List Char} {d : Char}

/-! ## Tokens by place -/

theorem Tracks.scanAfterNode (h : c.Tracks text r) (hrest : r.rest = d :: cs) :
    Sight.Tracks text (c.scanAfterNode text d) r.scanAfterNode := by
  rw [Reader.scanAfterNode_cons hrest]
  unfold Cursor.scanAfterNode
  rw [h.mode]
  by_cases point : d = '.'
  · subst point
    rw [if_pos rfl, if_pos rfl]
    simp only [h.peek hrest rfl (e := '.') (by decide)]
    split_ifs with deep
    · obtain ⟨more, rfl⟩ := List.head?_eq_some_iff.1 deep
      have points : r.rest = ['.', '.'] ++ more := hrest
      exact .token (h.sign points .deepScan)
    · exact .token (h.mark hrest rfl .child)
  rw [if_neg point, if_neg point]
  split_ifs with bracket operand close
  · subst bracket
    exact .token ((h.mark hrest rfl .startFilter).enter _)
  · subst close
    have ended := h.scanEndExpression hrest
    unfold Cursor.scanEndExpression at ended ⊢
    rw [h.mode, if_pos ⟨rfl, operand⟩] at ended ⊢
    exact ended
  · unfold Cursor.scanEndExpression
    rw [if_neg (fun both => close both.1)]
    exact h.scanOperator
  · exact .nothing h

theorem Tracks.scanFilterStart (h : c.Tracks text r) (hrest : r.rest = d :: cs) :
    Sight.Tracks text (c.scanFilterStart text d) r.scanFilterStart := by
  have peek : d = '?' ∧ Text.byteAt? text (c.position + 1) = some '(' ↔
      d = '?' ∧ cs.head? = some '(' :=
    and_congr_right fun question =>
      h.peek hrest (question ▸ rfl) (by decide)
  rw [Reader.scanFilterStart_cons hrest]
  unfold Cursor.scanFilterStart
  simp only [peek, h.mode]
  split_ifs with quote colon star question nested number
  · subst quote
    exact h.scanString hrest
  · subst colon
    exact .token (h.mark hrest rfl .slice)
  · subst star
    exact .token (h.mark hrest rfl .wildcard)
  · rw [h.position]
    exact .fault _ h
  · obtain ⟨rfl, opens⟩ := question
    obtain ⟨more, rfl⟩ := List.head?_eq_some_iff.1 opens
    have opening : r.rest = ['?', '('] ++ more := hrest
    exact .token ((h.sign opening .startExpression).enter _)
  · exact h.scanNumber hrest false
  · exact .nothing h

theorem Tracks.scanListItem (h : c.Tracks text r) (hrest : r.rest = d :: cs) :
    Sight.Tracks text (c.scanListItem text d) r.scanListItem := by
  rw [Reader.scanListItem_cons hrest]
  unfold Cursor.scanListItem
  split_ifs with quote number
  · subst quote
    exact h.scanString hrest
  · exact h.scanNumber hrest true
  · exact .nothing h

theorem Tracks.scanListStart (h : c.Tracks text r) (hrest : r.rest = d :: cs) :
    Sight.Tracks text (c.scanListStart text d) r.scanListStart := by
  rw [Reader.scanListStart_cons hrest]
  unfold Cursor.scanListStart
  split_ifs with close
  · subst close
    exact .token ((h.mark hrest rfl .endList).enter _)
  · exact h.scanListItem hrest

theorem scanListItem_leadByte (c : Cursor) (text : String) (d : Char) :
    c.scanListItem text (leadByte d) = c.scanListItem text d := by
  simp (disch := decide) only [Cursor.scanListItem, leadByte_eq_iff,
    bytewise_isNumberStart.leadByte]

theorem Tracks.scanFurther (h : c.Tracks text r) (isNumber : Bool) :
    Sight.Tracks text (c.scanFurther text isNumber) (r.scanFurther isNumber) := by
  unfold Cursor.scanFurther
  rw [h.byteAt?, h.mode]
  cases hrest : r.rest with
  | nil =>
    rw [Reader.scanFurther_nothing (by rw [hrest]; nofun)]
    exact .nothing h
  | cons d cs =>
    rw [Reader.scanFurther_cons hrest]
    simp (disch := decide) only [List.head?_cons, Option.map_some, scanListItem_leadByte,
      leadByte_eq_iff, bytewise_isNumberStart.leadByte]
    split_ifs with list number digit quote
    · exact h.scanListItem hrest
    · exact h.scanNumber hrest false
    · exact .nothing h
    · subst quote
      exact h.scanString hrest
    · exact .nothing h

theorem Tracks.scanAfterLiteral (h : c.Tracks text r) (hrest : r.rest = d :: cs)
    (isNumber : Bool) :
    Sight.Tracks text (c.scanAfterLiteral text isNumber d) (r.scanAfterLiteral isNumber) := by
  rw [Reader.scanAfterLiteral_cons hrest]
  unfold Cursor.scanAfterLiteral
  rw [h.mode]
  split_ifs with list comma close bracket comma colon
  · subst comma
    exact (h.pastComma hrest).scanFurther isNumber
  · subst close
    exact .token ((h.mark hrest rfl .endList).enter _)
  · exact .nothing h
  · subst comma
    exact (h.pastComma hrest).scanFurther isNumber
  · obtain ⟨rfl, -⟩ := colon
    exact .token (h.mark hrest rfl .slice)
  · exact h.scanEndFilter hrest
  · exact h.scanEndExpression hrest

theorem Tracks.scanAfterSlice (h : c.Tracks text r) (hrest : r.rest = d :: cs) :
    Sight.Tracks text (c.scanAfterSlice text d) r.scanAfterSlice := by
  unfold Cursor.scanAfterSlice
  simp only [Reader.scanAfterSlice, hrest]
  split_ifs
  · exact h.scanNumber hrest false
  · exact h.scanEndFilter hrest

theorem Tracks.scanOperandPath (h : c.Tracks text r) (hrest : r.rest = d :: cs) :
    Sight.Tracks text (some (c.scanOperandPath d)) r.scanOperandPath := by
  rw [Reader.scanOperandPath_cons hrest]
  unfold Cursor.scanOperandPath
  split_ifs with current root
  · subst current
    exact .token (h.mark hrest rfl .current)
  · subst root
    exact .token (h.mark hrest rfl .root)
  · exact .nothing h

theorem Tracks.scanOperand (h : c.Tracks text r) (hrest : r.rest = d :: cs) :
    Sight.Tracks text (c.scanOperand text d) r.scanOperand := by
  rw [Reader.scanOperand_cons hrest]
  unfold Cursor.scanOperand
  split_ifs with path quote slash list number
  · exact h.scanOperandPath hrest
  · subst quote
    exact h.scanString hrest
  · subst slash
    exact h.scanRegex hrest
  · subst list
    exact .token ((h.mark hrest rfl .startList).enter _)
  · exact h.scanNumber hrest true
  · exact .nothing h

theorem Tracks.scanRoot (h : c.Tracks text r) (hrest : r.rest = d :: cs) :
    Sight.Tracks text (some (c.scanRoot d)) r.scanRoot := by
  rw [Reader.scanRoot_cons hrest]
  unfold Cursor.scanRoot
  split_ifs with root
  · subst root
    exact .token (h.mark hrest rfl .root)
  · exact .nothing h

theorem scanByte_leadByte (c : Cursor) (text : String) (d : Char) :
    c.scanByte text (leadByte d) = c.scanByte text d := by
  simp (disch := decide) only [Cursor.scanByte, Cursor.scanRoot, Cursor.scanAfterNode,
    Cursor.scanEndFilter, Cursor.scanMember, Cursor.scanFilterStart, Cursor.scanAfterLiteral,
    Cursor.scanAfterSlice, Cursor.scanOperandPath, Cursor.scanEndExpression, Cursor.scanOperand,
    Cursor.scanListStart, Cursor.scanListItem, leadByte_eq_iff, bytewise_isNumberStart.leadByte,
    bytewise_isNameStart.leadByte]

theorem Tracks.scan (h : c.Tracks text r) (hrest : r.rest = d :: cs) :
    Sight.Tracks text (c.scanByte text d) r.scan := by
  unfold Cursor.scanByte Reader.scan
  rw [h.token, h.mode]
  rcases r.token with _ | token
  · exact h.scanRoot hrest
  cases token with
  | root | current | propertyName | endFilter => exact h.scanAfterNode hrest
  | wildcard =>
    dsimp only
    split_ifs
    · exact h.scanEndFilter hrest
    · exact h.scanAfterNode hrest
  | child | deepScan => exact h.scanMember hrest
  | startFilter => exact h.scanFilterStart hrest
  | string => exact h.scanAfterLiteral hrest false
  | number => exact h.scanAfterLiteral hrest true
  | slice => exact h.scanAfterSlice hrest
  | startExpression => exact h.scanOperandPath hrest
  | operator op =>
    cases op with
    | isEmpty => exact h.scanEndExpression hrest
    | _ => exact h.scanOperand hrest
  | regex | endList => exact h.scanEndExpression hrest
  | startList => exact h.scanListStart hrest
  | endExpression => exact h.scanEndFilter hrest

/-! ## Reading -/

theorem Tracks.gapped (h : c.Tracks text r) :
    Tracks text (if c.mode = .path then c else c.skipSpaces text) r.gapped := by
  unfold Reader.gapped
  rw [h.mode]
  split
  · exact h
  · exact h.skipSpaces

theorem Tracks.isComplete (h : c.Tracks text r) : c.isComplete = r.isComplete := by
  unfold Cursor.isComplete
  rw [h.mode, h.token]
  rfl

theorem Tracks.endFault (h : c.Tracks text r) : c.endFault = r.endFault := by
  unfold Cursor.endFault Reader.endFault
  rw [h.mode, h.position]

/-- Reading in place never looks beyond the text, and answers as the reader does. -/
theorem Tracks.read (h : c.Tracks text r) :
    ∃ next : Cursor, c.read text = some (r.read.1, next) ∧ next.Tracks text r.read.2 := by
  unfold Cursor.read
  rw [h.done]
  by_cases hd : r.done = true
  · rw [if_pos hd, Reader.read_done hd]
    exact ⟨c, rfl, h⟩
  rw [if_neg hd, Reader.read_eq (Bool.eq_false_iff.2 hd)]
  have lead := h.gapped
  generalize (if c.mode = .path then c else c.skipSpaces text) = u, r.gapped = s at lead ⊢
  have size := lead.size
  cases hrest : s.rest with
  | nil =>
    rw [hrest, Text.byteLength_nil, Nat.add_zero] at size
    dsimp only
    rw [if_pos (Nat.le_of_eq size), lead.isComplete, lead.endFault]
    exact ⟨_, rfl, { lead with done := rfl }⟩
  | cons d cs =>
    have positive := d.utf8Size_pos
    rw [hrest, Text.byteLength_cons] at size
    have first : Text.byteAt? text u.position = some (leadByte d) := by
      rw [lead.byteAt?, hrest]
      rfl
    have seen := lead.scan hrest
    have kept (t : Reader) (ht : s.scan = .nothing t) := Reader.scan_nothing ht
    dsimp only
    rw [if_neg (by omega), first, Option.bind_eq_bind, Option.bind_some, scanByte_leadByte]
    generalize u.scanByte text d = sight, s.scan = scan at seen kept ⊢
    cases seen with
    | token next => exact ⟨_, rfl, next⟩
    | fault e stays => exact ⟨_, rfl, stays⟩
    | @nothing v t tracks =>
      obtain ⟨complete, embedded, same⟩ := kept t rfl
      have ends : (v.embedded && v.isComplete) = (s.embedded && s.isComplete) := by
        rw [tracks.embedded, tracks.isComplete, complete, embedded]
      dsimp only [Option.bind_eq_bind, Option.bind_some]
      rw [ends]
      split
      · next ends =>
        obtain rfl := same (Bool.and_eq_true_iff.1 ends).2
        refine ⟨_, rfl, { tracks with place := lead.place, position := lead.position, done := rfl
                                      behind := ?_ }⟩
        rw [lead.position, ← tracks.position]
        exact tracks.behind
      · rw [lead.slice?, hrest, lead.position]
        refine ⟨v, ?_, tracks⟩
        simp

theorem Tracks.after (h : c.Tracks text r) (n : Nat) :
    ∃ next : Cursor, c.after? text n = some next ∧ next.Tracks text (r.after n) := by
  induction n with
  | zero => exact ⟨c, rfl, h⟩
  | succ n ih =>
    obtain ⟨next, hnext, tracks⟩ := ih
    obtain ⟨further, hread, onward⟩ := tracks.read
    refine ⟨further, ?_, onward⟩
    rw [after?, hnext, Option.bind_some, hread]
    rfl

theorem opened_tracks (text : String) (embedded : Bool) :
    (opened embedded).Tracks text (Reader.opened text embedded) := by
  have whole : text.toList = [] ++ ("".toList ++ text.toList) := rfl
  have start : IsSlice text 0 0 "" := Text.isSlice_of_append whole
  cases embedded <;> exact
    { place := .start text, position := rfl, token := rfl, mode := rfl, done := rfl
      embedded := rfl, segment := start, behind := Nat.le_refl 0 }

end

end Cursor

open Reader

/-- However often a reader has been read from and whatever came of it: done in place, the next read
looks at no byte beyond the text and cuts no character in two. The reader stands on a boundary
behind the text of its token and does not go back, a token takes it further, and reading on to the
end takes at most as many reads as bytes are left, and one. -/
theorem reads_in_bounds (text : String) (embedded : Bool) (n : ℕ) :
    let r := (opened text embedded).after n
    (∃ c next : Cursor, (Cursor.opened embedded).after? text n = some c ∧
        c.read text = some (r.read.1, next) ∧ c.position = r.position ∧ c.token = r.token ∧
        c.text? text = some r.text ∧ IsSlice text c.segment.1 c.segment.2 r.text ∧
        c.segment.2 ≤ r.position) ∧
      OnBoundary text r.position ∧ r.position ≤ text.utf8ByteSize ∧
      r.position ≤ r.read.2.position ∧
      (r.read.1 = .ok true → r.position < r.read.2.position) ∧
      ∃ k, r.position + k ≤ text.utf8ByteSize ∧ (∀ j < k, (r.after j).read.1 = .ok true) ∧
        (r.after k).read.1 ≠ .ok true ∧
        r.readToEnd = (r.after k).read.1.map fun _ => (r.after (k + 1)).position := by
  intro r
  obtain ⟨c, hc, tracks⟩ := (Cursor.opened_tracks text embedded).after n
  obtain ⟨next, hread, -⟩ := tracks.read
  obtain ⟨front, -, hposition⟩ := read_advances r
  obtain ⟨k, hk, before, stops, answer⟩ := r.reads_to_end
  obtain ⟨last, -, ends⟩ := (Cursor.opened_tracks text embedded).after (n + k)
  rw [← after_add] at ends
  refine ⟨⟨c, next, hc, hread, tracks.position, tracks.token, tracks.segment.slice?,
    tracks.segment, tracks.position ▸ tracks.behind⟩, tracks.position ▸ tracks.onBoundary,
    tracks.position ▸ tracks.onBoundary.le, ?_, fun h => ?_, k, ?_, before, stops, answer⟩
  · rw [hposition]
    exact Nat.le_add_right ..
  · exact position_lt (Prod.ext h rfl)
  · exact hk.trans (ends.position ▸ ends.onBoundary.le)

-- The fourth read passes the comma and the space and fails, and so does every further one.
example : (List.range 7).map (fun n => ((opened "$['é', b" false).after n).position) =
    [0, 1, 2, 6, 8, 8, 8] := by decide +kernel

-- Inside of a character there is nothing to read.
example : (Cursor.read "$é" ⟨2, some .root, (0, 1), .operand, false, false⟩).isNone = true := by
  decide +kernel

end Stencil.Path
