import Stencil.Proofs.Path.Embedding
import Stencil.Proofs.Path.Positions
import Stencil.Proofs.Path.Tokens

/-!
# Failing reads

Most reads that fail pass no more than the blanks in front of what is wrong, so that the next one
fails alike. Two slip: one at the end of the text leaves a reader that is done, and one at a comma
between items leaves the comma out.
-/

namespace Stencil.Path

namespace Reader

/-! ## Scans without a token -/

/-- The scan finds a token or ends at the reader's place. -/
def Stays (r : Reader) : Scan → Prop
  | .token _ => True
  | .nothing s | .fault _ s => s = r

section

variable (r : Reader)

theorem scanString_stays : r.Stays r.scanString := by
  unfold scanString
  split
  · split
    · exact rfl
    · trivial
  · exact rfl

theorem scanNumber_stays (fraction : Bool) : r.Stays (r.scanNumber fraction) := by
  unfold scanNumber
  dsimp only
  split
  · exact rfl
  · split
    · split
      · exact rfl
      · trivial
    · trivial

theorem scanMember_stays : r.Stays r.scanMember := by
  unfold scanMember
  split
  · trivial
  · split
    · trivial
    · exact rfl
  · exact rfl

theorem scanRegex_stays : r.Stays r.scanRegex := by
  unfold scanRegex
  split
  · trivial
  · exact rfl

theorem scanEndFilter_stays : r.Stays r.scanEndFilter := by
  unfold scanEndFilter
  split
  · trivial
  · exact rfl

theorem scanEndExpression_stays : r.Stays r.scanEndExpression := by
  unfold scanEndExpression
  split
  · trivial
  · exact rfl

theorem scanOperator_stays : r.Stays r.scanOperator := by
  unfold scanOperator
  dsimp only
  split
  · trivial
  · exact rfl

theorem scanAfterNode_stays : r.Stays r.scanAfterNode := by
  unfold scanAfterNode
  split
  · trivial
  · trivial
  · trivial
  · split
    · exact scanEndExpression_stays r
    · exact rfl
  · split
    · exact scanOperator_stays r
    · exact rfl

theorem scanFilterStart_stays : r.Stays r.scanFilterStart := by
  unfold scanFilterStart
  split
  · exact scanString_stays r
  · trivial
  · trivial
  · split
    · exact rfl
    · trivial
  · split
    · exact scanNumber_stays r false
    · exact rfl
  · exact rfl

theorem scanListItem_stays : r.Stays r.scanListItem := by
  unfold scanListItem
  split
  · exact scanString_stays r
  · split
    · exact scanNumber_stays r true
    · exact rfl
  · exact rfl

theorem scanListStart_stays : r.Stays r.scanListStart := by
  unfold scanListStart
  split
  · trivial
  · exact scanListItem_stays r

theorem scanAfterSlice_stays : r.Stays r.scanAfterSlice := by
  unfold scanAfterSlice
  split
  · split
    · exact scanNumber_stays r false
    · exact scanEndFilter_stays r
  · exact rfl

theorem scanOperandPath_stays : r.Stays r.scanOperandPath := by
  unfold scanOperandPath
  split
  · trivial
  · trivial
  · exact rfl

theorem scanOperand_stays : r.Stays r.scanOperand := by
  unfold scanOperand
  split
  · exact scanOperandPath_stays r
  · exact scanOperandPath_stays r
  · exact scanString_stays r
  · exact scanRegex_stays r
  · trivial
  · split
    · exact scanNumber_stays r true
    · exact rfl
  · exact rfl

theorem scanRoot_stays : r.Stays r.scanRoot := by
  unfold scanRoot
  split
  · trivial
  · exact rfl

end

variable {r s u : Reader} {a : Token} {m : Mode} {e : PathError}

/-! ## Commas -/

/-- Behind a string or a number that a comma and a further one may follow. -/
def BehindItem (r : Reader) : Prop :=
  (r.token = some .string ∨ r.token = some .number) ∧
    (r.mode = .list ∨ r.mode.inBracket = true)

/-- A failing read that changes what the next one finds: at the end of the text, where the reader is
done from then on, and at a comma between items, which is passed. -/
def Slips (r : Reader) : Prop :=
  (∃ e, r.read.1 = .error e) ∧
    (r.gapped.rest = [] ∨ r.BehindItem ∧ r.gapped.rest.head? = some ',')

theorem BehindItem.inside (h : r.BehindItem) : r.mode ≠ .path := by
  intro hmode
  rcases h.2 with hm | hm <;> rw [hmode] at hm <;> cases hm

theorem BehindItem.scan (h : r.BehindItem) : ∃ isNumber, r.scan = r.scanAfterLiteral isNumber := by
  unfold Reader.scan
  rcases h.1 with ht | ht <;> rw [ht]
  · exact ⟨false, rfl⟩
  · exact ⟨true, rfl⟩

/-- An item, of the kind in front of the comma unless an operand is made of it. -/
def scanFurther (isNumber : Bool) (r : Reader) : Scan :=
  if r.mode = .list then scanListItem r
  else
    match isNumber, r.rest with
    | false, '\'' :: _ => scanString r
    | true, c :: _ => if isNumberStart c then scanNumber false r else .nothing r
    | _, _ => .nothing r

section

variable {isNumber : Bool} {rest : List Char}

theorem scanAfterLiteral_comma (hitem : r.BehindItem) (hrest : r.rest = ',' :: rest) :
    r.scanAfterLiteral isNumber = (r.pastComma rest).scanFurther isNumber := by
  have same : (r.pastComma rest).mode = r.mode := rfl
  unfold scanAfterLiteral scanFurther
  rw [hrest, same]
  split
  · rfl
  · next hlist =>
    rw [if_pos (hitem.2.resolve_left hlist)]
    rfl

theorem scanFurther_stays (isNumber : Bool) (r : Reader) : r.Stays (r.scanFurther isNumber) := by
  unfold scanFurther
  split
  · exact scanListItem_stays r
  · split
    · exact scanString_stays r
    · split
      · exact scanNumber_stays r false
      · exact rfl
    · exact rfl

theorem scanFurther_nothing
    (hnext : ∀ c, r.rest.head? = some c → c ≠ '\'' ∧ isNumberStart c = false) :
    r.scanFurther isNumber = .nothing r := by
  have quote {tail : List Char} (h : r.rest = '\'' :: tail) : False :=
    (hnext '\'' (by rw [h]; rfl)).1 rfl
  have number {c : Char} {tail : List Char} (h : r.rest = c :: tail) : ¬ isNumberStart c = true :=
    Bool.eq_false_iff.1 (hnext c (by rw [h]; rfl)).2
  unfold scanFurther scanListItem
  split
  · split
    · next h => exact (quote h).elim
    · next h => rw [if_neg (number h)]
    · rfl
  · split
    · next h => exact (quote h).elim
    · next h => rw [if_neg (number h)]
    · rfl

theorem scanAfterLiteral_stuck (hitem : r.BehindItem)
    (hnext : ∀ c, r.rest.head? = some c → c ≠ ',' ∧ c ≠ ']' ∧ c ≠ ':') :
    r.scanAfterLiteral isNumber = .nothing r := by
  have head {c : Char} {tail : List Char} (h : r.rest = c :: tail) : c ≠ ',' ∧ c ≠ ']' ∧ c ≠ ':' :=
    hnext c (by rw [h]; rfl)
  unfold scanAfterLiteral scanEndFilter
  split
  · split
    · next h => exact absurd rfl (head h).1
    · next h => exact absurd rfl (head h).2.1
    · rfl
  · next hlist =>
    rw [if_pos (hitem.2.resolve_left hlist)]
    split
    · next h => exact absurd rfl (head h).1
    · next h => exact absurd rfl (head h).2.2
    · split
      · next h => exact absurd rfl (head h).2.1
      · rfl

end

theorem scanAfterLiteral_stays (isNumber : Bool)
    (hcomma : r.mode = .list ∨ r.mode.inBracket = true → r.rest.head? ≠ some ',') :
    r.Stays (r.scanAfterLiteral isNumber) := by
  unfold scanAfterLiteral
  split
  · next hlist =>
    split
    · next h => exact absurd (by rw [h]; rfl) (hcomma (.inl hlist))
    · trivial
    · exact rfl
  split
  · next hbracket =>
    split
    · next h => exact absurd (by rw [h]; rfl) (hcomma (.inr hbracket))
    · split
      · trivial
      · exact rfl
    · exact scanEndFilter_stays r
  · exact scanEndExpression_stays r

theorem scan_stays (hcomma : ¬ (r.BehindItem ∧ r.rest.head? = some ',')) : r.Stays r.scan := by
  have literal (h : r.token = some .string ∨ r.token = some .number) (isNumber : Bool) :
      r.Stays (r.scanAfterLiteral isNumber) :=
    scanAfterLiteral_stays isNumber fun hmode hhead => hcomma ⟨⟨h, hmode⟩, hhead⟩
  unfold scan
  split
  case h_10 h => exact literal (.inl h) false
  case h_11 h => exact literal (.inr h) true
  all_goals first
    | exact scanRoot_stays r
    | exact scanAfterNode_stays r
    | exact scanMember_stays r
    | exact scanFilterStart_stays r
    | exact scanAfterSlice_stays r
    | exact scanOperandPath_stays r
    | exact scanEndExpression_stays r
    | exact scanOperand_stays r
    | exact scanListStart_stays r
    | exact scanEndFilter_stays r
    | (split; exact scanEndFilter_stays r; exact scanAfterNode_stays r)

/-! ## Reads without a token -/

theorem skipSpaces_of_stops (h : Stops (· == ' ') r.rest) : r.skipSpaces = r := by
  unfold skipSpaces
  rw [h.dropWhile, h.takeWhile]
  rfl

theorem gapped_gapped (r : Reader) : r.gapped.gapped = r.gapped := by
  by_cases hp : r.mode = .path
  · have same : r.gapped = r := if_pos hp
    rw [same, same]
  · have skipped : r.gapped = r.skipSpaces := if_neg hp
    have again : r.skipSpaces.gapped = r.skipSpaces.skipSpaces := if_neg hp
    rw [skipped, again, skipSpaces_of_stops (stops_dropWhile _ r.rest)]

theorem BehindItem.gapped_eq (h : r.BehindItem) : r.gapped = r.skipSpaces := if_neg h.inside

theorem BehindItem.gapped (h : r.BehindItem) : r.gapped.BehindItem := by
  rw [h.gapped_eq]
  exact h

theorem advances_gapped (r : Reader) : r.Advances r.gapped := by
  unfold gapped
  split
  · exact .refl r
  · exact advances_skipSpaces r

theorem done_gapped (r : Reader) : r.gapped.done = r.done := by
  unfold gapped
  split <;> rfl

theorem read_gapped (hd : r.done = false) : r.gapped.read = r.read := by
  rw [read_eq hd, read_eq ((done_gapped r).trans hd), gapped_gapped]

theorem not_done_of_error (h : r.read = (.error e, s)) : r.done = false := by
  refine Bool.eq_false_iff.2 fun hd => ?_
  rw [read_done hd] at h
  cases h

theorem read_nothing (hd : r.done = false) (hc : r.isComplete = false) (hrest : r.gapped.rest ≠ [])
    (hs : r.gapped.scan = .nothing s) : ∃ e, r.read = (.error e, s) := by
  obtain ⟨c, cs, hrest⟩ := List.exists_cons_of_ne_nil hrest
  rw [read_eq hd, isComplete_gapped, hc, hrest, hs, Bool.and_false]
  exact ⟨_, rfl⟩

theorem read_error_stays {w : Reader} (h : r.read = (.error e, s)) (hrest : r.gapped.rest ≠ [])
    (hw : w.Stays r.gapped.scan) : s = w := by
  obtain ⟨c, cs, hrest⟩ := List.exists_cons_of_ne_nil hrest
  rw [read_eq (not_done_of_error h), hrest] at h
  dsimp only at h
  split at h
  · cases h
  · next hs =>
    rw [hs] at hw
    cases h
    exact hw
  · next hs =>
    rw [hs] at hw
    split at h <;> cases h
    exact hw

/-- A failing read that does not slip fails again and again. -/
theorem read_error (h : r.read = (.error e, s)) (hslip : ¬ r.Slips) : s.read = (.error e, s) := by
  have fails : ∃ e, r.read.1 = .error e := ⟨e, by rw [h]⟩
  have stays : r.gapped.Stays r.gapped.scan := by
    refine scan_stays fun ⟨hitem, hhead⟩ => hslip ⟨fails, .inr ⟨?_, hhead⟩⟩
    unfold gapped at hitem
    split at hitem <;> exact hitem
  have same := read_error_stays h (fun hrest => hslip ⟨fails, .inl hrest⟩) stays
  rw [same, read_gapped (not_done_of_error h), h, same]

theorem read_error_at_end (h : r.read = (.error e, s)) (hrest : r.gapped.rest = []) :
    s = { r.gapped with done := true } ∧ r.isComplete = false := by
  rw [read_eq (not_done_of_error h), hrest, isComplete_gapped] at h
  dsimp only at h
  split at h
  · cases h
  · next hc =>
    cases h
    exact ⟨rfl, Bool.eq_false_iff.2 hc⟩

theorem BehindItem.incomplete (h : r.BehindItem) : r.isComplete = false := by
  unfold isComplete
  rw [beq_eq_false_iff_ne.2 h.inside, Bool.false_and]

theorem read_error_comma {rest : List Char} (h : r.read = (.error e, s)) (hitem : r.BehindItem)
    (hrest : r.gapped.rest = ',' :: rest) : s = r.gapped.pastComma rest := by
  obtain ⟨isNumber, hscan⟩ := hitem.gapped.scan
  rw [scanAfterLiteral_comma hitem.gapped hrest] at hscan
  refine read_error_stays h (by rw [hrest]; nofun) ?_
  rw [hscan]
  exact scanFurther_stays isNumber (r.gapped.pastComma rest)

end Reader

end Stencil.Path
