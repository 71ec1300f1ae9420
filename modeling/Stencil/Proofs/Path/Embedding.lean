import Stencil.Proofs.Path.Reads

/-!
# Paths in a longer text

A reader of a path that stands in a longer text reads the tokens that the reader of a path of its
own reads there. The two differ only at a complete path that no further step follows: in a longer
text it ends there, and one of its own ends only with its text.
-/

namespace Stencil.Path

/-- A further step of a path starts here. -/
def StartsStep (rest : List Char) : Prop :=
  rest.head? = some '.' ∨ rest.head? = some '['

/-- The same reader in a longer text. -/
def Reader.embed (r : Reader) : Reader := { r with embedded := true }

def Scan.embed : Scan → Scan
  | .token s => .token s.embed
  | .nothing s => .nothing s.embed
  | .fault e s => .fault e s.embed

namespace Reader

/-! ## Scans -/

section

variable (r : Reader)

@[simp] theorem rest_embed : r.embed.rest = r.rest := rfl
@[simp] theorem position_embed : r.embed.position = r.position := rfl
@[simp] theorem token_embed : r.embed.token = r.token := rfl
@[simp] theorem mode_embed : r.embed.mode = r.mode := rfl

theorem scanString_embed : r.embed.scanString = r.scanString.embed := by
  unfold scanString
  simp only [rest_embed, position_embed]
  split
  · split <;> rfl
  · rfl

theorem scanNumber_embed (fraction : Bool) :
    r.embed.scanNumber fraction = (r.scanNumber fraction).embed := by
  unfold scanNumber
  rw [rest_embed, position_embed]
  generalize splitMinus r.rest = split
  obtain ⟨sign, cs⟩ := split
  dsimp only
  by_cases hd : (cs.takeWhile Char.isDigit).isEmpty = true
  · rw [if_pos hd, if_pos hd]
    rfl
  · rw [if_neg hd, if_neg hd]
    split
    · split <;> rfl
    · rfl

theorem scanMember_embed : r.embed.scanMember = r.scanMember.embed := by
  unfold scanMember
  rw [rest_embed]
  split
  · rfl
  · split <;> rfl
  · rfl

theorem scanRegex_embed : r.embed.scanRegex = r.scanRegex.embed := by
  unfold scanRegex
  rw [rest_embed]
  split <;> rfl

theorem scanEndFilter_embed : r.embed.scanEndFilter = r.scanEndFilter.embed := by
  unfold scanEndFilter
  rw [rest_embed]
  split <;> rfl

theorem scanEndExpression_embed : r.embed.scanEndExpression = r.scanEndExpression.embed := by
  unfold scanEndExpression
  rw [rest_embed, mode_embed]
  split <;> rfl

theorem scanOperator_embed : r.embed.scanOperator = r.scanOperator.embed := by
  unfold scanOperator
  simp only [rest_embed]
  split <;> rfl

theorem scanAfterNode_embed : r.embed.scanAfterNode = r.scanAfterNode.embed := by
  unfold scanAfterNode
  rw [rest_embed, mode_embed, scanEndExpression_embed, scanOperator_embed]
  split
  · rfl
  · rfl
  · rfl
  · split <;> rfl
  · split <;> rfl

theorem scanFilterStart_embed : r.embed.scanFilterStart = r.scanFilterStart.embed := by
  unfold scanFilterStart
  rw [rest_embed, mode_embed, scanString_embed, scanNumber_embed]
  split
  · rfl
  · rfl
  · rfl
  · split <;> rfl
  · split <;> rfl
  · rfl

theorem scanListItem_embed : r.embed.scanListItem = r.scanListItem.embed := by
  unfold scanListItem
  rw [rest_embed, scanString_embed, scanNumber_embed]
  split
  · rfl
  · split <;> rfl
  · rfl

theorem scanListStart_embed : r.embed.scanListStart = r.scanListStart.embed := by
  unfold scanListStart
  rw [rest_embed, scanListItem_embed]
  split <;> rfl

theorem pastComma_embed (rest : List Char) :
    r.embed.pastComma rest = (r.pastComma rest).embed := rfl

theorem scanAfterLiteral_embed (isNumber : Bool) :
    r.embed.scanAfterLiteral isNumber = (r.scanAfterLiteral isNumber).embed := by
  unfold scanAfterLiteral
  simp only [rest_embed, mode_embed, pastComma_embed, scanListItem_embed, scanString_embed,
    scanNumber_embed, scanEndFilter_embed, scanEndExpression_embed]
  split
  · split <;> rfl
  split
  · split
    · split
      · rfl
      · split <;> rfl
      · rfl
    · split <;> rfl
    · rfl
  · rfl

theorem scanAfterSlice_embed : r.embed.scanAfterSlice = r.scanAfterSlice.embed := by
  unfold scanAfterSlice
  rw [rest_embed, scanNumber_embed, scanEndFilter_embed]
  split
  · split <;> rfl
  · rfl

theorem scanOperandPath_embed : r.embed.scanOperandPath = r.scanOperandPath.embed := by
  unfold scanOperandPath
  rw [rest_embed]
  split <;> rfl

theorem scanOperand_embed : r.embed.scanOperand = r.scanOperand.embed := by
  unfold scanOperand
  rw [rest_embed, scanOperandPath_embed, scanString_embed, scanRegex_embed, scanNumber_embed]
  split
  all_goals first | rfl | (split <;> rfl)

theorem scanRoot_embed : r.embed.scanRoot = r.scanRoot.embed := by
  unfold scanRoot
  rw [rest_embed]
  split <;> rfl

theorem scan_embed : r.embed.scan = r.scan.embed := by
  unfold scan
  simp only [token_embed, mode_embed, scanRoot_embed, scanAfterNode_embed, scanEndFilter_embed,
    scanMember_embed, scanFilterStart_embed, scanAfterLiteral_embed, scanAfterSlice_embed,
    scanOperandPath_embed, scanEndExpression_embed, scanOperand_embed, scanListStart_embed]
  split
  all_goals first | rfl | (split <;> rfl)

theorem gapped_embed : r.embed.gapped = r.gapped.embed := by
  unfold gapped
  rw [mode_embed]
  split <;> rfl

end

variable {r v : Reader} {a : Token} {m : Mode}

/-! ## Reading -/

theorem read_embed_iff (hr : r.Is a m) :
    r.embed.read = (.ok true, v) ↔ ∃ s, r.read = (.ok true, s) ∧ v = s.embed := by
  rw [read_eq hr.done, read_eq (r := r.embed) hr.done, gapped_embed, rest_embed, scan_embed]
  rcases r.gapped.rest with _ | ⟨c, cs⟩
  · dsimp only
    constructor
    · intro h
      split at h <;> cases h
    · rintro ⟨s, h, -⟩
      split at h <;> cases h
  · rcases r.gapped.scan with next | at_ | ⟨e, at_⟩
    · constructor
      · rintro ⟨⟩
        exact ⟨next, rfl, rfl⟩
      · rintro ⟨s, ⟨⟩, rfl⟩
        rfl
    · dsimp only [Scan.embed]
      constructor
      · intro h
        split at h <;> cases h
      · rintro ⟨s, h, -⟩
        split at h <;> cases h
    · simp [Scan.embed]

/-! ## Where a path ends -/

theorem isComplete_iff (hr : r.Is a m) :
    r.isComplete = true ↔ m = .path ∧ a.isNode .path = true ∧ a ≠ .current := by
  unfold isComplete
  rw [hr.mode, hr.token]
  cases a <;> simp [Token.isNode, Mode.inBracket]

theorem gapped_complete (hr : r.Is a m) (hc : r.isComplete = true) : r.gapped = r := by
  unfold gapped
  rw [if_pos (hr.mode.trans ((isComplete_iff hr).1 hc).1)]

theorem scan_complete (hr : r.Is a m) (hc : r.isComplete = true) :
    (∃ s, r.scan = .token s) ∧ StartsStep r.rest ∨ r.scan = .nothing r ∧ ¬ StartsStep r.rest := by
  obtain ⟨rfl, node, -⟩ := (isComplete_iff hr).1 hc
  have outside : r.mode ≠ .operand := by
    rw [hr.mode]
    nofun
  rw [scan_node hr node]
  unfold scanAfterNode StartsStep
  split
  · next h => exact .inl ⟨⟨_, rfl⟩, .inl (by rw [h]; rfl)⟩
  · next h => exact .inl ⟨⟨_, rfl⟩, .inl (by rw [h]; rfl)⟩
  · next h => exact .inl ⟨⟨_, rfl⟩, .inr (by rw [h]; rfl)⟩
  · next h =>
    rw [if_neg outside, h]
    exact .inr ⟨rfl, by simp⟩
  · next hdot hopen _ =>
    rw [if_neg outside]
    refine .inr ⟨rfl, ?_⟩
    rcases hrest : r.rest with _ | ⟨c, cs⟩
    · simp
    · rintro (h | h)
      · cases h
        exact hdot cs hrest
      · cases h
        exact hopen cs hrest

theorem isComplete_gapped (r : Reader) : r.gapped.isComplete = r.isComplete := by
  unfold gapped
  split <;> rfl

theorem read_incomplete (hd : r.done = false) (hc : r.isComplete = false) :
    r.read ≠ (.ok false, v) := by
  rw [read_eq hd, isComplete_gapped, hc]
  rcases r.gapped.rest with _ | ⟨c, cs⟩
  · simp
  · rcases r.gapped.scan with next | at_ | ⟨e, at_⟩ <;> simp

/-- In a longer text a complete path ends where no further step starts. -/
theorem read_embed_end_iff (hr : r.Is a m) :
    r.embed.read = (.ok false, v) ↔
      r.isComplete = true ∧ ¬ StartsStep r.rest ∧ v = { r.embed with done := true } := by
  by_cases hc : r.isComplete = true
  · have complete : r.embed.isComplete = true := hc
    rw [read_eq (r := r.embed) hr.done, isComplete_gapped, complete, gapped_embed, rest_embed,
      scan_embed, gapped_complete hr hc, hc]
    rcases hrest : r.rest with _ | ⟨c, cs⟩
    · simp [StartsStep, eq_comm]
    · rcases scan_complete hr hc with ⟨⟨s, hs⟩, starts⟩ | ⟨hs, ends⟩
      · rw [hrest] at starts
        simp [hs, Scan.embed, starts]
      · rw [hrest] at ends
        simp [hs, Scan.embed, ends, embed, eq_comm]
  · simp [hc, read_incomplete (r := r.embed) hr.done (Bool.eq_false_iff.2 hc)]

theorem read_end_complete_iff (hr : r.Is a m) :
    r.read = (.ok false, v) ↔ r.isComplete = true ∧ r.rest = [] ∧ v = { r with done := true } := by
  constructor
  · intro h
    obtain ⟨hrest, hc⟩ := (read_end_iff hr).1 ⟨v, h⟩
    rw [gapped_complete hr hc] at hrest
    rw [read_eq hr.done, gapped_complete hr hc, hrest] at h
    dsimp only at h
    rw [if_pos hc] at h
    cases h
    exact ⟨hc, hrest, rfl⟩
  · rintro ⟨hc, hrest, rfl⟩
    rw [read_eq hr.done, gapped_complete hr hc, hrest]
    dsimp only
    rw [if_pos hc, hrest]

theorem read_broken (hr : r.Is a m) (hc : r.isComplete = true) (hends : ¬ StartsStep r.rest)
    (hrest : r.rest ≠ []) : ∃ e, r.read.1 = .error e := by
  obtain ⟨c, cs, hrest⟩ := List.exists_cons_of_ne_nil hrest
  rcases scan_complete hr hc with ⟨-, starts⟩ | ⟨hs, -⟩
  · exact absurd starts hends
  · rw [read_eq hr.done, gapped_complete hr hc, hrest]
    dsimp only
    rw [hs, hr.embedded]
    exact ⟨_, rfl⟩

end Reader

end Stencil.Path
