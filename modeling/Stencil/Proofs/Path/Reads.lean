import Stencil.Proofs.Path.Passing
import Stencil.Proofs.Path.Taking

/-!
# Reading tokens

The next token is read behind the spaces in front of it: one that may stand there is read exactly
where the text has it, and a path ends only where it is complete.
-/

namespace Stencil.Path

namespace Reader

variable {r s : Reader} {a : Token} {m : Mode}

/-- Past the spaces that may stand in front of a token. -/
def gapped (r : Reader) : Reader := if r.mode = .path then r else r.skipSpaces

theorem Is.gapped (hr : r.Is a m) :
    r.gapped.Is a m ∧ r.gapped.rest = lead (m != .path) r.rest := by
  obtain ⟨ht, rfl, hd, he⟩ := hr
  unfold Reader.gapped
  by_cases hp : r.mode = .path
  · rw [if_pos hp]
    refine ⟨⟨ht, rfl, hd, he⟩, ?_⟩
    rw [hp]
    rfl
  · rw [if_neg hp, bne_iff_ne.2 hp]
    exact ⟨⟨ht, rfl, hd, he⟩, rfl⟩

theorem read_eq (h : r.done = false) :
    r.read = match r.gapped.rest with
      | [] => (if r.gapped.isComplete then .ok false else .error r.gapped.endFault,
          { r.gapped with done := true })
      | c :: _ =>
        match r.gapped.scan with
        | .token next => (.ok true, next)
        | .fault e at_ => (.error e, at_)
        | .nothing at_ =>
          if r.gapped.embedded && r.gapped.isComplete then
            (.ok false, { r.gapped with done := true })
          else (.error (.malformed r.gapped.position (.unexpectedCharacter c)), at_) := by
  rw [read, if_neg (by rw [h]; exact Bool.false_ne_true)]
  rfl

theorem read_token_iff (hr : r.Is a m) : r.read = (.ok true, s) ↔ r.gapped.scan = .token s := by
  have leaves := scan_leaves r.gapped
  rw [read_eq hr.done]
  rcases hrest : r.gapped.rest with _ | ⟨c, cs⟩
  · refine ⟨fun h => ?_, fun h => ?_⟩
    · dsimp only at h
      split at h <;> cases h
    · rw [hrest, h] at leaves
      exact absurd leaves (Nat.not_lt_zero _)
  · rcases r.gapped.scan with next | at_ | ⟨e, at_⟩
    · simp
    · simp only [reduceCtorEq, iff_false]
      split <;> simp
    · simp

theorem read_end_iff (hr : r.Is a m) :
    (∃ s, r.read = (.ok false, s)) ↔ r.gapped.rest = [] ∧ r.isComplete = true := by
  have embedded := hr.gapped.1.embedded
  have complete : r.gapped.isComplete = r.isComplete := by
    unfold gapped
    split <;> rfl
  rw [read_eq hr.done, embedded, complete]
  rcases hrest : r.gapped.rest with _ | ⟨c, cs⟩
  · simp
  · rcases r.gapped.scan with next | at_ | ⟨e, at_⟩ <;> simp

theorem reads_sound (hr : r.Is a m) (h : r.read = (.ok true, s)) :
    ∃ comma t n, Follows a m comma t n ∧ s.Is t n ∧
      Entry comma (m != .path) t s.lexeme r.rest s.rest ∧ Fits a m t s.lexeme := by
  obtain ⟨hu, hrest⟩ := hr.gapped
  obtain ⟨comma, t, n, hf, hs, hb, fits⟩ := passes_of_scan hu ((read_token_iff hr).1 h)
  rw [hu.mode] at hf fits
  rw [hrest] at hb
  exact ⟨comma, t, n, hf, hs, (hf.entry_iff).2 hb, fits⟩

theorem reads_complete {comma : Bool} {t : Token} {n : Mode} {lexeme rest : List Char}
    (hr : r.Is a m) (hf : Follows a m comma t n) (h : Entry comma (m != .path) t lexeme r.rest rest)
    (hb : t.Bounded rest) (hfits : Fits a m t lexeme) :
    ∃ s, r.read = (.ok true, s) ∧ s.Is t n ∧ s.lexeme = lexeme ∧ s.rest = rest := by
  obtain ⟨hu, hrest⟩ := hr.gapped
  have taken := takes_of_follows hu hf (hrest ▸ hf.entry_iff.1 h) hb hfits
  rcases hs : r.gapped.scan with s | at_ | ⟨e, at_⟩ <;> rw [hs] at taken
  · exact ⟨s, (read_token_iff hr).2 hs, taken⟩
  · cases taken
  · cases taken

end Reader

end Stencil.Path
