import Stencil.Proofs.Path.Replay

/-!
# Faults of a path

Whether a path can be read does not depend on the document. What depends on it is only whether a
regular expression is looked at, and with it whether one that cannot be compiled is refused before
anything else that is wrong with the path.
-/

namespace Stencil.Path

/-- The error says that a regular expression cannot be compiled. -/
def PathError.OnRegex (e : PathError) : Prop := ∃ pattern, e = .invalidRegex pattern

theorem eq_error_of {x : Except PathError (Option Json)} {e : PathError}
    (h : (match x with | .error f => decide (f = e) | .ok _ => false) = true) : x = .error e := by
  cases x with
  | ok v => cases h
  | error f => exact congrArg _ (of_decide_eq_true h)

theorem evaluate_eq_ok {root : Json} {path : String} {v : Option Json}
    (h : evaluate root path = .ok v) :
    ∃ steps, readPath path = .ok steps ∧ (pickFrom root steps).toJson? = v := by
  have mirrors := select_mirrors root path
  unfold evaluate at h
  rcases hs : select root path with e | sel <;> rw [hs] at h mirrors <;> cases h
  obtain ⟨steps, hp, rfl⟩ := mirrors
  exact ⟨steps, hp, rfl⟩

theorem evaluate_eq_error {root : Json} {path : String} {e : PathError}
    (h : evaluate root path = .error e) :
    readPath path = .error e ∨ e.OnRegex ∧ Token.operator .resembles ∈ tokens path ∧
      ∀ steps, readPath path = .ok steps → ¬ ∀ s ∈ steps, s.Compiles := by
  have mirrors := select_mirrors root path
  unfold evaluate at h
  rcases hs : select root path with e | sel <;> rw [hs] at h mirrors <;> cases h
  exact mirrors

theorem evaluate_of_readPath_error {path : String} {e : PathError} (h : readPath path = .error e)
    (root : Json) : evaluate root path = .error e ∨
      ∃ f, evaluate root path = .error f ∧ f.OnRegex ∧
        Token.operator .resembles ∈ tokens path := by
  rcases hv : evaluate root path with f | v
  · rcases evaluate_eq_error hv with hf | ⟨hf, ht, -⟩
    · rw [h] at hf
      cases hf
      exact .inl rfl
    · exact .inr ⟨f, rfl, hf, ht⟩
  · obtain ⟨steps, hs, -⟩ := evaluate_eq_ok hv
    rw [h] at hs
    cases hs

/-- A path that can be read is refused only for a regular expression. -/
theorem evaluate_of_readPath_ok {path : String} {steps : List PathStep}
    (h : readPath path = .ok steps) (root : Json) :
    evaluate root path = .ok (pickFrom root steps).toJson? ∨
      ∃ f, evaluate root path = .error f ∧ f.OnRegex ∧
        Token.operator .resembles ∈ tokens path ∧ ¬ ∀ s ∈ steps, s.Compiles := by
  rcases hv : evaluate root path with f | v
  · rcases evaluate_eq_error hv with hf | ⟨hf, ht, hn⟩
    · rw [h] at hf
      cases hf
    · exact .inr ⟨f, rfl, hf, ht, hn steps h⟩
  · obtain ⟨steps', hs, rfl⟩ := evaluate_eq_ok hv
    rw [h] at hs
    cases hs
    exact .inl rfl

/-- Evaluating a path on two documents finds the same fault, unless it stops at a regular
expression. -/
theorem evaluate_fault_agree (path : String) (a b : Json) :
    (∀ e, evaluate a path = .error e → ¬ e.OnRegex →
      evaluate b path = .error e ∨ ∃ f, evaluate b path = .error f ∧ f.OnRegex) ∧
    (∀ v, evaluate a path = .ok v → ∀ e, evaluate b path = .error e → e.OnRegex) ∧
    (Token.operator .resembles ∉ tokens path →
      (∃ e, evaluate a path = .error e ∧ evaluate b path = .error e) ∨
      ∃ v w, evaluate a path = .ok v ∧ evaluate b path = .ok w) := by
  refine ⟨fun e ha he => ?_, fun v ha e hb => ?_, fun ht => ?_⟩
  · rcases evaluate_eq_error ha with hp | ⟨hr, -⟩
    · exact (evaluate_of_readPath_error hp b).imp_right fun ⟨f, hb, hf, _⟩ => ⟨f, hb, hf⟩
    · exact absurd hr he
  · obtain ⟨steps, hs, -⟩ := evaluate_eq_ok ha
    rcases evaluate_of_readPath_ok hs b with hok | ⟨f, hf, hr, -⟩
    · rw [hok] at hb
      cases hb
    · rw [hf] at hb
      cases hb
      exact hr
  · rcases hp : readPath path with e | steps
    · left
      exact ⟨e, (evaluate_of_readPath_error hp a).resolve_right fun ⟨_, _, _, h⟩ => ht h,
        (evaluate_of_readPath_error hp b).resolve_right fun ⟨_, _, _, h⟩ => ht h⟩
    · right
      exact ⟨_, _, (evaluate_of_readPath_ok hp a).resolve_right fun ⟨_, _, _, h, _⟩ => ht h,
        (evaluate_of_readPath_ok hp b).resolve_right fun ⟨_, _, _, h, _⟩ => ht h⟩

-- A bracket that is left open is left open on every document.
theorem evaluate_fault_agree_open_bracket :
    evaluate .null "$.a[" = .error (.unterminated .filter 4) ∧
      (evaluate (.arr []) "$.a[" = .error (.unterminated .filter 4) ∨
        ∃ f, evaluate (.arr []) "$.a[" = .error f ∧ f.OnRegex) := by
  have fault : evaluate .null "$.a[" = .error (.unterminated .filter 4) := by
    apply eq_error_of
    decide +kernel
  exact ⟨fault, (evaluate_fault_agree "$.a[" .null (.arr [])).1 _ fault nofun⟩

end Stencil.Path
