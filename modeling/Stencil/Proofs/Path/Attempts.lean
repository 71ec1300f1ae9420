import Stencil.Proofs.Path.Replay

/-!
# Running steps that may fail

A path of the grammar fails only on a regular expression that cannot be compiled, and only where it
is looked at. Running the steps with that failure in it says for every document what evaluating the
path comes to, whether or not its regular expressions can be compiled.
-/

namespace Stencil.Path

open Reader (bind_eq_ok)

/-! ## Running with failures -/

/-- Whether an expression holds of a value. It fails where it looks at a regular expression that
cannot be compiled. -/
def Condition.test (root : Json) (v : Option Json) : Condition → Except PathError Bool
  | isTruthy left => .ok (left.value root v).isTruthy
  | isEmpty left => .ok (!(left.value root v).isUndefined && (left.value root v).isEmpty)
  | compare left op right => (left.value root v).compare op (right.value root v)

/-- What a filter picks. Its expression is also tested where there is no value for it. -/
def Condition.attempt (root : Json) (c : Condition) : Option Json → Except PathError Selection
  | some (.arr (x :: xs)) => do
    let holds ← (x :: xs).mapM fun y => c.test root (some y)
    return .multi (kept (x :: xs) holds)
  | some (.arr []) => do
    let _ ← c.test root none
    return .multi []
  | some (.obj ms) => do
    let holds ← c.test root (some (.obj ms))
    return if holds then .single (.obj ms) else .undefined
  | _ => do
    let _ ← c.test root none
    return .undefined

def PathStep.attempt (root : Json) : PathStep → Option Json → Except PathError Selection
  | select s, v => .ok (s.apply v)
  | filter c, v => c.attempt root v

/-- Apply a function to each value of a selection, or once to none where it has no value. -/
def Selection.traverse (f : Option Json → Except PathError Selection) :
    Selection → Except PathError Selection
  | undefined => f none
  | single v => f (some v)
  | multi [] => do
    let _ ← f none
    return multi []
  | multi (x :: xs) => do
    let found ← (x :: xs).mapM fun y => f (some y)
    return multi (found.flatMap flat)

/-- Run steps over a selection. -/
def attempt (root : Json) : List PathStep → Selection → Except PathError Selection
  | [], sel => .ok sel
  | s :: ss, sel => sel.traverse fun v => do attempt root ss (← s.attempt root v)

theorem attempt_select (root : Json) (s : Selector) (ss : List PathStep) (v : Json) :
    attempt root (.select s :: ss) (.single v) = attempt root ss (s.pick v) := rfl

/-! ## Evaluations come to runs -/

variable {α β : Type}

/-- The outcome with the reader behind it. -/
def endsAt (s : Reader) (x : Except PathError α) : Except PathError (α × Reader) := do
  return (← x, s)

theorem endsAt_bind {s t : Reader} {x : Except PathError α} {f : α → Except PathError β}
    {g : α × Reader → Except PathError (β × Reader)} (h : ∀ a, g (a, s) = endsAt t (f a)) :
    endsAt s x >>= g = endsAt t (x >>= f) := by
  cases x with
  | error e => rfl
  | ok a => exact h a

theorem forEach_eq {f : Json → Except PathError (α × Reader)} {g : Json → Except PathError α}
    {s : Reader} (h : ∀ v, f v = endsAt s (g v)) (v : Json) (vs : List Json) :
    forEach f v vs = endsAt s ((v :: vs).mapM g) := by
  induction vs generalizing v with
  | nil =>
    rw [forEach, List.mapM_cons, List.mapM_nil, h]
    exact endsAt_bind fun a => rfl
  | cons w ws ih =>
    rw [forEach, List.mapM_cons, h, ih]
    apply endsAt_bind
    intro a
    apply endsAt_bind
    intro as
    rfl

theorem continue_eq {rest : Option Json → Except PathError (Selection × Reader)}
    {f : Option Json → Except PathError Selection} {s : Reader}
    (h : ∀ v, rest v = endsAt s (f v)) (sel : Selection) :
    sel.continue rest = endsAt s (sel.traverse f) := by
  cases sel with
  | undefined => exact h none
  | single v => exact h (some v)
  | multi xs =>
    cases xs with
    | nil =>
      rw [Selection.continue, h]
      exact endsAt_bind fun a => rfl
    | cons x xs =>
      rw [Selection.continue, forEach_eq fun v => h (some v)]
      exact endsAt_bind fun as => rfl

theorem operandPath_of_read {r s : Reader} {p : Reference} (h : readReference r = .ok (p, s))
    (root : Json) (v : Option Json) : operandPath root v r = .ok (p.value root v, s) := by
  have mirrors := operandPath_mirrors root v r
  rcases ho : operandPath root v r with e | ⟨o, t⟩ <;> rw [ho] at mirrors
  · rcases mirrors with hread | ⟨-, -, hnone⟩
    · rw [h] at hread
      cases hread
    · exact absurd trivial (hnone p s h)
  · obtain ⟨p', hread, rfl, -⟩ := mirrors
    rw [h] at hread
    cases hread
    rfl

theorem rightOperand_of_read {r s : Reader} {side : Side} (h : readSide r = .ok (side, s))
    (root : Json) (v : Option Json) : rightOperand root v r = .ok (side.value root v, s) := by
  unfold readSide at h
  unfold rightOperand
  obtain ⟨u, hu, h⟩ := bind_eq_ok h
  rw [hu]
  dsimp only [bind, Except.bind] at h ⊢
  -- One case for each token that an operand starts with.
  generalize u.token = token at h ⊢
  split at h
  case h_1 | h_2 =>
    obtain ⟨⟨p, t⟩, hp, h⟩ := bind_eq_ok h
    dsimp only at h
    split at h
    · next hclosed =>
      cases h
      simp only [operandPath_of_read hp, hclosed, if_true]
      rfl
    · cases h
  case h_3 =>
    obtain ⟨d, hd, h⟩ := bind_eq_ok h
    obtain ⟨t, hclosed, h⟩ := bind_eq_ok h
    cases h
    simp only [hd, hclosed]
    rfl
  case h_4 | h_5 =>
    obtain ⟨t, hclosed, h⟩ := bind_eq_ok h
    cases h
    simp only [hclosed]
    rfl
  case h_6 =>
    obtain ⟨⟨o, t⟩, hlist, h⟩ := bind_eq_ok h
    obtain ⟨w, hclosed, h⟩ := bind_eq_ok h
    cases h
    simp only [hlist, hclosed]
    rfl
  case h_7 => cases h

theorem expression_of_read {r s : Reader} {c : Condition} (h : readCondition r = .ok (c, s))
    (root : Json) (v : Option Json) : expression root v r = endsAt s (c.test root v) := by
  unfold readCondition at h
  unfold expression
  obtain ⟨t, ht, h⟩ := bind_eq_ok h
  obtain ⟨⟨left, u⟩, hleft, h⟩ := bind_eq_ok h
  have left_eq := operandPath_of_read hleft root v
  simp only [ht, left_eq, bind, Except.bind]
  dsimp only at h
  generalize u.token = token at h ⊢
  split at h
  · cases h
    simp only [Condition.test]
    rfl
  · obtain ⟨w, hw, h⟩ := bind_eq_ok h
    cases h
    simp only [hw]
    rfl
  · obtain ⟨⟨right, w⟩, hright, h⟩ := bind_eq_ok h
    cases h
    have right_eq := rightOperand_of_read hright root v
    simp only [right_eq]
    rfl
  · cases h

theorem filterExpression_of_read {r s : Reader} {c : Condition}
    (h : readCondition r = .ok (c, s)) (root : Json) (v : Option Json) :
    filterExpression root v r = endsAt s (c.attempt root v) := by
  have tested (w : Option Json) : expression root w r = endsAt s (c.test root w) :=
    expression_of_read h root w
  have dropped (picked : Selection) :
      (expression root none r >>= fun p => pure (picked, p.2)) =
        endsAt s (c.test root none >>= fun _ => pure picked) := by
    rw [tested]
    exact endsAt_bind fun holds => rfl
  rcases v with _ | v
  · exact dropped .undefined
  cases v
  case arr xs =>
    cases xs with
    | nil => exact dropped (.multi [])
    | cons x xs =>
      rw [filterExpression, forEach_eq fun y => tested (some y)]
      exact endsAt_bind fun holds => rfl
  case obj ms =>
    rw [filterExpression, tested]
    exact endsAt_bind fun holds => rfl
  all_goals exact dropped .undefined

theorem pathStep_of_read {r s : Reader} {step : PathStep} (h : readPathStep r = .ok (step, s))
    (root : Json) (v : Option Json) : pathStep root v r = endsAt s (step.attempt root v) := by
  unfold readPathStep at h
  split at h
  · cases h
  · next hr =>
    cases h
    unfold pathStep
    rw [hr]
    rfl
  · next t hr =>
    obtain ⟨⟨c, u⟩, hc, h⟩ := bind_eq_ok h
    obtain ⟨w, hw, h⟩ := bind_eq_ok h
    cases h
    rw [pathStep_expression hr, filterExpression_of_read hc, PathStep.attempt]
    cases c.attempt root v with
    | error e => rfl
    | ok sel =>
      show (do return (sel, ← u.nextToken .endFilter)) = _
      rw [hw]
      rfl

theorem walk_of_read {root : Json} {r s : Reader} {steps : List PathStep}
    (h : readSteps readPathStep readPathStep_forward r = .ok (steps, s)) (sel : Selection) :
    walk (pathStep root) (pathStep_forward root) sel r = endsAt s (attempt root steps sel) := by
  -- Every step leaves less to read.
  induction hn : r.rest.length using Nat.strongRecOn generalizing r sel steps with
  | ind n ih =>
    subst hn
    rcases hr : r.read with ⟨e | more, u⟩
    · rw [readSteps_eq, hr] at h
      cases h
    cases more with
    | false =>
      rw [readSteps_eq, hr] at h
      rw [walk_eq, hr]
      cases h
      rfl
    | true =>
      by_cases hends : (u.token.map Token.endsOperand).getD false
      · rw [readSteps_eq, hr] at h
        simp only [hends, if_true] at h
        rw [walk_eq, hr]
        simp only [hends, if_true]
        cases h
        rfl
      by_cases hopens : (u.token.map Token.opensStep).getD false
      · rw [readSteps_step hr hends hopens] at h
        obtain ⟨⟨step, t⟩, hstep, h⟩ := bind_eq_ok h
        obtain ⟨⟨more, w⟩, hmore, h⟩ := bind_eq_ok h
        cases h
        have short : t.rest.length < r.rest.length :=
          Nat.lt_of_le_of_lt (readPathStep_forward _ _ _ hstep) (Reader.read_lt hr)
        rw [walk_step hr hends hopens, attempt]
        refine continue_eq (fun v => ?_) sel
        rw [pathStep_of_read hstep]
        apply endsAt_bind
        intro picked
        exact ih _ short hmore picked rfl
      · rw [readSteps_eq, hr] at h
        dsimp only at h
        rw [if_neg hends, if_neg hopens] at h
        cases h

/-- Evaluating a path on a document comes to what running its steps comes to, failures included. -/
theorem evaluate_eq_attempt {path : String} {steps : List PathStep}
    (h : readPath path = .ok steps) (root : Json) :
    evaluate root path = (attempt root steps (.single root)).map Selection.toJson? := by
  unfold readPath at h
  unfold evaluate select
  rcases hr : (Reader.start path).read with ⟨e | more, r⟩ <;> rw [hr] at h
  · cases h
  cases more with
  | false => cases h
  | true =>
    dsimp only at h ⊢
    split at h
    · next hroot =>
      split at h
      · cases h
      · next s hs =>
        cases h
        rw [if_pos hroot, walk_of_read hs]
        cases attempt root steps (.single root) with
        | error e => rfl
        | ok sel => rfl
    · cases h

end Stencil.Path
