import Stencil.Proofs.Path.Tree

/-!
# Reading a path into a tree

The readings of an evaluation without the values: every token is read once, and what it says is
kept.
-/

namespace Stencil.Path

/-! ## Steps -/

/-- How a step is read, the reader behind its first token. -/
abbrev StepReader (σ : Type) := Reader → Except PathError (σ × Reader)

def StepReader.Forward {σ : Type} (step : StepReader σ) : Prop :=
  ∀ r a s, step r = .ok (a, s) → s.rest.length ≤ r.rest.length

/-- The steps from the reader on until the path, or the operand that it is, ends. -/
def readSteps {σ : Type} (step : StepReader σ) (forward : step.Forward) (r : Reader) :
    Except PathError (List σ × Reader) :=
  match _h : r.read with
  | (.error e, _) => .error e
  | (.ok false, s) => .ok ([], s)
  | (.ok true, s) =>
    if (s.token.map Token.endsOperand).getD false then .ok ([], s)
    else if (s.token.map Token.opensStep).getD false then
      match _hs : step s with
      | .error e => .error e
      | .ok (a, t) =>
        match readSteps step forward t with
        | .error e => .error e
        | .ok (as, u) => .ok (a :: as, u)
    else .error s.unexpected
termination_by r.rest.length
decreasing_by
  have := forward _ _ _ _hs
  have := Reader.read_lt _h
  omega

/-- A step without an expression. -/
def readSelector : StepReader Selector := fun r =>
  match readStep r with
  | .error e => .error e
  | .ok (.selector s, r) => .ok (s, r)
  | .ok (.expression, r) => .error r.unexpected

theorem readSelector_forward : readSelector.Forward := by
  intro r a s h
  unfold readSelector at h
  split at h
  · cases h
  · next hr =>
    cases h
    exact Nat.le_of_lt (readStep_lt hr)
  · cases h

theorem readSteps_eq {σ : Type} (step : StepReader σ) (forward : step.Forward) (r : Reader) :
    readSteps step forward r =
      match r.read with
      | (.error e, _) => .error e
      | (.ok false, s) => .ok ([], s)
      | (.ok true, s) =>
        if (s.token.map Token.endsOperand).getD false then .ok ([], s)
        else if (s.token.map Token.opensStep).getD false then do
          let (a, t) ← step s
          let (as, u) ← readSteps step forward t
          return (a :: as, u)
        else .error s.unexpected := by
  rw [readSteps]
  split
  · next h => simp [h]
  · next h => simp [h]
  · next s h =>
    simp only [h]
    split
    · rfl
    · split
      · split
        · next hs =>
          rw [hs]
          rfl
        · next a t hs =>
          rw [hs]
          show _ = (readSteps step forward t >>= fun p => pure (a :: p.1, p.2))
          cases readSteps step forward t <;> rfl
      · rfl

/-! ## Expressions -/

/-- Where the path of an operand starts, the reader behind its first token. -/
def Reader.origin? (r : Reader) : Option Origin :=
  match r.token with
  | some .current => some .current
  | some .root => some .document
  | _ => none

/-- An operand that is a path, the reader behind its first token. -/
def readReference (r : Reader) : Except PathError (Reference × Reader) :=
  match r.origin? with
  | none => .error r.unexpected
  | some origin => do
    let (steps, s) ← readSteps readSelector readSelector_forward r
    return (⟨origin, steps⟩, s)

/-- The right side of an operator and the closing parenthesis behind it. -/
def readSide (r : Reader) : Except PathError (Side × Reader) := do
  let r ← r.next "operand"
  match r.token with
  | some .current | some .root =>
    let (p, r) ← readReference r
    if r.token = some .endExpression then return (.reference p, r) else throw r.unexpected
  | some .number =>
    let d ← r.decimal
    return (.literal (.number d), ← r.nextToken .endExpression)
  | some .string => return (.literal (.string r.text), ← r.nextToken .endExpression)
  | some .regex => return (.literal (.regex r.text), ← r.nextToken .endExpression)
  | some .startList =>
    let (o, r) ← readList [] [] r
    return (.literal o, ← r.nextToken .endExpression)
  | _ => throw r.unexpected

/-- An expression, the reader behind its opening parenthesis. -/
def readCondition (r : Reader) : Except PathError (Condition × Reader) := do
  let r ← r.next "'@' or '$'"
  let (left, r) ← readReference r
  match r.token with
  | some .endExpression => return (.isTruthy left, r)
  | some (.operator .isEmpty) =>
    let r ← r.nextToken .endExpression
    return (.isEmpty left, r)
  | some (.operator op) =>
    let (right, r) ← readSide r
    return (.compare left op right, r)
  | _ => throw r.unexpected

/-! Reading an expression never goes back in the path. -/

theorem readSteps_le {σ : Type} {step : StepReader σ} {forward : step.Forward} {r s : Reader}
    {as : List σ} (h : readSteps step forward r = .ok (as, s)) :
    s.rest.length ≤ r.rest.length := by
  induction hn : r.rest.length using Nat.strongRecOn generalizing r s as with
  | ind n ih =>
    subst hn
    rw [readSteps_eq] at h
    split at h
    · cases h
    · next hr =>
      cases h
      exact Reader.read_end_le hr
    · next t hr =>
      have short := Reader.read_lt hr
      split at h
      · cases h
        exact Nat.le_of_lt short
      · split at h
        · obtain ⟨⟨a, u⟩, hs, h⟩ := Reader.bind_eq_ok h
          obtain ⟨⟨as, v⟩, hrest, h⟩ := Reader.bind_eq_ok h
          cases h
          have := forward _ _ _ hs
          have := ih u.rest.length (by omega) hrest rfl
          omega
        · cases h

theorem readReference_le {r s : Reader} {p : Reference} (h : readReference r = .ok (p, s)) :
    s.rest.length ≤ r.rest.length := by
  unfold readReference at h
  split at h
  · cases h
  · obtain ⟨⟨steps, u⟩, hs, h⟩ := Reader.bind_eq_ok h
    cases h
    exact readSteps_le hs

theorem nextToken_map_le {α : Type} {r s : Reader} {t : Token} {a b : α}
    (h : (do return (a, ← r.nextToken t) : Except PathError (α × Reader)) = .ok (b, s)) :
    s.rest.length ≤ r.rest.length := by
  obtain ⟨u, hu, h⟩ := Reader.bind_eq_ok h
  cases h
  exact Nat.le_of_lt (Reader.nextToken_lt hu)

theorem readSide_le {r s : Reader} {side : Side} (h : readSide r = .ok (side, s)) :
    s.rest.length ≤ r.rest.length := by
  unfold readSide at h
  obtain ⟨a, ha, h⟩ := Reader.bind_eq_ok h
  refine Nat.le_trans ?_ (Nat.le_of_lt (Reader.next_lt ha))
  have path (h : (do
      let (p, r) ← readReference a
      if r.token = some .endExpression then return (Side.reference p, r) else throw r.unexpected) =
        Except.ok (side, s)) : s.rest.length ≤ a.rest.length := by
    obtain ⟨⟨p, u⟩, hp, h⟩ := Reader.bind_eq_ok h
    simp only at h
    split at h
    · cases h
      exact readReference_le hp
    · cases h
  split at h
  · exact path h
  · exact path h
  · obtain ⟨d, -, h⟩ := Reader.bind_eq_ok h
    exact nextToken_map_le h
  · exact nextToken_map_le h
  · exact nextToken_map_le h
  · obtain ⟨⟨o, u⟩, ho, h⟩ := Reader.bind_eq_ok h
    exact Nat.le_trans (nextToken_map_le h) (readList_le ho)
  · cases h

theorem readCondition_le {r s : Reader} {c : Condition} (h : readCondition r = .ok (c, s)) :
    s.rest.length ≤ r.rest.length := by
  unfold readCondition at h
  obtain ⟨a, ha, h⟩ := Reader.bind_eq_ok h
  obtain ⟨⟨left, u⟩, hu, h⟩ := Reader.bind_eq_ok h
  refine Nat.le_trans ?_ (Nat.le_trans (readReference_le hu) (Nat.le_of_lt (Reader.next_lt ha)))
  simp only at h
  split at h
  · cases h
    exact Nat.le_refl _
  · obtain ⟨v, hv, h⟩ := Reader.bind_eq_ok h
    cases h
    exact Nat.le_of_lt (Reader.nextToken_lt hv)
  · obtain ⟨⟨right, v⟩, hv, h⟩ := Reader.bind_eq_ok h
    cases h
    exact readSide_le hv
  · cases h

/-! ## Paths -/

/-- A step of a path. -/
def readPathStep : StepReader PathStep := fun r =>
  match readStep r with
  | .error e => .error e
  | .ok (.selector s, r) => .ok (.select s, r)
  | .ok (.expression, r) => do
    let (c, r) ← readCondition r
    return (.filter c, ← r.nextToken .endFilter)

theorem readPathStep_forward : readPathStep.Forward := by
  intro r a s h
  unfold readPathStep at h
  split at h
  · cases h
  · next hr =>
    cases h
    exact Nat.le_of_lt (readStep_lt hr)
  · next t hr =>
    obtain ⟨⟨c, u⟩, hc, h⟩ := Reader.bind_eq_ok h
    have := readStep_lt hr
    have := readCondition_le hc
    have := nextToken_map_le h
    omega

/-- The steps of a path. -/
def readPath (path : String) : Except PathError (List PathStep) :=
  match (Reader.start path).read with
  | (.error e, _) => .error e
  | (.ok false, _) => .error (.malformed 0 .rootExpected)
  | (.ok true, r) =>
    if r.token = some .root then
      match readSteps readPathStep readPathStep_forward r with
      | .error e => .error e
      | .ok (steps, _) => .ok steps
    else .error (.malformed 0 .rootExpected)

end Stencil.Path
