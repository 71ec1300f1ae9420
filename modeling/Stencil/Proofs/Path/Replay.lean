import Stencil.Proofs.Path.Parse
import Stencil.Proofs.Path.Tokens

/-!
# Replaying and running

Evaluating a path reads a stretch of it again for each value. Every such reading comes out as the
one reading into a tree does: it ends behind the same token or fails in the same way, and what it
picks is what the tree says. The one thing that depends on the values is whether a regular
expression is compiled at all, so an expression that cannot be compiled may fail early.
-/

namespace Stencil.Path

open Reader (bind_eq_ok)

/-! ## Mirroring -/

/-- An early failure of an evaluation from `r` on: a `=~` was read, and a tree that reading gives
holds an expression that cannot be compiled. -/
def FailsEarly {β : Type} (r : Reader) (compiles : β → Prop)
    (reading : Except PathError (β × Reader)) (e : PathError) : Prop :=
  (∃ pattern, e = .invalidRegex pattern) ∧ Token.operator .resembles ∈ r.tokens ∧
    ∀ b s, reading = .ok (b, s) → ¬ compiles b

/-- An evaluation from `r` on ends where reading into a tree ends, with what the tree means. -/
def Mirrors {α β : Type} (r : Reader) (compiles : β → Prop) (meaning : β → α)
    (reading : Except PathError (β × Reader)) : Except PathError (α × Reader) → Prop
  | .ok (a, s) => ∃ b, reading = .ok (b, s) ∧ meaning b = a ∧ r.Leads s
  | .error e => reading = .error e ∨ FailsEarly r compiles reading e

variable {α β γ δ : Type} {r : Reader} {compiles : β → Prop} {meaning : β → α}
  {reading : Except PathError (β × Reader)} {x : Except PathError (α × Reader)}

theorem Mirrors.congr {other : β → α} (h : Mirrors r compiles meaning reading x)
    (same : ∀ b s, reading = .ok (b, s) → meaning b = other b) :
    Mirrors r compiles other reading x := by
  cases x with
  | error e => exact h
  | ok p =>
    obtain ⟨b, hb, hm, hl⟩ := h
    exact ⟨b, hb, (same b p.2 hb).symm.trans hm, hl⟩

theorem FailsEarly.leads {e : PathError} {s : Reader} (h : FailsEarly s compiles reading e)
    (hl : r.Leads s) : FailsEarly r compiles reading e :=
  ⟨h.1, hl.1 h.2.1, h.2.2⟩

theorem Mirrors.leads {s : Reader} (h : Mirrors s compiles meaning reading x) (hl : r.Leads s) :
    Mirrors r compiles meaning reading x := by
  cases x with
  | error e => exact h.imp id fun h => h.leads hl
  | ok p =>
    obtain ⟨b, hb, hm, hl'⟩ := h
    exact ⟨b, hb, hm, hl.trans hl'⟩

theorem Mirrors.bind {s : Reader} {compiles' : γ → Prop} {meaning' : γ → δ}
    {f : α × Reader → Except PathError (δ × Reader)}
    {g : β × Reader → Except PathError (γ × Reader)} (hl : r.Leads s)
    (hx : Mirrors s compiles meaning reading x)
    (hf : ∀ b t, reading = .ok (b, t) → s.Leads t →
      Mirrors r compiles' meaning' (g (b, t)) (f (meaning b, t)))
    (hc : ∀ b t c u, reading = .ok (b, t) → g (b, t) = .ok (c, u) → compiles' c → compiles b) :
    Mirrors r compiles' meaning' (reading >>= g) (x >>= f) := by
  cases x with
  | error e =>
    rcases hx with h | ⟨he, ht, hn⟩
    · rw [h]
      exact .inl rfl
    · refine .inr ⟨he, hl.1 ht, fun c u h hcomp => ?_⟩
      obtain ⟨⟨b, t⟩, hb, hg⟩ := bind_eq_ok h
      exact hn b t hb (hc b t c u hb hg hcomp)
  | ok p =>
    obtain ⟨a, t⟩ := p
    obtain ⟨b, hb, rfl, hl'⟩ := hx
    have hbind : (reading >>= g) = g (b, t) := by rw [hb]; rfl
    rw [hbind]
    exact hf b t hb hl'

theorem Mirrors.map_reading {compiles' : γ → Prop} {meaning' : γ → α}
    (h : Mirrors r compiles meaning reading x) (f : β → γ) (hc : ∀ b, compiles' (f b) → compiles b)
    (hm : ∀ b, meaning' (f b) = meaning b) :
    Mirrors r compiles' meaning' (do let (b, s) ← reading; return (f b, s)) x := by
  cases x with
  | error e =>
    rcases h with h | ⟨he, ht, hn⟩
    · rw [h]
      exact .inl rfl
    · refine .inr ⟨he, ht, fun c s h hcomp => ?_⟩
      obtain ⟨⟨b, u⟩, hb, h⟩ := bind_eq_ok h
      cases h
      exact hn b _ hb (hc b hcomp)
  | ok p =>
    obtain ⟨a, s⟩ := p
    obtain ⟨b, hb, rfl, hl⟩ := h
    exact ⟨f b, by rw [hb]; rfl, hm b, hl⟩

/-! ## Several values -/

theorem Mirrors.both {means : β → γ} {y : Except PathError (γ × Reader)}
    (hx : Mirrors r compiles meaning reading x) (hy : Mirrors r compiles means reading y)
    (f : α → γ → δ) :
    Mirrors r compiles (fun b => f (meaning b) (means b)) reading
      (do let (a, _) ← x; let (c, s) ← y; return (f a c, s)) := by
  cases x with
  | error e => exact hx
  | ok p =>
    cases y with
    | error e => exact hy
    | ok q =>
      obtain ⟨b, hb, hm, -⟩ := hx
      obtain ⟨b', hb', hm', hl⟩ := hy
      obtain ⟨rfl, -⟩ : b = b' ∧ _ := by simpa [hb] using hb'
      exact ⟨b, hb', by simp only [hm, hm'], hl⟩

theorem Mirrors.map_result (h : Mirrors r compiles meaning reading x) (f : α → γ) :
    Mirrors r compiles (fun b => f (meaning b)) reading
      (do let (a, s) ← x; return (f a, s)) := by
  cases x with
  | error e => exact h
  | ok p =>
    obtain ⟨b, hb, hm, hl⟩ := h
    exact ⟨b, hb, congrArg f hm, hl⟩

theorem forEach_mirrors {f : Json → Except PathError (α × Reader)} {means : Json → β → α}
    (h : ∀ v, Mirrors r compiles (means v) reading (f v)) (v : Json) (vs : List Json) :
    Mirrors r compiles (fun b => (v :: vs).map fun w => means w b) reading (forEach f v vs) := by
  induction vs generalizing v with
  | nil => exact (h v).map_result fun a => [a]
  | cons w ws ih => exact (h v).both (ih w) List.cons

theorem continue_mirrors {rest : Option Json → Except PathError (Selection × Reader)}
    {means : Option Json → β → Selection}
    (h : ∀ v, Mirrors r compiles (means v) reading (rest v)) (sel : Selection) :
    Mirrors r compiles (fun b => sel.each fun v => means v b) reading (sel.continue rest) := by
  cases sel with
  | undefined => exact h none
  | single v => exact h (some v)
  | multi xs =>
    cases xs with
    | nil => exact (h none).map_result fun _ => Selection.multi []
    | cons x xs =>
      have hx := (forEach_mirrors (fun v => h (some v)) x xs).map_result
        fun found => Selection.multi (found.flatMap Selection.flat)
      refine hx.congr fun b s _ => ?_
      simp only [Selection.each, List.flatMap_map]

/-! ## Walking -/

theorem walk_step {rule : StepRule} {forward : rule.Forward} {r s : Reader}
    (hr : r.read = (.ok true, s)) (hends : ¬ (s.token.map Token.endsOperand).getD false)
    (hopens : (s.token.map Token.opensStep).getD false) (sel : Selection) :
    walk rule forward sel r =
      sel.continue fun v => rule v s >>= fun p => walk rule forward p.1 p.2 := by
  rw [walk_eq, hr]
  dsimp only
  rw [if_neg hends, if_pos hopens]
  congr 1
  funext v
  rcases rule v s with e | ⟨picked, u⟩ <;> rfl

theorem readSteps_step {σ : Type} {step : StepReader σ} {forward : step.Forward} {r s : Reader}
    (hr : r.read = (.ok true, s)) (hends : ¬ (s.token.map Token.endsOperand).getD false)
    (hopens : (s.token.map Token.opensStep).getD false) :
    readSteps step forward r = (do
      let (a, t) ← step s
      let (as, u) ← readSteps step forward t
      return (a :: as, u)) := by
  rw [readSteps_eq, hr]
  dsimp only
  rw [if_neg hends, if_pos hopens]

section

variable {σ : Type} {rule : StepRule} {ruleForward : rule.Forward} {step : StepReader σ}
  {forward : step.Forward} {apply : σ → Option Json → Selection} {compiles' : σ → Prop}

theorem walk_step_mirrors {s : Reader}
    (h : ∀ v, Mirrors s compiles' (fun a => apply a v) (step s) (rule v s))
    (hwalk : ∀ a t, step s = .ok (a, t) → ∀ sel,
      Mirrors t (fun as => ∀ a ∈ as, compiles' a) (fun as => run apply as sel)
        (readSteps step forward t) (walk rule ruleForward sel t)) (sel : Selection) :
    Mirrors s (fun as => ∀ a ∈ as, compiles' a) (fun as => run apply as sel)
      (do
        let (a, t) ← step s
        let (as, u) ← readSteps step forward t
        return (a :: as, u))
      (sel.continue fun v => rule v s >>= fun p => walk rule ruleForward p.1 p.2) := by
  have one (v : Option Json) :
      Mirrors s (fun as => ∀ a ∈ as, compiles' a) (fun as => run apply as (.ofOption v))
        (do
          let (a, t) ← step s
          let (as, u) ← readSteps step forward t
          return (a :: as, u))
        (rule v s >>= fun p => walk rule ruleForward p.1 p.2) := by
    refine (h v).bind (.refl s) (fun a t ht hl => ?_) fun a t as u ht hu hc => ?_
    · exact ((hwalk a t ht (apply a v)).map_reading (a :: ·)
        (fun as hc b hb => hc b (List.mem_cons_of_mem a hb))
        fun as => run_cons_ofOption apply a as v).leads hl
    · obtain ⟨q, -, hq⟩ := bind_eq_ok hu
      cases hq
      exact hc a List.mem_cons_self
  refine (continue_mirrors one sel).congr fun as u hu => ?_
  obtain ⟨⟨a, t⟩, -, hu⟩ := bind_eq_ok hu
  obtain ⟨q, -, hq⟩ := bind_eq_ok hu
  cases hq
  exact each_ofOption _ sel

theorem walk_mirrors (h : ∀ v s, Mirrors s compiles' (fun a => apply a v) (step s) (rule v s))
    (sel : Selection) (r : Reader) :
    Mirrors r (fun as => ∀ a ∈ as, compiles' a) (fun as => run apply as sel)
      (readSteps step forward r) (walk rule ruleForward sel r) := by
  induction hn : r.rest.length using Nat.strongRecOn generalizing sel r with
  | ind n ih =>
    subst hn
    rcases hr : r.read with ⟨e | more, s⟩
    · rw [walk_eq, readSteps_eq, hr]
      exact .inl rfl
    cases more with
    | false =>
      rw [walk_eq, readSteps_eq, hr]
      exact ⟨[], rfl, rfl, Reader.leads_of_read_end hr⟩
    | true =>
      have leads := (Reader.reaches_of_read hr).leads
      by_cases hends : (s.token.map Token.endsOperand).getD false
      · rw [walk_eq, readSteps_eq, hr]
        simp only [hends, if_true]
        exact ⟨[], rfl, rfl, leads⟩
      by_cases hopens : (s.token.map Token.opensStep).getD false
      · rw [walk_step hr hends hopens, readSteps_step hr hends hopens]
        refine (walk_step_mirrors (fun v => h v s) (fun a t ht sel => ?_) sel).leads leads
        have short : t.rest.length < r.rest.length :=
          Nat.lt_of_le_of_lt (forward _ _ _ ht) (Reader.read_lt hr)
        exact ih _ short sel t rfl
      · rw [walk_eq, readSteps_eq, hr]
        dsimp only
        rw [if_neg hends, if_neg hopens, if_neg hends, if_neg hopens]
        exact .inl rfl

end

/-! ## Operands -/

theorem operandStep_mirrors (v : Option Json) (s : Reader) :
    Mirrors s (fun _ => True) (fun sel => sel.apply v) (readSelector s) (operandStep v s) := by
  unfold readSelector operandStep
  rcases hr : readStep s with e | ⟨step, t⟩
  · exact .inl rfl
  cases step with
  | selector sel => exact ⟨sel, rfl, rfl, (readStep_reaches hr).leads⟩
  | expression => exact .inl rfl

theorem operandPath_eq (root : Json) (v : Option Json) (r : Reader) :
    operandPath root v r =
      match r.origin? with
      | none => .error r.unexpected
      | some origin => do
        let (sel, s) ← walk operandStep operandStep_forward (origin.selection root v) r
        return (sel.toOperand, s) := by
  unfold operandPath Reader.origin?
  rcases r.token with _ | t
  · rfl
  cases t
  case root | current =>
    simp only [Origin.selection]
    rcases walk operandStep operandStep_forward _ r with e | ⟨sel, s⟩ <;> rfl
  all_goals rfl

theorem operandPath_mirrors (root : Json) (v : Option Json) (r : Reader) :
    Mirrors r (fun _ => True) (fun p => p.value root v) (readReference r)
      (operandPath root v r) := by
  rw [operandPath_eq]
  unfold readReference
  rcases r.origin? with _ | origin
  · exact .inl rfl
  · exact ((walk_mirrors operandStep_mirrors (origin.selection root v) r).map_result
      Selection.toOperand).map_reading (fun steps => Reference.mk origin steps)
      (fun _ _ _ _ => trivial) fun _ => rfl

theorem nextToken_mirrors {compiles : β → Prop} {meaning : β → α} (b : β) (r : Reader) (t : Token) :
    Mirrors r compiles meaning (do return (b, ← r.nextToken t))
      (do return (meaning b, ← r.nextToken t)) := by
  rcases h : r.nextToken t with e | s
  · exact .inl rfl
  · exact ⟨b, rfl, rfl, (Reader.nextToken_reaches h).leads⟩

theorem closedPath_mirrors (root : Json) (v : Option Json) (r : Reader) :
    Mirrors r Side.Compiles (fun side => side.value root v)
      (do
        let (p, s) ← readReference r
        if s.token = some .endExpression then return (Side.reference p, s) else throw s.unexpected)
      (do
        let (o, s) ← operandPath root v r
        if s.token = some .endExpression then return (o, s) else throw s.unexpected) := by
  refine (operandPath_mirrors root v r).bind (.refl r) (fun p s _ hl => ?_)
    fun _ _ _ _ _ _ _ => trivial
  dsimp only
  by_cases hs : s.token = some .endExpression
  · rw [if_pos hs, if_pos hs]
    exact ⟨.reference p, rfl, rfl, hl⟩
  · rw [if_neg hs, if_neg hs]
    exact .inl rfl

theorem rightOperand_mirrors (root : Json) (v : Option Json) (r : Reader) :
    Mirrors r Side.Compiles (fun side => side.value root v) (readSide r)
      (rightOperand root v r) := by
  unfold readSide rightOperand
  rcases hn : r.next "operand" with e | s
  · exact .inl rfl
  have leads := (Reader.next_reaches hn).leads
  refine Mirrors.leads (s := s) ?_ leads
  rcases ht : s.token with _ | t
  · simp only [ht, bind, Except.bind]
    exact .inl rfl
  cases t
  case root | current =>
    have := closedPath_mirrors root v s
    simpa only [ht, bind, Except.bind] using this
  case number =>
    simp only [ht, bind, Except.bind]
    rcases s.decimal with e | d
    · exact .inl rfl
    · exact nextToken_mirrors (Side.literal (.number d)) s .endExpression
  case string =>
    simp only [ht, bind, Except.bind]
    exact nextToken_mirrors (Side.literal (.string s.text)) s .endExpression
  case regex =>
    simp only [ht, bind, Except.bind]
    exact nextToken_mirrors (Side.literal (.regex s.text)) s .endExpression
  case startList =>
    simp only [ht, bind, Except.bind]
    rcases hl : readList [] [] s with e | ⟨o, u⟩
    · exact .inl rfl
    · exact (nextToken_mirrors (Side.literal o) u .endExpression).leads (readList_reaches hl).leads
  all_goals
    simp only [ht, bind, Except.bind]
    exact .inl rfl

/-! ## Filters -/

theorem toOperand_ne_regex (sel : Selection) (l : String) : sel.toOperand ≠ .regex l := by
  unfold Selection.toOperand
  rcases sel.toJson? with _ | v <;> exact nofun

theorem compare_mirrors {root : Json} {v : Option Json} {r s : Reader} {left : Reference}
    {op : Operator} (right : Side) (hop : Token.operator op ∈ r.tokens) (hl : r.Leads s) :
    Mirrors r Condition.Compiles (fun c => c.holds root v) (.ok (.compare left op right, s))
      (do return (← (left.value root v).compare op (right.value root v), s)) := by
  rcases hc : (left.value root v).compare op (right.value root v) with e | holds
  · obtain ⟨hpattern, rfl, l, hl, hcomp⟩ := compare_eq_error hc
    refine .inr ⟨hpattern, hop, fun c u h => ?_⟩
    cases h
    cases right with
    | reference p => exact absurd hl (toOperand_ne_regex _ l)
    | literal o =>
      cases hl
      exact fun h => Bool.noConfusion (hcomp.symm.trans h)
  · exact ⟨_, rfl, by simp only [Condition.holds, hc]; rfl, hl⟩

theorem expression_mirrors (root : Json) (v : Option Json) (r : Reader) :
    Mirrors r Condition.Compiles (fun c => c.holds root v) (readCondition r)
      (expression root v r) := by
  unfold readCondition expression
  rcases hn : r.next "'@' or '$'" with e | s
  · exact .inl rfl
  have leads := (Reader.next_reaches hn).leads
  refine (operandPath_mirrors root v s).bind leads (fun left u hu hl => ?_)
    fun _ _ _ _ _ _ _ => trivial
  dsimp only
  have leads' := leads.trans hl
  rcases ht : u.token with _ | t
  · exact .inl rfl
  cases t
  case endExpression => exact ⟨.isTruthy left, rfl, rfl, leads'⟩
  case operator op =>
    -- The operator is no token that an operand starts with, so it stands behind that token.
    have hop : Token.operator op ∈ r.tokens := by
      refine leads.1 ((hl.2 _ ht).resolve_left fun hs => ?_)
      unfold readReference Reader.origin? at hu
      rw [hs] at hu
      cases hu
    have compared : Mirrors r Condition.Compiles (fun c => c.holds root v)
        (readSide u >>= fun p => pure (.compare left op p.1, p.2))
        (rightOperand root v u >>= fun p => do
          return (← (left.value root v).compare op p.1, p.2)) := by
      refine (rightOperand_mirrors root v u).bind leads' (fun right t _ hl' => ?_) ?_
      · exact compare_mirrors right hop (leads'.trans hl')
      · intro right t c w _ hw hc
        cases hw
        exact hc
    cases op
    case isEmpty =>
      exact (nextToken_mirrors (Condition.isEmpty left) u .endExpression).leads leads'
    all_goals exact compared
  all_goals exact .inl rfl

theorem kept_map (holds : Json → Bool) (xs : List Json) :
    kept xs (xs.map holds) = xs.filter holds := by
  unfold kept
  induction xs with
  | nil => rfl
  | cons x xs ih =>
    rw [List.map_cons, List.zip_cons_cons, List.filter_cons, List.filter_cons]
    by_cases h : holds x
    · simp only [h, if_true, List.map_cons, ih]
    · simp only [h, Bool.false_eq_true, if_false, ih]

theorem filterExpression_mirrors (root : Json) (v : Option Json) (r : Reader) :
    Mirrors r Condition.Compiles (fun c => c.pick root v) (readCondition r)
      (filterExpression root v r) := by
  have dropped (picked : Selection) :
      Mirrors r Condition.Compiles (fun _ => picked) (readCondition r)
        (expression root none r >>= fun p => pure (picked, p.2)) :=
    (expression_mirrors root none r).map_result fun _ => picked
  rcases v with _ | v
  · exact dropped .undefined
  cases v
  case arr xs =>
    cases xs with
    | nil => exact dropped (.multi [])
    | cons x xs =>
      have each := forEach_mirrors (fun w => expression_mirrors root (some w) r) x xs
      refine (each.map_result fun holds => Selection.multi (kept (x :: xs) holds)).congr
        fun c s _ => ?_
      rw [kept_map]
      rfl
  case obj ms =>
    exact (expression_mirrors root (some (.obj ms)) r).map_result
      fun holds => if holds then Selection.single (.obj ms) else .undefined
  all_goals exact dropped .undefined

theorem pathStep_expression {root : Json} {v : Option Json} {r s : Reader}
    (h : readStep r = .ok (.expression, s)) :
    pathStep root v r = (do
      let (picked, t) ← filterExpression root v s
      return (picked, ← t.nextToken .endFilter)) := by
  unfold pathStep
  rw [h]
  dsimp only
  rcases filterExpression root v s with e | ⟨picked, t⟩
  · rfl
  · dsimp only [bind, Except.bind]
    rcases t.nextToken .endFilter with e | w <;> rfl

theorem pathStep_mirrors (root : Json) (v : Option Json) (r : Reader) :
    Mirrors r PathStep.Compiles (fun s => s.apply root v) (readPathStep r) (pathStep root v r) := by
  rcases hr : readStep r with e | ⟨step, s⟩
  · unfold readPathStep pathStep
    rw [hr]
    exact .inl rfl
  have leads := (readStep_reaches hr).leads
  cases step with
  | selector sel =>
    unfold readPathStep pathStep
    rw [hr]
    exact ⟨.select sel, rfl, rfl, leads⟩
  | expression =>
    rw [pathStep_expression hr]
    unfold readPathStep
    rw [hr]
    refine (filterExpression_mirrors root v s).bind leads (fun c t _ hl => ?_) ?_
    · exact (nextToken_mirrors (PathStep.filter c) t .endFilter).leads (leads.trans hl)
    · intro c t d u _ hd hc
      obtain ⟨w, -, hd⟩ := bind_eq_ok hd
      cases hd
      exact hc

/-! ## Paths -/

theorem mem_tokens {path : String} {r : Reader} {t : Token}
    (hr : (Reader.start path).read = (.ok true, r)) (h : t ∈ r.tokens) : t ∈ tokens path :=
  (Reader.reaches_of_read hr).leads.1 h

/-- Evaluating a path on a document does what reading it once and running its steps does, or fails
early on a regular expression. -/
theorem select_mirrors (root : Json) (path : String) :
    match select root path with
    | .ok sel => ∃ steps, readPath path = .ok steps ∧ pickFrom root steps = sel
    | .error e => readPath path = .error e ∨
        (∃ pattern, e = .invalidRegex pattern) ∧ Token.operator .resembles ∈ tokens path ∧
          ∀ steps, readPath path = .ok steps → ¬ ∀ s ∈ steps, s.Compiles := by
  unfold select readPath
  rcases hr : (Reader.start path).read with ⟨e | more, r⟩
  · exact .inl rfl
  cases more with
  | false => exact .inl rfl
  | true =>
    dsimp only
    by_cases ht : r.token = some .root
    · rw [if_pos ht, if_pos ht]
      have mirrors : Mirrors r (fun steps => ∀ s ∈ steps, s.Compiles) (pickFrom root)
          (readSteps readPathStep readPathStep_forward r)
          (walk (pathStep root) (pathStep_forward root) (.single root) r) :=
        walk_mirrors (pathStep_mirrors root) (.single root) r
      rcases hw : walk (pathStep root) (pathStep_forward root) (.single root) r
        with e | ⟨sel, s⟩ <;> rw [hw] at mirrors
      · rcases mirrors with h | ⟨hpattern, hop, hn⟩
        · exact .inl (by rw [h])
        · refine .inr ⟨hpattern, mem_tokens hr hop, fun steps h => ?_⟩
          split at h
          · cases h
          · next t hs =>
            cases h
            exact hn _ t hs
      · obtain ⟨steps, hs, hm, -⟩ := mirrors
        exact ⟨steps, by rw [hs], hm⟩
    · rw [if_neg ht, if_neg ht]
      exact .inl rfl

end Stencil.Path
