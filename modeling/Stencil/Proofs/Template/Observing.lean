import Stencil.Proofs.Template.Script

/-!
# Hooks that look on

Hooks that write nothing, never fail and leave every member to the expansion do not change what it
does. A recorder notes each callback with the depth of the writer, and can be told to fail at one of
them: then the expansion stops there. All of this is first said of single steps, and carries over to
scripts since they only put steps together.
-/

namespace Stencil.Template

variable {σ τ α β : Type}

/-! ## Related steps -/

/-- A relation between steps with different hooks that the steps of an expansion keep. -/
structure Congruent (R : (α : Type) → Expansion σ α → Expansion τ α → Prop) : Prop where
  pure : ∀ {α : Type} (a : α), R α (pure a) (pure a)
  lift : ∀ {α : Type} (x : Except Error α), R α (.lift x) (.lift x)
  write : ∀ call, R Unit (.write call) (.write call)
  bind : ∀ {α β : Type} {f : Expansion σ α} {g : Expansion τ α} {k : α → Expansion σ β}
    {l : α → Expansion τ β}, R α f g → (∀ a, R β (k a) (l a)) → R β (f >>= k) (g >>= l)

structure Hooks.Related (R : (α : Type) → Expansion σ α → Expansion τ α → Prop) (hooks : Hooks σ)
    (others : Hooks τ) : Prop where
  boundary : ∀ place kind property scope,
    R Unit (hooks.boundary place kind property scope) (others.boundary place kind property scope)
  beforeProperty : ∀ name leaf scope,
    R Bool (hooks.beforeProperty name leaf scope) (others.beforeProperty name leaf scope)
  afterProperty : ∀ name leaf scope,
    R Unit (hooks.afterProperty name leaf scope) (others.afterProperty name leaf scope)

section

variable {R : (α : Type) → Expansion σ α → Expansion τ α → Prop} {hooks : Hooks σ}
  {others : Hooks τ} {registry : Slot.Registry}

theorem Congruent.writeName? (hR : Congruent R) (property : Option String) :
    R Unit (Template.writeName? property) (Template.writeName? property) := by
  cases property with
  | none => exact hR.pure ()
  | some name => exact hR.write (·.writeName name)

theorem Congruent.writeLeaf (hR : Congruent R) (property : Option String) (scope : Scope)
    (leaf : Json) :
    R Unit (Template.writeLeaf ⟨hooks, registry⟩ property scope leaf)
      (Template.writeLeaf ⟨others, registry⟩ property scope leaf) := by
  apply hR.bind (hR.writeName? property)
  intro _
  apply hR.bind (hR.lift _)
  intro v
  exact hR.write _

theorem Congruent.writeScalar (hR : Congruent R) (h : hooks.Related R others) (name : String)
    (scope : Scope) (leaf : Json) :
    R Unit (Template.writeScalar ⟨hooks, registry⟩ name scope leaf)
      (Template.writeScalar ⟨others, registry⟩ name scope leaf) := by
  have after := h.afterProperty name leaf scope
  apply hR.bind (h.beforeProperty name leaf scope)
  intro handled
  cases handled with
  | true => exact after
  | false => exact hR.bind (hR.writeLeaf (some name) scope leaf) fun _ => after

theorem Congruent.perform (hR : Congruent R) (h : hooks.Related R others) (action : Action) :
    R Unit (Template.perform ⟨hooks, registry⟩ action)
      (Template.perform ⟨others, registry⟩ action) := by
  cases action with
  | boundary place kind property scope => exact h.boundary place kind property scope
  | name property => exact hR.writeName? property
  | start kind => exact hR.write _
  | end_ kind => exact hR.write _
  | leaf property leaf scope => exact hR.writeLeaf property scope leaf
  | scalar name leaf scope => exact hR.writeScalar h name scope leaf
  | resolve path scope =>
    simp only [Template.perform]
    rcases scope.resolve path with e | v
    · exact hR.lift (.error _)
    · exact hR.pure ()
  | lookup name scope =>
    simp only [Template.perform]
    rcases namedTemplate? scope name with e | v
    · exact hR.lift (.error _)
    · exact hR.pure ()
  | enter path element => exact hR.pure ()
  | leave => exact hR.pure ()
  | stuck => exact hR.lift (.error _)

theorem Congruent.performAll (hR : Congruent R) (h : hooks.Related R others)
    (registry : Slot.Registry) (actions : List Action) :
    R Unit (Template.performAll ⟨hooks, registry⟩ actions)
      (Template.performAll ⟨others, registry⟩ actions) := by
  induction actions with
  | nil => exact hR.pure ()
  | cons action rest ih => exact hR.bind (hR.perform h action) fun _ => ih

end

/-! ## The same result -/

/-- A step that gives a value and leaves the writer alone. -/
def Observes (step : Expansion σ α) (a : α) : Prop := ∀ w, ∃ s, step w = (.ok a, ⟨w.writer, s⟩)

structure Hooks.Observe (hooks : Hooks σ) : Prop where
  boundary : ∀ place kind property scope, Observes (hooks.boundary place kind property scope) ()
  beforeProperty : ∀ name leaf scope, Observes (hooks.beforeProperty name leaf scope) false
  afterProperty : ∀ name leaf scope, Observes (hooks.afterProperty name leaf scope) ()

theorem Hooks.none_observe : Hooks.none.Observe where
  boundary _ _ _ _ := fun _ => ⟨(), rfl⟩
  beforeProperty _ _ _ := fun _ => ⟨(), rfl⟩
  afterProperty _ _ _ := fun _ => ⟨(), rfl⟩

/-- With the same writer two steps have the same result and leave the same writer, whatever their
hooks remember. -/
def Agree (f : Expansion σ α) (g : Expansion τ α) : Prop :=
  ∀ writer s t, (f ⟨writer, s⟩).1 = (g ⟨writer, t⟩).1 ∧
    (f ⟨writer, s⟩).2.writer = (g ⟨writer, t⟩).2.writer

theorem agree_congruent : Congruent fun α => Agree (σ := σ) (τ := τ) (α := α) where
  pure _ := fun _ _ _ => ⟨rfl, rfl⟩
  lift _ := fun _ _ _ => ⟨rfl, rfl⟩
  write call := by
    intro writer s t
    unfold Expansion.write
    dsimp only
    rcases call writer with ⟨_ | _, _⟩ <;> exact ⟨rfl, rfl⟩
  bind {_ _ f g _ _} h hnext := by
    intro writer s t
    obtain ⟨hresult, hwriter⟩ := h writer s t
    rw [Expansion.bind_apply, Expansion.bind_apply]
    rcases hf : f ⟨writer, s⟩ with ⟨e | a, v, s'⟩ <;>
      rcases hg : g ⟨writer, t⟩ with ⟨e' | b, u, t'⟩ <;>
      rw [hf, hg] at hresult hwriter <;> cases hresult <;> cases hwriter
    · exact ⟨rfl, rfl⟩
    · exact hnext a v s' t'

theorem Observes.agree {f : Expansion σ α} {g : Expansion τ α} {a : α} (hf : Observes f a)
    (hg : Observes g a) : Agree f g := by
  intro writer s t
  obtain ⟨s', hs⟩ := hf ⟨writer, s⟩
  obtain ⟨t', ht⟩ := hg ⟨writer, t⟩
  rw [hs, ht]
  exact ⟨rfl, rfl⟩

theorem Hooks.Observe.agree {hooks : Hooks σ} {others : Hooks τ} (h : hooks.Observe)
    (ho : others.Observe) : hooks.Related (fun _ => Agree) others where
  boundary place kind property scope :=
    (h.boundary place kind property scope).agree (ho.boundary place kind property scope)
  beforeProperty name leaf scope :=
    (h.beforeProperty name leaf scope).agree (ho.beforeProperty name leaf scope)
  afterProperty name leaf scope :=
    (h.afterProperty name leaf scope).agree (ho.afterProperty name leaf scope)

/-! ## The recorder -/

/-- What a hook is called with, and how many containers are open when it is. -/
inductive Callback where
  | boundary (place : Boundary) (kind : Container) (property : Option String) (scope : Scope)
      (depth : Nat)
  | beforeProperty (name : String) (leaf : Json) (scope : Scope) (depth : Nat)
  | afterProperty (name : String) (leaf : Json) (scope : Scope) (depth : Nat)

/-- Hooks that keep a log beside their own state. -/
abbrev Logged (σ : Type) := σ × List Callback

/-- Note a callback, then fail or do what the hook does. -/
def report (fault? : Nat → Option Error) (callback : Nat → Callback) (hook : Expansion σ α) :
    Expansion (Logged σ) α := fun w =>
  let log := w.state.2 ++ [callback w.writer.depth]
  match fault? log.length with
  | some e => (.error e, ⟨w.writer, w.state.1, log⟩)
  | none =>
    let (result, after) := hook ⟨w.writer, w.state.1⟩
    (result, ⟨after.writer, after.state, log⟩)

/-- The hooks with a log of their callbacks, the n-th of which fails where `fault? n` says so. -/
def Hooks.recording (hooks : Hooks σ) (fault? : Nat → Option Error) : Hooks (Logged σ) where
  boundary place kind property scope :=
    report fault? (.boundary place kind property scope) (hooks.boundary place kind property scope)
  beforeProperty name leaf scope :=
    report fault? (.beforeProperty name leaf scope) (hooks.beforeProperty name leaf scope)
  afterProperty name leaf scope :=
    report fault? (.afterProperty name leaf scope) (hooks.afterProperty name leaf scope)

/-- No callback fails. -/
def never : Nat → Option Error := fun _ => none

/-- The k-th callback fails. -/
def failingAt (k : Nat) (e : Error) : Nat → Option Error := fun n => if n = k then some e else none

/-! ## Recording changes nothing -/

/-- The second step does what the first one does, and adds callbacks to the log. -/
def Recorded (f : Expansion σ α) (g : Expansion (Logged σ) α) : Prop :=
  ∀ writer s log, ∃ more,
    g ⟨writer, s, log⟩ =
      ((f ⟨writer, s⟩).1, ⟨(f ⟨writer, s⟩).2.writer, (f ⟨writer, s⟩).2.state, log ++ more⟩)

theorem recorded_congruent : Congruent fun α => Recorded (σ := σ) (α := α) where
  pure _ := fun _ _ log => ⟨[], by rw [List.append_nil]; rfl⟩
  lift _ := fun _ _ log => ⟨[], by rw [List.append_nil]; rfl⟩
  write call := by
    intro writer s log
    refine ⟨[], ?_⟩
    rw [List.append_nil]
    unfold Expansion.write
    dsimp only
    rcases call writer with ⟨_ | _, _⟩ <;> rfl
  bind {_ _ f _ _ _} h hnext := by
    intro writer s log
    obtain ⟨more, hg⟩ := h writer s log
    rw [Expansion.bind_apply, Expansion.bind_apply, hg]
    rcases f ⟨writer, s⟩ with ⟨e | a, v, s'⟩
    · exact ⟨more, rfl⟩
    · obtain ⟨further, hl⟩ := hnext a v s' (log ++ more)
      refine ⟨more ++ further, ?_⟩
      rw [← List.append_assoc]
      exact hl

theorem report_recorded (callback : Nat → Callback) (hook : Expansion σ α) :
    Recorded hook (report never callback hook) :=
  fun writer _ _ => ⟨[callback writer.depth], rfl⟩

theorem Hooks.recorded (hooks : Hooks σ) :
    hooks.Related (fun _ => Recorded) (hooks.recording never) where
  boundary _ _ _ _ := report_recorded _ _
  beforeProperty _ _ _ := report_recorded _ _
  afterProperty _ _ _ := report_recorded _ _

/-! ## A callback that fails -/

/-- The second step does what the first one does up to the k-th callback and fails there. -/
structure Cut (k : Nat) (e : Error) (f g : Expansion (Logged σ) α) : Prop where
  grows : ∀ w, w.state.2 <+: (f w).2.state.2
  before : ∀ w, (f w).2.state.2.length < k → g w = f w
  fails : ∀ w, w.state.2.length < k → k ≤ (f w).2.state.2.length →
    ∃ after, g w = (.error e, after) ∧ after.state.2 = (f w).2.state.2.take k

theorem Cut.of_same {k : Nat} {e : Error} {f : Expansion (Logged σ) α}
    (h : ∀ w, (f w).2.state.2 = w.state.2) : Cut k e f f where
  grows w := by simp [h w]
  before _ _ := rfl
  fails w hlt hle := by
    rw [h w] at hle
    omega

theorem take_of_isPrefix {γ : Type} {front whole : List γ} {k : Nat} (h : front <+: whole)
    (hk : k ≤ front.length) : whole.take k = front.take k := by
  obtain ⟨back, rfl⟩ := h
  rw [List.take_append_of_le_length hk]

theorem Cut.bind {k : Nat} {e : Error} {f g : Expansion (Logged σ) α}
    {next cut : α → Expansion (Logged σ) β} (h : Cut k e f g)
    (hnext : ∀ a, Cut k e (next a) (cut a)) :
    Cut k e (f >>= next) (g >>= cut) where
  grows w := by
    have first := h.grows w
    rw [Expansion.bind_apply]
    rcases hf : f w with ⟨e' | a, w'⟩ <;> rw [hf] at first
    · exact first
    · exact first.trans ((hnext a).grows w')
  before w hlt := by
    have first := h.before w
    rw [Expansion.bind_apply] at hlt
    rw [Expansion.bind_apply, Expansion.bind_apply]
    rcases hf : f w with ⟨e' | a, w'⟩ <;> rw [hf] at hlt first
    · rw [first hlt]
    · have further := ((hnext a).grows w').length_le
      rw [first (Nat.lt_of_le_of_lt further hlt)]
      exact (hnext a).before w' hlt
  fails w hlt hle := by
    have first := h.before w
    have stops := h.fails w hlt
    rw [Expansion.bind_apply] at hle
    rw [Expansion.bind_apply, Expansion.bind_apply]
    rcases hf : f w with ⟨e' | a, w'⟩ <;> rw [hf] at hle first stops
    · obtain ⟨after, hg, hlog⟩ := stops hle
      rw [hg]
      exact ⟨after, rfl, hlog⟩
    · by_cases hk : w'.state.2.length < k
      · rw [first hk]
        exact (hnext a).fails w' hk hle
      · obtain ⟨after, hg, hlog⟩ := stops (Nat.le_of_not_lt hk)
        rw [hg]
        refine ⟨after, rfl, hlog.trans ?_⟩
        exact (take_of_isPrefix ((hnext a).grows w') (Nat.le_of_not_lt hk)).symm

theorem cut_congruent (k : Nat) (e : Error) : Congruent fun α => Cut (σ := σ) (α := α) k e where
  pure _ := .of_same fun _ => rfl
  lift _ := .of_same fun _ => rfl
  write call := by
    apply Cut.of_same
    intro w
    unfold Expansion.write
    rcases call w.writer with ⟨_ | _, _⟩ <;> rfl
  bind := Cut.bind

theorem report_cut (k : Nat) (e : Error) (callback : Nat → Callback) (hook : Expansion σ α) :
    Cut k e (report never callback hook) (report (failingAt k e) callback hook) where
  grows w := ⟨[callback w.writer.depth], rfl⟩
  before w hlt := by
    have hlog : (w.state.2 ++ [callback w.writer.depth]).length < k := hlt
    simp only [report, failingAt, never, if_neg (Nat.ne_of_lt hlog)]
  fails w hlt hle := by
    have hlog : k ≤ (w.state.2 ++ [callback w.writer.depth]).length := hle
    have hk : (w.state.2 ++ [callback w.writer.depth]).length = k := by
      simp only [List.length_append, List.length_singleton] at hlog ⊢
      omega
    refine ⟨⟨w.writer, w.state.1, w.state.2 ++ [callback w.writer.depth]⟩, ?_, ?_⟩
    · simp only [report, failingAt, if_pos hk]
    · exact (List.take_of_length_le (Nat.le_of_eq hk)).symm

theorem Hooks.cut (hooks : Hooks σ) (k : Nat) (e : Error) :
    (hooks.recording never).Related (fun _ => Cut k e) (hooks.recording (failingAt k e)) where
  boundary _ _ _ _ := report_cut k e _ _
  beforeProperty _ _ _ := report_cut k e _ _
  afterProperty _ _ _ := report_cut k e _ _

end Stencil.Template
