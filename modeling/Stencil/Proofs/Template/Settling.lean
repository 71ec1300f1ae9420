import Stencil.Proofs.Template.Chains
import Stencil.Proofs.Template.Streaming

/-!
# Expansions that settle

With jumps counted, an expansion settles if some number of them is enough and more of them change
nothing. Where no chain of templates goes on for ever, expansions settle.
-/

namespace Stencil.Template

/-! ## Steps that end -/

section

variable {σ α β : Type}

/-- The step never runs out of jumps. -/
def Expansion.Ends (step : Expansion σ α) : Prop := ∀ w, (step w).1 ≠ .error .tooDeep

/-- With enough jumps a step ends, and stays the same with more of them. -/
def Settles (step : Nat → Expansion σ α) : Prop :=
  ∃ n, (step n).Ends ∧ ∀ m, n ≤ m → step m = step n

theorem Expansion.Ends.bind {step : Expansion σ α} {next : α → Expansion σ β} (h : step.Ends)
    (hnext : ∀ a, (next a).Ends) : (step >>= next).Ends := by
  intro w
  have first := h w
  rw [Expansion.bind_apply]
  rcases hs : step w with ⟨e | a, w'⟩
  · rw [hs] at first
    intro he
    apply first
    exact congrArg Except.error (Except.error.inj he)
  · exact hnext a w'

theorem Expansion.Ends.pure (a : α) : (Pure.pure a : Expansion σ α).Ends := by
  intro w h
  cases h

theorem Expansion.Ends.lift {x : Except Error α} (h : x ≠ .error .tooDeep) :
    (Expansion.lift x : Expansion σ α).Ends := fun _ => h

theorem Expansion.Ends.write (call : Writer → Except WriterFault Unit × Writer) :
    (Expansion.write call : Expansion σ Unit).Ends := by
  intro w
  unfold Expansion.write
  rcases call w.writer with ⟨_ | _, _⟩ <;> simp

theorem Expansion.Ends.settles {step : Expansion σ α} (h : step.Ends) : Settles fun _ => step :=
  ⟨0, h, fun _ _ => rfl⟩

theorem Settles.seq {step : Nat → Expansion σ α} {next : Nat → Expansion σ β} (h : Settles step)
    (hnext : Settles next) : Settles fun n => (do let _ ← step n; next n) := by
  obtain ⟨n, ends, same⟩ := h
  obtain ⟨k, ends', same'⟩ := hnext
  have both (m : Nat) (hm : max n k ≤ m) :
      (do let _ ← step m; next m) = (do let _ ← step n; next k) := by
    rw [same m (by omega), same' m (by omega)]
  refine ⟨max n k, ?_, ?_⟩
  · show (do let _ ← step (max n k); next (max n k)).Ends
    rw [both _ (Nat.le_refl _)]
    exact ends.bind fun _ => ends'
  · intro m hm
    exact (both m hm).trans (both _ (Nat.le_refl _)).symm

theorem Settles.jump {step : Nat → Expansion σ Unit} (h : Settles step) :
    Settles fun n => match n with
      | 0 => .fail .tooDeep
      | n + 1 => step n := by
  obtain ⟨n, ends, same⟩ := h
  refine ⟨n + 1, ends, ?_⟩
  intro m hm
  obtain ⟨m, rfl⟩ : ∃ k, m = k + 1 := ⟨m - 1, by omega⟩
  exact same m (by omega)

end

/-! ## Leaves and repeated templates -/

/-- Hooks that never run out of jumps themselves. -/
structure Hooks.End {σ : Type} (hooks : Hooks σ) : Prop where
  boundary : ∀ place kind property scope, (hooks.boundary place kind property scope).Ends
  beforeProperty : ∀ name leaf scope, (hooks.beforeProperty name leaf scope).Ends
  afterProperty : ∀ name leaf scope, (hooks.afterProperty name leaf scope).Ends

-- Each error of a rendering is one of a slot or of a path, or comes from a text that is rendered on
-- the way.
theorem renderFrom_ends (registry : Slot.Registry) (ctx : Parameter) (current : String)
    (l : Slot.Lexer) : Slot.renderFrom registry ctx current l ≠ .error .tooDeep := by
  fun_induction Slot.renderFrom registry ctx current l <;> simp_all

theorem leafValue_ends (registry : Slot.Registry) (scope : Scope) (leaf : Json) :
    leafValue registry scope leaf ≠ .error .tooDeep := by
  have rendered (text : String) := renderFrom_ends registry (.scope scope) "" (.start text)
  unfold leafValue Slot.render
  split
  · next text =>
    have ends := rendered text
    split
    · next he =>
      rw [he] at ends
      intro h
      apply ends
      exact congrArg Except.error (Except.error.inj h)
    · simp
  · simp

section

variable {σ : Type} {x : Expander σ} {scope : Scope}

theorem namedTemplate?_fails {α : Type} {name : String} {e : Error}
    (h : namedTemplate? scope name = .error e) : (.fail e : Expansion σ α).Ends := by
  intro w he
  unfold namedTemplate? at h
  split at h <;> cases h
  cases he

theorem writeName?_ends (property : Option String) :
    (writeName? property : Expansion σ Unit).Ends := by
  cases property with
  | none => exact .pure ()
  | some name => exact .write _

theorem writeLeaf_ends (property : Option String) (leaf : Json) :
    (writeLeaf x property scope leaf).Ends :=
  (writeName?_ends property).bind fun _ =>
    (Expansion.Ends.lift (leafValue_ends x.registry scope leaf)).bind fun _ => .write _

theorem writeScalar_ends (hx : x.hooks.End) (name : String) (leaf : Json) :
    (writeScalar x name scope leaf).Ends := by
  have after : (x.hooks.afterProperty name leaf scope).Ends := hx.afterProperty name leaf scope
  apply (hx.beforeProperty name leaf scope).bind
  intro handled
  cases handled with
  | false => exact (writeLeaf_ends (some name) leaf).bind fun _ => after
  | true => exact after

theorem container_settles (hx : x.hooks.End) (kind : Container) (property : Option String)
    {contents : Nat → Expansion σ Unit} (h : Settles contents) :
    Settles fun n => container x kind property scope (contents n) := by
  have called (place : Boundary) := (hx.boundary place kind property scope).settles
  have named := (writeName?_ends (σ := σ) property).settles
  have started := (Expansion.Ends.write (σ := σ) kind.start).settles
  have ended := (Expansion.Ends.write (σ := σ) kind.end_).settles
  have contained := (called .afterStart).seq (h.seq ((called .beforeEnd).seq
    (ended.seq (called .afterEnd))))
  have whole := (called .beforeStart).seq (named.seq (started.seq contained))
  cases kind <;> exact whole

theorem forElements_settles {body : Nat → Scope → Expansion σ Unit} {elements : List Root}
    (h : ∀ element ∈ elements, Settles fun n => body n (elementScope scope element)) :
    Settles fun n => forElements scope (body n) elements := by
  induction elements with
  | nil => exact (Expansion.Ends.pure ()).settles
  | cons element elements ih =>
    exact (h element (.head _)).seq (ih fun e he => h e (.tail _ he))

theorem forPaths_settles {body : Nat → Scope → Expansion σ Unit} {paths : List String}
    (h : ∀ text ∈ paths, ∀ v, scope.resolve text = .ok v → ∀ element ∈ elements v,
      Settles fun n => body n (elementScope scope element)) :
    Settles fun n => forPaths scope (body n) paths := by
  induction paths with
  | nil => exact (Expansion.Ends.pure ()).settles
  | cons text paths ih =>
    have rest := ih fun t ht => h t (.tail _ ht)
    unfold forPaths
    rcases hv : scope.resolve text with e | v
    · refine Expansion.Ends.settles fun w he => ?_
      cases he
    · exact (forElements_settles (h text (.head _) v hv)).seq rest

end

/-! ## Where no chain goes on for ever, expansions return -/

section

variable {σ : Type} {x : Expander σ} {scope : Scope}

/-- However it is named, the template of a place settles. -/
def Place.Settles (x : Expander σ) (p : Place) : Prop :=
  ∀ property, Template.Settles fun n => writeNode x n p.template p.scope property

theorem writeMembers_settles (hx : x.hooks.End) {ms : Json.Members}
    (h : ∀ name v, (name, v) ∈ ms → Place.Settles x ⟨v, scope⟩) :
    Settles fun n => writeMembers x n ms scope := by
  induction ms with
  | nil =>
    simp only [writeMembers]
    exact (Expansion.Ends.pure ()).settles
  | cons m ms ih =>
    obtain ⟨name, v⟩ := m
    have rest := ih fun name v hv => h name v (.tail _ hv)
    have here := h name v (.head _) (some name)
    cases v with
    | obj | arr =>
      simp only [writeMembers]
      exact here.seq rest
    | null | bool | num | str =>
      simp only [writeMembers]
      exact (writeScalar_ends hx name _).settles.seq rest

-- By induction on the items, those within nested array templates included.
mutual

theorem writeElements_settles {items : List Json}
    (h : ∀ item ∈ items, ∀ p, Needs scope item p → p.Settles x) :
    Settles fun n => writeElements x n items scope := by
  match items with
  | [] =>
    simp only [writeElements]
    exact (Expansion.Ends.pure ()).settles
  | item :: items =>
    simp only [writeElements]
    have here := writeElement_settles (h item (.head _))
    exact here.seq (writeElements_settles fun item hi => h item (.tail _ hi))
termination_by 2 * sizeOf items

theorem writeElement_settles {item : Json} (h : ∀ p, Needs scope item p → p.Settles x) :
    Settles fun n => writeElement x n item scope := by
  match item with
  | .obj ms =>
    simp only [writeElement_obj]
    rcases ht : arrayTemplate? ms with _ | ⟨path, template⟩
    · apply h ⟨.obj ms, scope⟩ (.plain ?_) none
      rintro _ ⟨⟩
      exact ht
    have short := sizeOf_arrayTemplate? ht
    cases template with
    | arr entries =>
      exact writeElements_settles fun entry he p hp => h p (.entry ht he hp)
    | obj inner =>
      apply forPaths_settles
      intro text htext v hv element he
      exact h _ (.object ht ⟨text, htext, v, hv, he⟩) none
    | str name =>
      dsimp only
      rcases hn : namedTemplate? scope name with e | _ | named
      · exact (namedTemplate?_fails hn).settles
      · exact (Expansion.Ends.pure ()).settles
      apply Settles.jump
      apply forPaths_settles
      intro text htext v hv element he
      exact h _ (.named ht hn ⟨text, htext, v, hv, he⟩) none
    | null | bool | num => exact (Expansion.Ends.pure ()).settles
  | .arr _ | .null | .bool _ | .num _ | .str _ =>
    simp only [writeElement]
    exact h _ (.plain nofun) none
termination_by 2 * sizeOf item + 1
decreasing_by
  all_goals
    first
    | simp
      done
    | simp at short ⊢
      omega

end

theorem Place.Finite.settles (hx : x.hooks.End) {p : Place} (h : p.Finite) : p.Settles x := by
  induction h with
  | intro p _ ih =>
    obtain ⟨template, scope⟩ := p
    intro property
    cases template with
    | obj ms =>
      simp only [writeNode]
      apply container_settles hx
      exact writeMembers_settles hx fun name v hv => ih _ (.member hv)
    | arr items =>
      simp only [writeNode]
      apply container_settles hx
      exact writeElements_settles fun item hi p hp => ih p (.item hi hp)
    | null | bool | num | str =>
      simp only [writeNode]
      exact (writeLeaf_ends property _).settles

end

end Stencil.Template
