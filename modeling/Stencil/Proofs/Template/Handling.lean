import Stencil.Proofs.Template.Distinct

/-!
# Members that hooks deal with

Hooks that write nothing may take scalar members upon themselves, by their names. The expansion then
writes what it writes without hooks, but for these members: their leaves are not rendered, and both
of their callbacks are made all the same.
-/

namespace Stencil.Template

/-! ## Trees rendered -/

namespace Unrolled

def isLeaf : Unrolled → Bool
  | leaf _ _ => true
  | object _ _ | array _ _ => false

mutual

/-- The value of a tree, the leaves rendered in order. -/
def render (registry : Slot.Registry) : Unrolled → Except Error Json
  | leaf v scope => leafValue registry scope v
  | object _ ms => do
    let os ← renderMembers registry ms
    return objectOf os
  | array _ ts => do
    let vs ← renderItems registry ts
    return .arr vs

def renderMembers (registry : Slot.Registry) :
    List (String × Unrolled) → Except Error Json.Members
  | [] => .ok []
  | (name, t) :: rest => do
    let o ← render registry t
    let os ← renderMembers registry rest
    return (name, o) :: os

def renderItems (registry : Slot.Registry) : List Unrolled → Except Error (List Json)
  | [] => .ok []
  | t :: rest => do
    let v ← render registry t
    let vs ← renderItems registry rest
    return v :: vs

end

mutual

/-- The tree without the leaves that are members under the names. -/
def without (handled : String → Bool) : Unrolled → Unrolled
  | leaf v scope => leaf v scope
  | object scope ms => object scope (withoutMembers handled ms)
  | array scope ts => array scope (withoutItems handled ts)

def withoutMembers (handled : String → Bool) : List (String × Unrolled) → List (String × Unrolled)
  | [] => []
  | (name, t) :: rest =>
    if handled name && t.isLeaf then withoutMembers handled rest
    else (name, without handled t) :: withoutMembers handled rest

def withoutItems (handled : String → Bool) : List Unrolled → List Unrolled
  | [] => []
  | t :: rest => without handled t :: withoutItems handled rest

end

mutual

/-- The callbacks on the way through a tree, two for each scalar member. -/
def callbacks (depth : Nat) (property : Option String) : Unrolled → List Callback
  | leaf _ _ => []
  | object scope ms => around .object property scope depth (memberCallbacks (depth + 1) ms)
  | array scope ts => around .array property scope depth (itemCallbacks (depth + 1) ts)

def memberCallbacks (depth : Nat) : List (String × Unrolled) → List Callback
  | [] => []
  | (name, leaf v scope) :: rest =>
    .beforeProperty name v scope depth :: .afterProperty name v scope depth ::
      memberCallbacks depth rest
  | (name, object scope ms) :: rest =>
    around .object (some name) scope depth (memberCallbacks (depth + 1) ms) ++
      memberCallbacks depth rest
  | (name, array scope ts) :: rest =>
    around .array (some name) scope depth (itemCallbacks (depth + 1) ts) ++
      memberCallbacks depth rest

def itemCallbacks (depth : Nat) : List Unrolled → List Callback
  | [] => []
  | t :: rest => callbacks depth none t ++ itemCallbacks depth rest

end

end Unrolled

mutual

/-- The value without the scalar members under the names, at any depth. -/
def dropScalars (handled : String → Bool) : Json → Json
  | .arr vs => .arr (dropScalarsItems handled vs)
  | .obj ms => .obj (dropScalarsMembers handled ms)
  | v => v

def dropScalarsItems (handled : String → Bool) : List Json → List Json
  | [] => []
  | v :: vs => dropScalars handled v :: dropScalarsItems handled vs

def dropScalarsMembers (handled : String → Bool) : Json.Members → Json.Members
  | [] => []
  | (name, v) :: ms =>
    if handled name && !isContainer v then dropScalarsMembers handled ms
    else (name, dropScalars handled v) :: dropScalarsMembers handled ms

end

/-! ## Rendering without members -/

section

variable {registry : Slot.Registry} {handled : String → Bool}

theorem Unrolled.renderMembers_names {ms : List (String × Unrolled)} {os : Json.Members}
    (h : renderMembers registry ms = .ok os) : Entries.names os = ms.map Prod.fst := by
  induction ms generalizing os with
  | nil =>
    cases h
    rfl
  | cons m ms ih =>
    obtain ⟨o, -, h⟩ := bind_eq_ok h
    obtain ⟨rest, hrest, h⟩ := bind_eq_ok h
    cases h
    exact congrArg (m.1 :: ·) (ih hrest)

theorem Unrolled.render_isContainer {t : Unrolled} (ht : t.WellFormed) {v : Json}
    (h : t.render registry = .ok v) : isContainer v = !t.isLeaf := by
  cases t with
  | leaf source scope => exact leafValue_isContainer ht h
  | object | array =>
    obtain ⟨parts, -, h⟩ := bind_eq_ok h
    cases h
    rfl

mutual

theorem Unrolled.without_renders (t : Unrolled) {v : Json} (h : t.render registry = .ok v) :
    ∃ v', (t.without handled).render registry = .ok v' := by
  match t with
  | .leaf source scope => exact ⟨v, h⟩
  | .object scope ms =>
    obtain ⟨os, hos, -⟩ := bind_eq_ok h
    obtain ⟨os', hos'⟩ := withoutMembers_renders ms hos
    exact ⟨objectOf os', by rw [without, render, hos']; rfl⟩
  | .array scope ts =>
    obtain ⟨vs, hvs, -⟩ := bind_eq_ok h
    obtain ⟨vs', hvs'⟩ := withoutItems_renders ts hvs
    exact ⟨.arr vs', by rw [without, render, hvs']; rfl⟩

theorem Unrolled.withoutMembers_renders (ms : List (String × Unrolled)) {os : Json.Members}
    (h : renderMembers registry ms = .ok os) :
    ∃ os', renderMembers registry (withoutMembers handled ms) = .ok os' := by
  match ms with
  | [] => exact ⟨os, h⟩
  | (name, t) :: rest =>
    obtain ⟨o, ho, h⟩ := bind_eq_ok h
    obtain ⟨more, hmore, -⟩ := bind_eq_ok h
    obtain ⟨more', hmore'⟩ := withoutMembers_renders rest hmore
    rw [withoutMembers]
    split
    · exact ⟨more', hmore'⟩
    · obtain ⟨o', ho'⟩ := without_renders t ho
      exact ⟨(name, o') :: more', by rw [renderMembers, ho', hmore']; rfl⟩

theorem Unrolled.withoutItems_renders (ts : List Unrolled) {vs : List Json}
    (h : renderItems registry ts = .ok vs) :
    ∃ vs', renderItems registry (withoutItems handled ts) = .ok vs' := by
  match ts with
  | [] => exact ⟨vs, h⟩
  | t :: rest =>
    obtain ⟨v, hv, h⟩ := bind_eq_ok h
    obtain ⟨more, hmore, -⟩ := bind_eq_ok h
    obtain ⟨v', hv'⟩ := without_renders t hv
    obtain ⟨more', hmore'⟩ := withoutItems_renders rest hmore
    exact ⟨v' :: more', by rw [withoutItems, renderItems, hv', hmore']; rfl⟩

end

theorem Unrolled.withoutMembers_names (ms : List (String × Unrolled)) :
    ((withoutMembers handled ms).map Prod.fst).Sublist (ms.map Prod.fst) := by
  induction ms with
  | nil => exact .slnil
  | cons m ms ih =>
    rw [withoutMembers]
    split
    · exact ih.cons m.1
    · exact ih.cons_cons m.1

mutual

theorem Unrolled.render_without (t : Unrolled) (ht : t.WellFormed) {v : Json}
    (h : t.render registry = .ok v) :
    (t.without handled).render registry = .ok (dropScalars handled v) := by
  match t with
  | .leaf source scope =>
    have scalar := leafValue_isContainer ht h
    have same : dropScalars handled v = v := by
      cases v with
      | obj | arr => cases scalar
      | null | bool | num | str => simp only [dropScalars]
    rw [same]
    exact h
  | .object scope ms =>
    obtain ⟨os, hos, h⟩ := bind_eq_ok h
    cases h
    have names := renderMembers_names hos
    have left := renderMembers_without ms ht.2 hos
    have leftNames := renderMembers_names left
    have nodup : (Entries.names os).Nodup := names ▸ ht.1
    have leftNodup : (Entries.names (dropScalarsMembers handled os)).Nodup :=
      leftNames ▸ ht.1.sublist (withoutMembers_names ms)
    rw [without, render, left]
    show Except.ok (objectOf (dropScalarsMembers handled os)) = _
    unfold objectOf
    rw [entries_ofList nodup, entries_ofList leftNodup, dropScalars]
  | .array scope ts =>
    obtain ⟨vs, hvs, h⟩ := bind_eq_ok h
    cases h
    rw [without, render, renderItems_without ts ht hvs, dropScalars]
    rfl

theorem Unrolled.renderMembers_without (ms : List (String × Unrolled))
    (hms : WellFormedMembers ms) {os : Json.Members} (h : renderMembers registry ms = .ok os) :
    renderMembers registry (withoutMembers handled ms) = .ok (dropScalarsMembers handled os) := by
  match ms with
  | [] =>
    cases h
    rw [withoutMembers, dropScalarsMembers]
    rfl
  | (name, t) :: rest =>
    obtain ⟨o, ho, h⟩ := bind_eq_ok h
    obtain ⟨more, hmore, h⟩ := bind_eq_ok h
    cases h
    have left := renderMembers_without rest hms.2 hmore
    rw [withoutMembers, dropScalarsMembers, render_isContainer hms.1 ho, Bool.not_not]
    split
    · exact left
    · rw [renderMembers, render_without t hms.1 ho, left]
      rfl

theorem Unrolled.renderItems_without (ts : List Unrolled) (hts : WellFormedItems ts)
    {vs : List Json} (h : renderItems registry ts = .ok vs) :
    renderItems registry (withoutItems handled ts) = .ok (dropScalarsItems handled vs) := by
  match ts with
  | [] =>
    cases h
    rw [withoutItems, dropScalarsItems]
    rfl
  | t :: rest =>
    obtain ⟨v, hv, h⟩ := bind_eq_ok h
    obtain ⟨more, hmore, h⟩ := bind_eq_ok h
    cases h
    rw [withoutItems, renderItems, render_without t hts.1 hv,
      renderItems_without rest hts.2 hmore, dropScalarsItems]
    rfl

end

end

/-! ## Writing a tree without hooks -/

section

variable {registry : Slot.Registry}

theorem Unrolled.writeMembers_plain (name : String) (t : Unrolled)
    (rest : List (String × Unrolled)) :
    writeMembers ⟨.none, registry⟩ ((name, t) :: rest) = (do
      t.write ⟨.none, registry⟩ (some name)
      writeMembers ⟨.none, registry⟩ rest) := by
  cases t with
  | leaf v scope => rw [writeMembers, writeScalar_plain, write]
  | object | array => rw [writeMembers, write]

mutual

theorem Unrolled.write_runs (t : Unrolled) {property : Option String} {w₀ w : Writer}
    (h : Ready property w₀ w) :
    Runs (t.write ⟨.none, registry⟩ property) w₀ (t.render registry)
      fun v => (w.writeValue v).2 := by
  match t with
  | .leaf v scope =>
    rw [write, render]
    exact writeLeaf_runs h v
  | .object scope ms =>
    rw [write, render]
    refine container_runs h (writeMembers_runs ms) fun os => ?_
    rw [objectOf_eq]
    exact endObject_inObject h.fits _
  | .array scope ts =>
    rw [write, render]
    refine container_runs h (writeItems_runs ts) fun vs => ?_
    rw [List.append_nil]
    have closed := endArray_inArray h.fits vs.reverse
    rw [List.reverse_reverse] at closed
    exact closed

theorem Unrolled.writeMembers_runs (ms : List (String × Unrolled)) {rest : List Frame}
    {root : Option Json} {members : Json.Members} :
    Runs (writeMembers ⟨.none, registry⟩ ms) (inObject rest root members)
      (renderMembers registry ms)
      fun os => inObject rest root (os.foldl (fun es e => Entries.insert es e.1 e.2) members) := by
  match ms with
  | [] => rfl
  | (name, t) :: ms =>
    rw [writeMembers_plain, renderMembers]
    exact (write_runs t (ready_member members name)).seq (fun o => writeMembers_runs ms)
      fun o os => rfl

theorem Unrolled.writeItems_runs (ts : List Unrolled) {rest : List Frame} {root : Option Json}
    {items : List Json} :
    Runs (writeItems ⟨.none, registry⟩ ts) (inArray rest root items) (renderItems registry ts)
      fun vs => inArray rest root (vs.reverse ++ items) := by
  match ts with
  | [] => rfl
  | t :: ts =>
    rw [writeItems, renderItems]
    refine (write_runs t (ready_item items)).seq (fun v => writeItems_runs ts) fun v vs => ?_
    rw [List.reverse_cons, List.append_assoc]
    rfl

end

theorem Unrolled.write_fits {t : Unrolled} {w w' : Work Unit}
    (h : t.write ⟨.none, registry⟩ none w = (.ok (), w')) : w.writer.slotFault? = none := by
  cases t with
  | leaf v scope =>
    rw [write] at h
    exact writeLeaf_fits h
  | object | array =>
    rw [write] at h
    exact container_fits h

theorem Unrolled.write_written {t : Unrolled} {w : Writer} {v : Json}
    (fits : w.slotFault? = none) (hv : t.render registry = .ok v) :
    t.write ⟨.none, registry⟩ none ⟨w, ()⟩ = (.ok (), ⟨(w.writeValue v).2, ()⟩) := by
  have runs : Runs (t.write ⟨.none, registry⟩ none) w (t.render registry) _ :=
    t.write_runs (.unnamed fits)
  unfold Runs at runs
  rw [hv] at runs
  exact runs

theorem Unrolled.write_ok_iff {t : Unrolled} {w : Writer} :
    (t.write ⟨.none, registry⟩ none ⟨w, ()⟩).1 = .ok () ↔
      w.slotFault? = none ∧ ∃ v, t.render registry = .ok v := by
  constructor
  · intro hok
    have fits : w.slotFault? = none := write_fits (Prod.ext hok rfl)
    have runs : Runs (t.write ⟨.none, registry⟩ none) w (t.render registry) _ :=
      t.write_runs (.unnamed fits)
    unfold Runs at runs
    rcases hv : t.render registry with e | v <;> rw [hv] at runs
    · cases hok.symm.trans runs
    · exact ⟨fits, v, rfl⟩
  · rintro ⟨fits, v, hv⟩
    rw [write_written fits hv]

end

/-! ## Hooks that deal with members -/

section

variable {σ τ : Type} {hooks : Hooks σ} {handled : String → Bool} {registry : Slot.Registry}

/-- Hooks that write nothing, do not fail, and deal with the scalar members under the names. -/
structure Hooks.Handle (hooks : Hooks σ) (handled : String → Bool) : Prop where
  boundary : ∀ place kind property scope, Observes (hooks.boundary place kind property scope) ()
  beforeProperty : ∀ name leaf scope,
    Observes (hooks.beforeProperty name leaf scope) (handled name)
  afterProperty : ∀ name leaf scope, Observes (hooks.afterProperty name leaf scope) ()

theorem container_agree {others : Hooks τ}
    (h : ∀ place kind property scope, Agree (hooks.boundary place kind property scope)
      (others.boundary place kind property scope))
    {contents : Expansion σ Unit} {inner : Expansion τ Unit} (hc : Agree contents inner)
    (kind : Container) (property : Option String) (scope : Scope) :
    Agree (container ⟨hooks, registry⟩ kind property scope contents)
      (container ⟨others, registry⟩ kind property scope inner) := by
  have R := agree_congruent (σ := σ) (τ := τ)
  have called (place : Boundary) := h place kind property scope
  cases kind <;>
    exact R.bind (called .beforeStart) fun _ => R.bind (R.writeName? property) fun _ =>
      R.bind (R.write _) fun _ => R.bind (called .afterStart) fun _ => R.bind hc fun _ =>
        R.bind (called .beforeEnd) fun _ => R.bind (R.write _) fun _ => called .afterEnd

theorem Hooks.Handle.boundary_agree (h : hooks.Handle handled) (place : Boundary)
    (kind : Container) (property : Option String) (scope : Scope) :
    Agree (hooks.boundary place kind property scope)
      (Hooks.none.boundary place kind property scope) :=
  (h.boundary place kind property scope).agree
    (Hooks.none_observe.boundary place kind property scope)

theorem writeScalar_handled (h : hooks.Handle handled) {name : String} (hname : handled name = true)
    (scope : Scope) (leaf : Json) :
    Observes (writeScalar ⟨hooks, registry⟩ name scope leaf) () := by
  intro w
  obtain ⟨s, hbefore⟩ := h.beforeProperty name leaf scope w
  obtain ⟨t, hafter⟩ := h.afterProperty name leaf scope ⟨w.writer, s⟩
  refine ⟨t, ?_⟩
  unfold writeScalar
  rw [Expansion.bind_apply, hbefore, hname]
  exact hafter

theorem writeScalar_unhandled (h : hooks.Handle handled) {name : String}
    (hname : handled name = false) (scope : Scope) (leaf : Json) :
    Agree (writeScalar ⟨hooks, registry⟩ name scope leaf)
      (writeScalar ⟨.none, registry⟩ name scope leaf) := by
  have R := agree_congruent (σ := σ) (τ := Unit)
  have before := h.beforeProperty name leaf scope
  rw [hname] at before
  have asked := before.agree (Hooks.none_observe.beforeProperty name leaf scope)
  have after := (h.afterProperty name leaf scope).agree
    (Hooks.none_observe.afterProperty name leaf scope)
  apply R.bind asked
  intro handled
  cases handled with
  | true => exact after
  | false => exact R.bind (R.writeLeaf (some name) scope leaf) fun _ => after

mutual

/-- With hooks that deal with members a tree is written as without hooks the tree without them. -/
theorem Unrolled.write_agree (h : hooks.Handle handled) (t : Unrolled)
    (property : Option String) :
    Agree (t.write ⟨hooks, registry⟩ property)
      ((t.without handled).write ⟨.none, registry⟩ property) := by
  match t with
  | .leaf v scope =>
    rw [without, write, write]
    exact agree_congruent.writeLeaf property scope v
  | .object scope ms =>
    rw [without, write, write]
    exact container_agree h.boundary_agree (writeMembers_agree h ms) .object property scope
  | .array scope ts =>
    rw [without, write, write]
    exact container_agree h.boundary_agree (writeItems_agree h ts) .array property scope

theorem Unrolled.writeMembers_agree (h : hooks.Handle handled) (ms : List (String × Unrolled)) :
    Agree (writeMembers ⟨hooks, registry⟩ ms)
      (writeMembers ⟨.none, registry⟩ (withoutMembers handled ms)) := by
  have R := agree_congruent (σ := σ) (τ := Unit)
  match ms with
  | [] => exact R.pure ()
  | (name, .leaf v scope) :: rest =>
    have more := writeMembers_agree h rest
    rw [withoutMembers, isLeaf, Bool.and_true]
    cases hname : handled name with
    | true =>
      have nothing : Observes (pure () : Expansion Unit Unit) () := fun w => ⟨w.state, rfl⟩
      have passed : Agree (writeScalar ⟨hooks, registry⟩ name scope v) (pure ()) :=
        (writeScalar_handled h hname scope v).agree nothing
      exact R.bind passed fun _ => more
    | false => exact R.bind (writeScalar_unhandled h hname scope v) fun _ => more
  | (name, .object scope ms) :: rest =>
    rw [withoutMembers, isLeaf, Bool.and_false, if_neg nofun, without]
    exact R.bind (container_agree h.boundary_agree (writeMembers_agree h ms) .object (some name)
      scope) fun _ => writeMembers_agree h rest
  | (name, .array scope ts) :: rest =>
    rw [withoutMembers, isLeaf, Bool.and_false, if_neg nofun, without]
    exact R.bind (container_agree h.boundary_agree (writeItems_agree h ts) .array (some name)
      scope) fun _ => writeMembers_agree h rest

theorem Unrolled.writeItems_agree (h : hooks.Handle handled) (ts : List Unrolled) :
    Agree (writeItems ⟨hooks, registry⟩ ts)
      (writeItems ⟨.none, registry⟩ (withoutItems handled ts)) := by
  have R := agree_congruent (σ := σ) (τ := Unit)
  match ts with
  | [] => exact R.pure ()
  | t :: rest => exact R.bind (write_agree h t none) fun _ => writeItems_agree h rest

end

/-! ## The callbacks -/

/-- From a depth the step makes these callbacks if it succeeds, and leads to another depth. -/
def Notes (step : Expansion (Logged σ) Unit) (word : Nat → List Callback) (next : Nat → Nat) :
    Prop :=
  ∀ w w', step w = (.ok (), w') → w'.state.2 = w.state.2 ++ word w.writer.depth ∧
    w'.writer.depth = next w.writer.depth

theorem Notes.seq {step more : Expansion (Logged σ) Unit} {word further : Nat → List Callback}
    {next last : Nat → Nat} (h : Notes step word next) (hmore : Notes more further last) :
    Notes (do step; more) (fun d => word d ++ further (next d)) (fun d => last (next d)) := by
  intro w w' hrun
  obtain ⟨_, v, hfirst, hrest⟩ := Expansion.run_bind hrun
  obtain ⟨hlog, hdepth⟩ := h w v hfirst
  obtain ⟨hlog', hdepth'⟩ := hmore v w' hrest
  rw [hlog', hlog, hdepth', hdepth]
  exact ⟨List.append_assoc .., rfl⟩

theorem report_notes {hook : Expansion σ Unit} (h : Observes hook ()) (callback : Nat → Callback) :
    Notes (report never callback hook) (fun d => [callback d]) id := by
  intro w w' hrun
  obtain ⟨s, hs⟩ := report_run h callback w
  cases hs.symm.trans hrun
  exact ⟨rfl, rfl⟩

theorem writeName?_notes (property : Option String) :
    Notes (writeName? property : Expansion (Logged σ) Unit) (fun _ => []) id := by
  intro w w' hrun
  obtain ⟨hstate, hdepth⟩ := writeName?_run hrun
  exact ⟨by rw [hstate, List.append_nil], hdepth⟩

theorem writeLeaf_notes {x : Expander (Logged σ)} (property : Option String) (scope : Scope)
    (leaf : Json) : Notes (writeLeaf x property scope leaf) (fun _ => []) id := by
  intro w w' hrun
  obtain ⟨hstate, hdepth⟩ := writeLeaf_run hrun
  exact ⟨by rw [hstate, List.append_nil], hdepth⟩

theorem start_notes (kind : Container) :
    Notes (Expansion.write kind.start : Expansion (Logged σ) Unit) (fun _ => []) (· + 1) := by
  intro w w' hrun
  obtain ⟨hcall, hstate⟩ := Expansion.run_write hrun
  exact ⟨by rw [hstate, List.append_nil], Writer.depth_start hcall⟩

theorem end_notes (kind : Container) :
    Notes (Expansion.write kind.end_ : Expansion (Logged σ) Unit) (fun _ => []) (· - 1) := by
  intro w w' hrun
  obtain ⟨hcall, hstate⟩ := Expansion.run_write hrun
  have depth := Writer.depth_end kind w.writer
  rw [hcall] at depth
  exact ⟨by rw [hstate, List.append_nil], depth⟩

theorem container_notes (h : hooks.Handle handled) {contents : Expansion (Logged σ) Unit}
    {inner : Nat → List Callback} (hc : Notes contents inner id) (kind : Container)
    (property : Option String) (scope : Scope) :
    Notes (container ⟨hooks.recording never, registry⟩ kind property scope contents)
      (fun d => around kind property scope d (inner (d + 1))) id := by
  have called (place : Boundary) := report_notes (h.boundary place kind property scope)
    (.boundary place kind property scope)
  have whole := (called .beforeStart).seq ((writeName?_notes property).seq ((start_notes kind).seq
    ((called .afterStart).seq (hc.seq ((called .beforeEnd).seq ((end_notes kind).seq
      (called .afterEnd)))))))
  cases kind <;> exact whole

theorem writeScalar_log (h : hooks.Handle handled) (name : String) (scope : Scope) (leaf : Json) :
    Notes (writeScalar ⟨hooks.recording never, registry⟩ name scope leaf)
      (fun d => [.beforeProperty name leaf scope d, .afterProperty name leaf scope d]) id := by
  intro w w' hrun
  obtain ⟨dealt, asked, hask, hrun⟩ := Expansion.run_bind hrun
  obtain ⟨s, hbefore⟩ := report_run (h.beforeProperty name leaf scope)
    (.beforeProperty name leaf scope) w
  cases hbefore.symm.trans hask
  have after := report_notes (h.afterProperty name leaf scope) (.afterProperty name leaf scope)
  have behind : Notes (do
      if handled name then pure () else
        writeLeaf ⟨hooks.recording never, registry⟩ (some name) scope leaf
      report never (.afterProperty name leaf scope) (hooks.afterProperty name leaf scope))
      (fun d => [.afterProperty name leaf scope d]) id := by
    cases handled name with
    | true => exact after
    | false => exact (writeLeaf_notes (some name) scope leaf).seq after
  obtain ⟨hlog, hdepth⟩ := behind _ w' hrun
  rw [hlog, hdepth]
  exact ⟨List.append_assoc .., rfl⟩

mutual

theorem Unrolled.write_notes (h : hooks.Handle handled) (t : Unrolled)
    (property : Option String) :
    Notes (t.write ⟨hooks.recording never, registry⟩ property)
      (fun d => t.callbacks d property) id := by
  match t with
  | .leaf v scope => exact writeLeaf_notes property scope v
  | .object scope ms => exact container_notes h (writeMembers_notes h ms) .object property scope
  | .array scope ts => exact container_notes h (writeItems_notes h ts) .array property scope

theorem Unrolled.writeMembers_notes (h : hooks.Handle handled) (ms : List (String × Unrolled)) :
    Notes (writeMembers ⟨hooks.recording never, registry⟩ ms) (fun d => memberCallbacks d ms)
      id := by
  match ms with
  | [] =>
    intro w w' hrun
    cases hrun
    exact ⟨(List.append_nil _).symm, rfl⟩
  | (name, .leaf v scope) :: rest =>
    exact (writeScalar_log h name scope v).seq (writeMembers_notes h rest)
  | (name, .object scope ms) :: rest =>
    exact (container_notes h (writeMembers_notes h ms) .object (some name) scope).seq
      (writeMembers_notes h rest)
  | (name, .array scope ts) :: rest =>
    exact (container_notes h (writeItems_notes h ts) .array (some name) scope).seq
      (writeMembers_notes h rest)

theorem Unrolled.writeItems_notes (h : hooks.Handle handled) (ts : List Unrolled) :
    Notes (writeItems ⟨hooks.recording never, registry⟩ ts) (fun d => itemCallbacks d ts) id := by
  match ts with
  | [] =>
    intro w w' hrun
    cases hrun
    exact ⟨(List.append_nil _).symm, rfl⟩
  | t :: rest => exact (write_notes h t none).seq (writeItems_notes h rest)

end

end

theorem expand_notes {σ : Type} {hooks : Hooks σ} {handled : String → Bool}
    (h : hooks.Handle handled) {registry : Slot.Registry} {template : Json} {ctx : Parameter}
    {t : Unrolled} (htree : unroll? maxJumps template ctx.layers = some t) {writer : Writer} {s : σ}
    (hok : (expand ⟨hooks, registry⟩ template ctx ⟨writer, s⟩).1 = .ok ()) :
    expand ⟨hooks.recording never, registry⟩ template ctx ⟨writer, s, []⟩ =
      (.ok (), ⟨(expand ⟨hooks, registry⟩ template ctx ⟨writer, s⟩).2.writer,
        (expand ⟨hooks, registry⟩ template ctx ⟨writer, s⟩).2.state,
        t.callbacks writer.depth none⟩) := by
  have recorded := recorded_congruent.performAll hooks.recorded registry
    (expansionScript template ctx)
  rw [performAll_expansionScript, performAll_expansionScript] at recorded
  have unrolled := expand_unrolled (x := ⟨hooks.recording never, registry⟩) template ctx
  rw [htree] at unrolled
  obtain ⟨log, hlog⟩ := recorded writer s []
  rw [hok, List.nil_append] at hlog
  have notes : Notes (t.write ⟨hooks.recording never, registry⟩ none) _ id := t.write_notes h none
  have noted := (notes _ _ ((congrFun unrolled _).symm.trans hlog)).1
  have whole : log = t.callbacks writer.depth none := noted
  rw [hlog, whole]

/-- Expansions with hooks that deal with members. Where the expansion without hooks succeeds, so
does the one with them, and what it writes is the value without the scalar members under the names.
It succeeds exactly if what is left of the template's tree can be rendered, whatever the leaves come
to that are dealt with, and it makes two callbacks for each of these all the same. -/
theorem expand_handled {σ : Type} {hooks : Hooks σ} {handled : String → Bool}
    (h : hooks.Handle handled) (registry : Slot.Registry) (template : Json) (ctx : Parameter)
    (writer : Writer) (s : σ) :
    let run := expand ⟨hooks, registry⟩ template ctx ⟨writer, s⟩
    let plain := expand ⟨.none, registry⟩ template ctx ⟨writer, ()⟩
    (plain.1 = .ok () → run.1 = .ok ()) ∧
    (plain.1 = .ok () → NamesDiffer template → ctx.NamesDiffer →
      ∃ v, writer.writeValue v = (.ok (), plain.2.writer) ∧
        writer.writeValue (dropScalars handled v) = (.ok (), run.2.writer)) ∧
    (run.1 = .ok () ↔ writer.slotFault? = none ∧ ∃ t v,
      unroll? maxJumps template ctx.layers = some t ∧
        (t.without handled).render registry = .ok v) ∧
    ∀ t, unroll? maxJumps template ctx.layers = some t → run.1 = .ok () →
      (∃ v, (t.without handled).render registry = .ok v ∧
        writer.writeValue v = (.ok (), run.2.writer)) ∧
      expand ⟨hooks.recording never, registry⟩ template ctx ⟨writer, s, []⟩ =
        (.ok (), ⟨run.2.writer, run.2.state, t.callbacks writer.depth none⟩) := by
  intro run plain
  have hplain := expand_unrolled (x := ⟨.none, registry⟩) template ctx
  have hrun := expand_unrolled (x := ⟨hooks, registry⟩) template ctx
  cases htree : unroll? maxJumps template ctx.layers with
  | none =>
    rw [htree] at hplain hrun
    have plainFails : plain.1 ≠ .ok () := Expansion.Fails.ne_ok hplain _
    have runFails : run.1 ≠ .ok () := Expansion.Fails.ne_ok hrun _
    refine ⟨fun hok => absurd hok plainFails, fun hok => absurd hok plainFails,
      ⟨fun hok => absurd hok runFails, ?_⟩, nofun⟩
    rintro ⟨-, t, v, ht, -⟩
    cases ht
  | some t =>
    rw [htree] at hplain hrun
    have plain_eq : plain = t.write ⟨.none, registry⟩ none ⟨writer, ()⟩ := congrFun hplain _
    have run_eq : run = t.write ⟨hooks, registry⟩ none ⟨writer, s⟩ := congrFun hrun _
    have agree : Agree (t.write ⟨hooks, registry⟩ none)
        ((t.without handled).write ⟨.none, registry⟩ none) := t.write_agree h none
    obtain ⟨result, same⟩ := agree writer s ()
    rw [← run_eq] at result same
    have succeeds : run.1 = .ok () ↔ writer.slotFault? = none ∧
        ∃ v, (t.without handled).render registry = .ok v := result ▸ Unrolled.write_ok_iff
    have written {v : Json} (fits : writer.slotFault? = none)
        (hv : (t.without handled).render registry = .ok v) :
        writer.writeValue v = (.ok (), run.2.writer) := by
      rw [same, Unrolled.write_written fits hv]
      exact writeValue_fits fits v
    rw [plain_eq, Unrolled.write_ok_iff]
    refine ⟨?_, ?_, ?_, ?_⟩
    · rintro ⟨fits, v, hv⟩
      exact succeeds.2 ⟨fits, t.without_renders hv⟩
    · rintro ⟨fits, v, hv⟩ htemplate hctx
      refine ⟨v, ?_, written fits (t.render_without ?_ hv)⟩
      · rw [Unrolled.write_written fits hv]
        exact writeValue_fits fits v
      · exact unroll?_wellFormed htemplate hctx.layers htree
    · rw [succeeds]
      constructor
      · rintro ⟨fits, v, hv⟩
        exact ⟨fits, t, v, rfl, hv⟩
      · rintro ⟨fits, _, v, ⟨⟩, hv⟩
        exact ⟨fits, v, hv⟩
    · rintro _ ⟨⟩ hok
      obtain ⟨fits, v, hv⟩ := succeeds.1 hok
      exact ⟨⟨v, hv, written fits hv⟩, expand_notes h htree hok⟩

/-- Hooks that deal with the scalar members of one name and count them. -/
def redacting (redacted : String) : Hooks Nat where
  boundary _ _ _ _ := pure ()
  beforeProperty name _ _ := pure (name == redacted)
  afterProperty name _ _ := fun w =>
    (.ok (), if name = redacted then { w with state := w.state + 1 } else w)

theorem redacting_handle (redacted : String) : (redacting redacted).Handle (· == redacted) where
  boundary _ _ _ _ := fun w => ⟨w.state, rfl⟩
  beforeProperty _ _ _ := fun w => ⟨w.state, rfl⟩
  afterProperty name _ _ := fun w => by
    by_cases hn : name = redacted
    · exact ⟨w.state + 1, by simp only [redacting, if_pos hn]⟩
    · exact ⟨w.state, by simp only [redacting, if_neg hn]⟩

/-- A key at the top, one in an item of a list, and one that is an object. -/
def keyed : Json :=
  .obj [("key", .bool true),
    ("list", .arr [.obj [("key", .null), ("id", .bool false)], .obj [("key", .obj [])]])]

/-- A key that cannot be rendered. -/
def broken : Json := .obj [("key", .str "\x7bx"), ("id", .null)]

/-- What is left without the scalars. -/
def unkeyed : Json :=
  .obj [("list", .arr [.obj [("id", .bool false)], .obj [("key", .obj [])]])]

theorem expand_handled_key :
    let run (template : Json) :=
      expand ⟨redacting "key", .builtin⟩ template (.store .empty) ⟨.empty, 0⟩
    let plain (template : Json) :=
      expand ⟨.none, .builtin⟩ template (.store .empty) ⟨.empty, ()⟩
    (redacting "key").Handle (· == "key") ∧
    (NamesDiffer keyed ∧ (Parameter.store .empty).NamesDiffer ∧
      (plain keyed).1 = .ok () ∧ (plain keyed).2.writer = ⟨[], some keyed⟩ ∧
      (run keyed).1 = .ok () ∧ (run keyed).2 = ⟨⟨[], some unkeyed⟩, 2⟩) ∧
    (plain broken).1 ≠ .ok () ∧ (run broken).1 = .ok () := by
  intro run plain
  have handle := redacting_handle "key"
  have unrolled : unroll? maxJumps broken [.store .empty] =
      some (.object [.store .empty] [("key", .leaf (.str "\x7bx") [.store .empty]),
        ("id", .leaf .null [.store .empty])]) := by
    simp only [broken, unroll?, unrollMembers?]
    rfl
  refine ⟨handle, ?_, ?_, ?_⟩
  · have ran : plain keyed = (.ok (), ⟨⟨[], some keyed⟩, ()⟩) := by
      simp only [plain, expand, keyed, writeNode, writeMembers, writeElements, writeElement]
      rfl
    have met : (run keyed).2.state = 2 := by
      simp only [run, expand, keyed, writeNode, writeMembers, writeElements, writeElement]
      rfl
    have differ : NamesDiffer keyed := by
      simp [keyed, NamesDiffer, NamesDifferMembers, NamesDifferItems, Entries.names]
    have empty : (Parameter.store .empty).NamesDiffer :=
      .store fun _ he => absurd he List.not_mem_nil
    have left : dropScalars (· == "key") keyed = unkeyed := rfl
    obtain ⟨succeeds, removes, -⟩ :=
      expand_handled handle .builtin keyed (.store .empty) .empty 0
    have plainOk : (plain keyed).1 = .ok () := congrArg Prod.fst ran
    obtain ⟨v, hv, hleft⟩ := removes plainOk differ empty
    obtain rfl : v = keyed := by
      have wrote := hv.trans (congrArg (fun w => (Except.ok (), w.2.writer)) ran)
      cases wrote
      rfl
    rw [left] at hleft
    have wrote : (run keyed).2.writer = ⟨[], some unkeyed⟩ := (congrArg Prod.snd hleft).symm
    refine ⟨differ, empty, plainOk, congrArg (·.2.writer) ran, succeeds plainOk, ?_⟩
    rw [← wrote, ← met]
  · intro hok
    have fails : (leafValue .builtin [.store .empty] (.str "\x7bx")).toOption = none :=
      Option.isNone_iff_eq_none.1 (by decide +kernel)
    have alone : Hooks.none.Handle fun _ => false :=
      ⟨Hooks.none_observe.boundary, Hooks.none_observe.beforeProperty,
        Hooks.none_observe.afterProperty⟩
    obtain ⟨-, t, v, ht, hv⟩ :=
      (expand_handled alone .builtin broken (.store .empty) .empty ()).2.2.1.1 hok
    cases unrolled.symm.trans ht
    obtain ⟨os, hos, -⟩ := bind_eq_ok hv
    obtain ⟨key, hkey, -⟩ := bind_eq_ok hos
    rw [show leafValue .builtin [.store .empty] (.str "\x7bx") = .ok key from hkey] at fails
    cases fails
  · exact (expand_handled handle .builtin broken (.store .empty) .empty 0).2.2.1.2
      ⟨rfl, _, .obj [("id", .null)], unrolled, rfl⟩

end Stencil.Template
