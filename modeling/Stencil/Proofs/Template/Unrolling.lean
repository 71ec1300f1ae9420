import Stencil.Proofs.Template.Script

/-!
# Templates unrolled

With its array templates repeated and its named templates put in, a template is a tree whose leaves
wait for their texts to be rendered. Neither hooks nor writers have a part in that: an expansion
writes the tree, and fails where there is none.
-/

namespace Stencil.Template

/-- What a template comes to before anything is rendered or written. -/
inductive Unrolled where
  | leaf (v : Json) (scope : Scope)
  | object (scope : Scope) (members : List (String × Unrolled))
  | array (scope : Scope) (items : List Unrolled)

/-- The scopes of the elements that the paths find, path by path. -/
def elementScopes? (scope : Scope) (paths : List String) : Option (List Scope) := do
  let vs ← paths.mapM fun path => (scope.resolve path).toOption
  return vs.flatMap fun v => (elements v).map (elementScope scope)

mutual

/-- A template unrolled, `jumps` named templates deep at most, unless something is not found. -/
def unroll? (jumps : Nat) (template : Json) (scope : Scope) : Option Unrolled :=
  match template with
  | .obj ms => (unrollMembers? jumps ms scope).map (.object scope)
  | .arr items => (unrollItems? jumps items scope).map (.array scope)
  | leaf => some (.leaf leaf scope)
termination_by (jumps, 2 * sizeOf template)

def unrollMembers? (jumps : Nat) (ms : Json.Members) (scope : Scope) :
    Option (List (String × Unrolled)) :=
  match ms with
  | [] => some []
  | (name, v) :: rest => do
    let t ← unroll? jumps v scope
    let ts ← unrollMembers? jumps rest scope
    return (name, t) :: ts
termination_by (jumps, 2 * sizeOf ms)

def unrollItems? (jumps : Nat) (items : List Json) (scope : Scope) : Option (List Unrolled) :=
  match items with
  | [] => some []
  | item :: rest => do
    let ts ← unrollItem? jumps item scope
    let us ← unrollItems? jumps rest scope
    return ts ++ us
termination_by (jumps, 2 * sizeOf items)

/-- An item of an array, or what an array template in its place is repeated to. -/
def unrollItem? (jumps : Nat) (item : Json) (scope : Scope) : Option (List Unrolled) :=
  match item with
  | .obj ms =>
    match _h : arrayTemplate? ms with
    | none => (unroll? jumps (.obj ms) scope).map fun t => [t]
    | some (_, .arr entries) => unrollItems? jumps entries scope
    | some (path, .obj inner) => do
      let scopes ← elementScopes? scope (pathTexts path)
      scopes.mapM fun s => unroll? jumps (.obj inner) s
    | some (path, .str name) =>
      match namedTemplate? scope name with
      | .error _ => none
      | .ok none => some []
      | .ok (some named) =>
        match jumps with
        | 0 => none
        | jumps + 1 => do
          let scopes ← elementScopes? scope (pathTexts path)
          scopes.mapM fun s => unroll? jumps named s
    | some _ => some []
  | item => (unroll? jumps item scope).map fun t => [t]
termination_by (jumps, 2 * sizeOf item + 1)
decreasing_by
  · simp [Prod.lex_def]
  · have := sizeOf_arrayTemplate? _h
    simp [Prod.lex_def] at this ⊢
    omega
  · have := sizeOf_arrayTemplate? _h
    simp [Prod.lex_def] at this ⊢
    omega
  · simp [Prod.lex_def]
  · simp [Prod.lex_def]

end

theorem unrollItem?_obj (jumps : Nat) (ms : Json.Members) (scope : Scope) :
    unrollItem? jumps (.obj ms) scope =
      match arrayTemplate? ms with
      | none => (unroll? jumps (.obj ms) scope).map fun t => [t]
      | some (_, .arr entries) => unrollItems? jumps entries scope
      | some (path, .obj inner) => do
        let scopes ← elementScopes? scope (pathTexts path)
        scopes.mapM fun s => unroll? jumps (.obj inner) s
      | some (path, .str name) =>
        match namedTemplate? scope name with
        | .error _ => none
        | .ok none => some []
        | .ok (some named) =>
          match jumps with
          | 0 => none
          | jumps + 1 => do
            let scopes ← elementScopes? scope (pathTexts path)
            scopes.mapM fun s => unroll? jumps named s
      | some _ => some [] := by
  rw [unrollItem?]
  split <;> next h => simp only [h]

/-! ## Writing a tree -/

section

variable {σ : Type}

mutual

/-- Write a tree, under a name if there is one. -/
def Unrolled.write (x : Expander σ) (property : Option String) : Unrolled → Expansion σ Unit
  | .leaf v scope => writeLeaf x property scope v
  | .object scope ms => container x .object property scope (Unrolled.writeMembers x ms)
  | .array scope ts => container x .array property scope (Unrolled.writeItems x ts)

def Unrolled.writeMembers (x : Expander σ) : List (String × Unrolled) → Expansion σ Unit
  | [] => pure ()
  | (name, .leaf v scope) :: rest => do
    writeScalar x name scope v
    Unrolled.writeMembers x rest
  | (name, .object scope ms) :: rest => do
    container x .object (some name) scope (Unrolled.writeMembers x ms)
    Unrolled.writeMembers x rest
  | (name, .array scope ts) :: rest => do
    container x .array (some name) scope (Unrolled.writeItems x ts)
    Unrolled.writeMembers x rest

def Unrolled.writeItems (x : Expander σ) : List Unrolled → Expansion σ Unit
  | [] => pure ()
  | t :: rest => do
    Unrolled.write x none t
    Unrolled.writeItems x rest

end

theorem Unrolled.writeItems_append (x : Expander σ) (ts us : List Unrolled) :
    writeItems x (ts ++ us) = (do writeItems x ts; writeItems x us) := by
  induction ts with
  | nil => simp [writeItems]
  | cons t ts ih => simp [writeItems, ih]

theorem Unrolled.writeItems_singleton (x : Expander σ) (t : Unrolled) :
    writeItems x [t] = t.write x none := by
  simp [writeItems]

/-! ## Expansions write trees -/

/-- The step fails, whatever it works on. -/
def Expansion.Fails {α : Type} (step : Expansion σ α) : Prop := ∀ w, ∃ e, (step w).1 = .error e

/-- The step writes what is there, and fails where nothing is. -/
def Expansion.Writes {α : Type} (step : Expansion σ Unit) (found : Option α)
    (write : α → Expansion σ Unit) : Prop :=
  match found with
  | some a => step = write a
  | none => step.Fails

section

variable {α β γ : Type} {step next : Expansion σ Unit}

theorem Expansion.Fails.front {step : Expansion σ α} (h : step.Fails) (next : α → Expansion σ β) :
    (step >>= next).Fails := by
  intro w
  obtain ⟨e, he⟩ := h w
  rw [Expansion.bind_apply]
  rcases hs : step w with ⟨_ | _, _⟩ <;> rw [hs] at he <;> cases he
  exact ⟨e, rfl⟩

theorem Expansion.Fails.behind {next : α → Expansion σ β} (h : ∀ a, (next a).Fails)
    (step : Expansion σ α) : (step >>= next).Fails := by
  intro w
  rw [Expansion.bind_apply]
  rcases step w with ⟨e | a, w'⟩
  · exact ⟨e, rfl⟩
  · exact h a w'

theorem Expansion.Fails.ne_ok {step : Expansion σ α} (h : step.Fails) (w : Work σ) {a : α} :
    (step w).1 ≠ .ok a := by
  intro hok
  obtain ⟨e, he⟩ := h w
  cases he.symm.trans hok

theorem Expansion.Writes.map {found : Option α} {write : α → Expansion σ Unit}
    {last : β → Expansion σ Unit} {f : α → β} (h : step.Writes found write)
    (hlast : ∀ a, write a = last (f a)) : step.Writes (found.map f) last := by
  cases found with
  | none => exact h
  | some a => exact h.trans (hlast a)

theorem Expansion.Writes.seq {found : Option α} {more : Option β} {write : α → Expansion σ Unit}
    {then_ : β → Expansion σ Unit} {last : γ → Expansion σ Unit} {f : α → β → γ}
    (h : step.Writes found write) (hnext : next.Writes more then_)
    (hlast : ∀ a b, (do write a; then_ b) = last (f a b)) :
    Expansion.Writes (do step; next) (do let a ← found; let b ← more; return f a b) last := by
  cases found with
  | none => exact h.front fun _ => next
  | some a =>
    obtain rfl : step = write a := h
    cases more with
    | none => exact Expansion.Fails.behind (fun _ => hnext) (write a)
    | some b =>
      obtain rfl : next = then_ b := hnext
      exact hlast a b

end

section

variable {x : Expander σ} {scope : Scope}

theorem container_writes {α : Type} {contents : Expansion σ Unit} {found : Option α}
    {write : α → Expansion σ Unit} (h : contents.Writes found write) (kind : Container)
    (property : Option String) :
    (container x kind property scope contents).Writes found
      fun a => container x kind property scope (write a) := by
  cases found with
  | some a => exact congrArg (container x kind property scope) h
  | none =>
    have fails : contents.Fails := h
    cases kind <;>
      exact .behind (fun _ => .behind (fun _ => .behind (fun _ => .behind (fun _ =>
        fails.front _) _) _) _) _

theorem writeScalar_writes {rest : Expansion σ Unit} {found : Option (List (String × Unrolled))}
    (h : rest.Writes found (Unrolled.writeMembers x)) (name : String) (leaf : Json) :
    Expansion.Writes (do writeScalar x name scope leaf; rest)
      (do let ts ← found; return (name, .leaf leaf scope) :: ts) (Unrolled.writeMembers x) := by
  cases found with
  | none => exact .behind (fun _ => h) _
  | some ts => exact congrArg (fun rest => do writeScalar x name scope leaf; rest) h

theorem forElements_writes {body : Scope → Expansion σ Unit} {found : Scope → Option Unrolled}
    (h : ∀ s, (body s).Writes (found s) (Unrolled.write x none)) (rs : List Root) :
    (forElements scope body rs).Writes ((rs.map (elementScope scope)).mapM found)
      (Unrolled.writeItems x) := by
  induction rs with
  | nil => rfl
  | cons r rs ih =>
    rw [forElements, List.map_cons, List.mapM_cons]
    exact (h (elementScope scope r)).seq ih fun t ts => rfl

theorem elementScopes?_cons (path : String) (paths : List String) :
    elementScopes? scope (path :: paths) =
      match scope.resolve path with
      | .error _ => none
      | .ok v => (elementScopes? scope paths).map ((elements v).map (elementScope scope) ++ ·) := by
  unfold elementScopes?
  rw [List.mapM_cons]
  rcases scope.resolve path with e | v
  · rfl
  · rcases paths.mapM fun path => (scope.resolve path).toOption with _ | vs <;> rfl

theorem forPaths_writes {body : Scope → Expansion σ Unit} {found : Scope → Option Unrolled}
    (h : ∀ s, (body s).Writes (found s) (Unrolled.write x none)) (paths : List String) :
    (forPaths scope body paths).Writes
      (elementScopes? scope paths >>= fun scopes => scopes.mapM found)
      (Unrolled.writeItems x) := by
  induction paths with
  | nil => rfl
  | cons path paths ih =>
    unfold forPaths
    rw [elementScopes?_cons]
    rcases scope.resolve path with e | v
    · exact fun w => ⟨_, rfl⟩
    · have here : (forElements scope body (elements v)).Writes
          (((elements v).map (elementScope scope)).mapM found) (Unrolled.writeItems x) :=
        forElements_writes h (elements v)
      have both := here.seq ih fun ts us => (Unrolled.writeItems_append x ts us).symm
      have same : (do
          let scopes ← (elementScopes? scope paths).map
            ((elements v).map (elementScope scope) ++ ·)
          scopes.mapM found) = (do
          let ts ← ((elements v).map (elementScope scope)).mapM found
          let us ← (elementScopes? scope paths >>= fun scopes => scopes.mapM found)
          return ts ++ us) := by
        rcases elementScopes? scope paths with _ | scopes
        · rcases ((elements v).map (elementScope scope)).mapM found with _ | ts <;> rfl
        · exact List.mapM_append
      dsimp only
      rw [same]
      exact both

end

section

variable {x : Expander σ}

-- By induction on the jumps that are left and then on the template, as the definitions recurse.
mutual

theorem writeNode_writes (jumps : Nat) (template : Json) (scope : Scope)
    (property : Option String) :
    (writeNode x jumps template scope property).Writes (unroll? jumps template scope)
      (Unrolled.write x property) := by
  match template with
  | .obj ms =>
    rw [writeNode, unroll?]
    exact (container_writes (writeMembers_writes jumps ms scope) .object property).map
      fun ts => rfl
  | .arr items =>
    rw [writeNode, unroll?]
    exact (container_writes (writeElements_writes jumps items scope) .array property).map
      fun ts => rfl
  | .null | .bool _ | .num _ | .str _ =>
    simp only [writeNode, unroll?]
    rfl
termination_by (jumps, 2 * sizeOf template)

theorem writeMembers_writes (jumps : Nat) (ms : Json.Members) (scope : Scope) :
    (writeMembers x jumps ms scope).Writes (unrollMembers? jumps ms scope)
      (Unrolled.writeMembers x) := by
  match ms with
  | [] =>
    rw [writeMembers, unrollMembers?]
    rfl
  | (name, .obj inner) :: rest =>
    rw [writeMembers, unrollMembers?, writeNode, unroll?]
    simp only [Option.bind_eq_bind, Option.bind_map]
    exact (container_writes (writeMembers_writes jumps inner scope) .object (some name)).seq
      (writeMembers_writes jumps rest scope) fun ts us => rfl
  | (name, .arr items) :: rest =>
    rw [writeMembers, unrollMembers?, writeNode, unroll?]
    simp only [Option.bind_eq_bind, Option.bind_map]
    exact (container_writes (writeElements_writes jumps items scope) .array (some name)).seq
      (writeMembers_writes jumps rest scope) fun ts us => rfl
  | (name, .null) :: rest | (name, .bool _) :: rest | (name, .num _) :: rest
  | (name, .str _) :: rest =>
    simp only [writeMembers, unrollMembers?, unroll?]
    exact writeScalar_writes (writeMembers_writes jumps rest scope) name _
termination_by (jumps, 2 * sizeOf ms)

theorem writeElements_writes (jumps : Nat) (items : List Json) (scope : Scope) :
    (writeElements x jumps items scope).Writes (unrollItems? jumps items scope)
      (Unrolled.writeItems x) := by
  match items with
  | [] =>
    rw [writeElements, unrollItems?]
    rfl
  | item :: rest =>
    rw [writeElements, unrollItems?]
    exact (writeElement_writes jumps item scope).seq (writeElements_writes jumps rest scope)
      fun ts us => (Unrolled.writeItems_append x ts us).symm
termination_by (jumps, 2 * sizeOf items)

theorem writeElement_writes (jumps : Nat) (item : Json) (scope : Scope) :
    (writeElement x jumps item scope).Writes (unrollItem? jumps item scope)
      (Unrolled.writeItems x) := by
  match item with
  | .obj ms =>
    rw [writeElement_obj, unrollItem?_obj]
    rcases ht : arrayTemplate? ms with _ | ⟨path, template⟩
    · exact (writeNode_writes jumps (.obj ms) scope none).map
        fun t => (Unrolled.writeItems_singleton x t).symm
    have short := sizeOf_arrayTemplate? ht
    cases template with
    | arr entries => exact writeElements_writes jumps entries scope
    | obj inner => exact forPaths_writes (fun s => writeNode_writes jumps (.obj inner) s none) _
    | str name =>
      dsimp only
      rcases namedTemplate? scope name with e | _ | named
      · exact fun w => ⟨e, rfl⟩
      · rfl
      cases jumps with
      | zero => exact fun w => ⟨_, rfl⟩
      | succ jumps => exact forPaths_writes (fun s => writeNode_writes jumps named s none) _
    | null | bool | num => rfl
  | .arr _ | .null | .bool _ | .num _ | .str _ =>
    simp only [writeElement, unrollItem?]
    exact (writeNode_writes jumps _ scope none).map
      fun t => (Unrolled.writeItems_singleton x t).symm
termination_by (jumps, 2 * sizeOf item + 1)
decreasing_by
  all_goals
    first
    | simp [Prod.lex_def]
      done
    | simp [Prod.lex_def] at short ⊢
      omega

end

/-- An expansion writes the tree that its template unrolls to, and fails where there is none. -/
theorem expand_unrolled (template : Json) (ctx : Parameter) :
    (expand x template ctx).Writes (unroll? maxJumps template ctx.layers)
      (Unrolled.write x none) :=
  writeNode_writes maxJumps template ctx.layers none

end

end

end Stencil.Template
