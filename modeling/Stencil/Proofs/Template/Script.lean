import Stencil.Proofs.Template.Streaming

/-!
# The script of an expansion

What an expansion does, in order, does not depend on its hooks or on its writer: the scope decides
it together with the template. A script lists the actions, and an expansion performs them up to the
first one that fails. The actions that enter and leave an element only mark where an array template
is repeated for it.
-/

namespace Stencil.Template

inductive Action where
  | boundary (place : Boundary) (kind : Container) (property : Option String) (scope : Scope)
  | name (property : Option String)
  | start (kind : Container)
  | end_ (kind : Container)
  | leaf (property : Option String) (leaf : Json) (scope : Scope)
  | scalar (name : String) (leaf : Json) (scope : Scope)
  /-- A path of an array template is looked up. -/
  | resolve (path : String) (scope : Scope)
  /-- A template is looked up under a name. -/
  | lookup (name : String) (scope : Scope)
  | enter (path : String) (element : Root)
  | leave
  /-- There are no jumps left. -/
  | stuck

section

variable {σ : Type}

def perform (x : Expander σ) : Action → Expansion σ Unit
  | .boundary place kind property scope => x.hooks.boundary place kind property scope
  | .name property => writeName? property
  | .start kind => .write kind.start
  | .end_ kind => .write kind.end_
  | .leaf property leaf scope => writeLeaf x property scope leaf
  | .scalar name leaf scope => writeScalar x name scope leaf
  | .resolve path scope =>
    match scope.resolve path with
    | .error e => .fail (.path e)
    | .ok _ => pure ()
  | .lookup name scope =>
    match namedTemplate? scope name with
    | .error e => .fail e
    | .ok _ => pure ()
  | .enter _ _ => pure ()
  | .leave => pure ()
  | .stuck => .fail .tooDeep

/-- Perform the actions in order, up to the first one that fails. -/
def performAll (x : Expander σ) : List Action → Expansion σ Unit
  | [] => pure ()
  | action :: rest => do
    perform x action
    performAll x rest

end

/-! ## Scripts -/

/-- A container around its contents. -/
def containerScript (kind : Container) (property : Option String) (scope : Scope)
    (contents : List Action) : List Action :=
  .boundary .beforeStart kind property scope :: .name property :: .start kind ::
    .boundary .afterStart kind property scope :: (contents ++
      [.boundary .beforeEnd kind property scope, .end_ kind,
        .boundary .afterEnd kind property scope])

/-- A body for each of the elements that a path has found. -/
def elementsScript (scope : Scope) (path : String) (body : Scope → List Action) :
    List Root → List Action
  | [] => []
  | r :: rest =>
    .enter path r :: (body (elementScope scope r) ++
      .leave :: elementsScript scope path body rest)

/-- A body for each element that the paths find, path by path. -/
def pathsScript (scope : Scope) (body : Scope → List Action) : List String → List Action
  | [] => []
  | path :: rest =>
    .resolve path scope ::
      match scope.resolve path with
      | .error _ => []
      | .ok v => elementsScript scope path body (elements v) ++ pathsScript scope body rest

mutual

/-- What the expansion of a template does, `jumps` named templates deep at most. -/
def script (jumps : Nat) (template : Json) (scope : Scope) (property : Option String) :
    List Action :=
  match template with
  | .obj ms => containerScript .object property scope (membersScript jumps ms scope)
  | .arr items => containerScript .array property scope (itemsScript jumps items scope)
  | leaf => [.leaf property leaf scope]
termination_by (jumps, 2 * sizeOf template)

def membersScript (jumps : Nat) (ms : Json.Members) (scope : Scope) : List Action :=
  match ms with
  | [] => []
  | (name, .obj inner) :: rest =>
    script jumps (.obj inner) scope (some name) ++ membersScript jumps rest scope
  | (name, .arr items) :: rest =>
    script jumps (.arr items) scope (some name) ++ membersScript jumps rest scope
  | (name, leaf) :: rest => .scalar name leaf scope :: membersScript jumps rest scope
termination_by (jumps, 2 * sizeOf ms)

def itemsScript (jumps : Nat) (items : List Json) (scope : Scope) : List Action :=
  match items with
  | [] => []
  | item :: rest => itemScript jumps item scope ++ itemsScript jumps rest scope
termination_by (jumps, 2 * sizeOf items)

/-- An item of an array, or what an array template in its place is repeated to. -/
def itemScript (jumps : Nat) (item : Json) (scope : Scope) : List Action :=
  match item with
  | .obj ms =>
    match _h : arrayTemplate? ms with
    | none => script jumps (.obj ms) scope none
    | some (_, .arr entries) => itemsScript jumps entries scope
    | some (path, .obj inner) =>
      pathsScript scope (fun s => script jumps (.obj inner) s none) (pathTexts path)
    | some (path, .str name) =>
      .lookup name scope ::
        match namedTemplate? scope name with
        | .error _ => []
        | .ok none => []
        | .ok (some named) =>
          match jumps with
          | 0 => [.stuck]
          | jumps + 1 => pathsScript scope (fun s => script jumps named s none) (pathTexts path)
    | some _ => []
  | item => script jumps item scope none
termination_by (jumps, 2 * sizeOf item + 1)
decreasing_by
  · simp [Prod.lex_def]
  · have := sizeOf_arrayTemplate? _h
    simp [Prod.lex_def] at this ⊢
    omega
  · have := sizeOf_arrayTemplate? _h
    simp [Prod.lex_def] at this ⊢
    omega
  · simp [Prod.lex_def]
  · simp [Prod.lex_def]

end

theorem itemScript_obj (jumps : Nat) (ms : Json.Members) (scope : Scope) :
    itemScript jumps (.obj ms) scope =
      match arrayTemplate? ms with
      | none => script jumps (.obj ms) scope none
      | some (_, .arr entries) => itemsScript jumps entries scope
      | some (path, .obj inner) =>
        pathsScript scope (fun s => script jumps (.obj inner) s none) (pathTexts path)
      | some (path, .str name) =>
        .lookup name scope ::
          match namedTemplate? scope name with
          | .error _ => []
          | .ok none => []
          | .ok (some named) =>
            match jumps with
            | 0 => [.stuck]
            | jumps + 1 =>
              pathsScript scope (fun s => script jumps named s none) (pathTexts path)
      | some _ => [] := by
  rw [itemScript]
  split <;> next h => simp only [h]

/-- What the expansion of a template against a parameter does. -/
def expansionScript (template : Json) (ctx : Parameter) : List Action :=
  script maxJumps template ctx.layers none

/-- What the expansion of the template under a name does. -/
def namedScript (name : String) (ctx : Parameter) : List Action :=
  .lookup name ctx.layers ::
    match namedTemplate? ctx.layers name with
    | .ok (some template) => expansionScript template ctx
    | _ => []

/-! ## Expansions perform their scripts -/

section

variable {σ : Type}

theorem Expansion.bind_assoc {α β γ : Type} (x : Expansion σ α) (f : α → Expansion σ β)
    (g : β → Expansion σ γ) : (x >>= f) >>= g = x >>= fun a => f a >>= g := by
  funext w
  simp only [Expansion.bind_apply]
  rcases x w with ⟨_ | _, _⟩ <;> rfl

theorem Expansion.id_map {α : Type} (x : Expansion σ α) : id <$> x = x := by
  funext w
  show (x >>= fun a => pure a) w = x w
  rw [Expansion.bind_apply]
  rcases x w with ⟨_ | _, _⟩ <;> rfl

instance : LawfulMonad (Expansion σ) :=
  .mk' (Expansion σ) Expansion.id_map (fun _ _ => rfl) Expansion.bind_assoc

variable (x : Expander σ) {scope : Scope}

@[simp] theorem performAll_nil : performAll x [] = pure () := rfl

@[simp] theorem performAll_cons (action : Action) (rest : List Action) :
    performAll x (action :: rest) = (perform x action >>= fun _ => performAll x rest) := rfl

@[simp] theorem performAll_append (front back : List Action) :
    performAll x (front ++ back) = (performAll x front >>= fun _ => performAll x back) := by
  induction front with
  | nil => simp
  | cons action front ih => simp [ih]

theorem performAll_singleton (action : Action) : performAll x [action] = perform x action := by
  simp

theorem performAll_container (kind : Container) (property : Option String)
    (contents : List Action) :
    performAll x (containerScript kind property scope contents) =
      container x kind property scope (performAll x contents) := by
  cases kind <;> simp [containerScript, container, perform] <;> rfl

theorem performAll_elements {body : Scope → List Action} {run : Scope → Expansion σ Unit}
    (h : ∀ s, performAll x (body s) = run s) (path : String) (elements : List Root) :
    performAll x (elementsScript scope path body elements) = forElements scope run elements := by
  induction elements with
  | nil => rfl
  | cons r rest ih => simp [elementsScript, forElements, perform, h, ih]

theorem performAll_paths {body : Scope → List Action} {run : Scope → Expansion σ Unit}
    (h : ∀ s, performAll x (body s) = run s) (paths : List String) :
    performAll x (pathsScript scope body paths) = forPaths scope run paths := by
  induction paths with
  | nil => rfl
  | cons path rest ih =>
    rw [pathsScript, forPaths, performAll_cons, perform]
    rcases scope.resolve path with e | v
    · rfl
    · simp [performAll_elements x h, ih]

-- By induction on the jumps that are left and then on the template, as the definitions recurse.
mutual

theorem performAll_script (jumps : Nat) (template : Json) (scope : Scope)
    (property : Option String) :
    performAll x (script jumps template scope property) =
      writeNode x jumps template scope property := by
  match template with
  | .obj ms => rw [script, writeNode, performAll_container, performAll_members]
  | .arr items => rw [script, writeNode, performAll_container, performAll_items]
  | .null | .bool _ | .num _ | .str _ =>
    simp only [script, writeNode]
    exact performAll_singleton x _
termination_by (jumps, 2 * sizeOf template)

theorem performAll_members (jumps : Nat) (ms : Json.Members) (scope : Scope) :
    performAll x (membersScript jumps ms scope) = writeMembers x jumps ms scope := by
  match ms with
  | [] => simp only [membersScript, writeMembers, performAll_nil]
  | (name, .obj _) :: rest | (name, .arr _) :: rest =>
    rw [membersScript, writeMembers, performAll_append, performAll_script, performAll_members]
  | (_, .null) :: rest | (_, .bool _) :: rest | (_, .num _) :: rest | (_, .str _) :: rest =>
    simp only [membersScript, writeMembers, performAll_cons, perform]
    rw [performAll_members]
termination_by (jumps, 2 * sizeOf ms)

theorem performAll_items (jumps : Nat) (items : List Json) (scope : Scope) :
    performAll x (itemsScript jumps items scope) = writeElements x jumps items scope := by
  match items with
  | [] => simp only [itemsScript, writeElements, performAll_nil]
  | item :: rest =>
    rw [itemsScript, writeElements, performAll_append, performAll_item, performAll_items]
termination_by (jumps, 2 * sizeOf items)

theorem performAll_item (jumps : Nat) (item : Json) (scope : Scope) :
    performAll x (itemScript jumps item scope) = writeElement x jumps item scope := by
  match item with
  | .obj ms =>
    rw [itemScript_obj, writeElement_obj]
    rcases ht : arrayTemplate? ms with _ | ⟨path, template⟩
    · exact performAll_script jumps (.obj ms) scope none
    have short := sizeOf_arrayTemplate? ht
    cases template with
    | arr entries => exact performAll_items jumps entries scope
    | obj inner =>
      exact performAll_paths x (fun s => performAll_script jumps (.obj inner) s none) _
    | str name =>
      dsimp only
      rw [performAll_cons, perform]
      rcases namedTemplate? scope name with e | _ | named
      · rfl
      · rfl
      cases jumps with
      | zero => rfl
      | succ jumps => exact performAll_paths x (fun s => performAll_script jumps named s none) _
    | null | bool | num => rfl
  | .arr _ | .null | .bool _ | .num _ | .str _ =>
    simp only [itemScript, writeElement]
    exact performAll_script jumps _ scope none
termination_by (jumps, 2 * sizeOf item + 1)
decreasing_by
  all_goals
    first
    | simp [Prod.lex_def]
      done
    | simp [Prod.lex_def] at short ⊢
      omega

end

theorem performAll_expansionScript (template : Json) (ctx : Parameter) :
    performAll x (expansionScript template ctx) = expand x template ctx :=
  performAll_script x maxJumps template ctx.layers none

/-- Whether there is a template under a name. -/
def hasNamed (name : String) (ctx : Parameter) : Bool :=
  match namedTemplate? ctx.layers name with
  | .ok (some _) => true
  | _ => false

theorem performAll_namedScript (name : String) (ctx : Parameter) :
    (do
      performAll x (namedScript name ctx)
      return hasNamed name ctx) = expandNamed x name ctx := by
  unfold namedScript hasNamed expandNamed
  rw [performAll_cons, perform]
  rcases namedTemplate? ctx.layers name with e | _ | template
  · rfl
  · rfl
  · simp only [pure_bind, performAll_expansionScript]
    rfl

end

end Stencil.Template
