import Stencil.Proofs.Template.Chains
import Stencil.Proofs.Template.Script

/-!
# Scopes of array templates

Wherever an expansion uses a scope, it is the one it was started with, or the layers below its
object scope and the element that was entered last and not left yet. So no other element can be
seen, and the scope is one layer longer at most.
-/

namespace Stencil.Template

/-- The scope in which an action works. -/
def Action.scope? : Action → Option Scope
  | .boundary _ _ _ scope | .leaf _ _ scope | .scalar _ _ scope | .resolve _ scope
  | .lookup _ scope => some scope
  | .name _ | .start _ | .end_ _ | .enter _ _ | .leave | .stuck => none

/-- Whether the action only marks where an element begins or ends. -/
def Action.isMark : Action → Bool
  | .enter _ _ | .leave => true
  | _ => false

/-- The elements that are entered and not left, the innermost first, behind an action. -/
def Action.follow (entered : List Root) : Action → List Root
  | .enter _ element => element :: entered
  | .leave => entered.tail
  | _ => entered

def enteredAfter (entered : List Root) (actions : List Action) : List Root :=
  actions.foldl Action.follow entered

/-- The scope while elements are entered. -/
def inForce (ctx : Scope) : List Root → Scope
  | [] => ctx
  | element :: _ => ctx.base.push (.roots [element])

/-- What an action keeps to while elements are entered. -/
structure Disciplined (ctx : Scope) (entered : List Root) (action : Action) : Prop where
  scope : ∀ scope, action.scope? = some scope → scope = inForce ctx entered
  /-- Only an element that the path finds from here is entered. -/
  enters : ∀ path element, action = .enter path element →
    ∃ v, (inForce ctx entered).resolve path = .ok v ∧ element ∈ elements v
  leaves : action = .leave → entered ≠ []

/-- Every action keeps to what was entered in front of it. -/
def AllDisciplined (ctx : Scope) (entered : List Root) : List Action → Prop
  | [] => True
  | action :: rest =>
    Disciplined ctx entered action ∧ AllDisciplined ctx (action.follow entered) rest

section

variable {ctx : Scope} {entered : List Root}

theorem length_base_le (s : Scope) : s.base.length ≤ s.length := by
  unfold Scope.base
  split
  · split <;> simp
  · simp

theorem length_inForce_le : (inForce ctx entered).length ≤ ctx.length + 1 := by
  have := length_base_le ctx
  cases entered with
  | nil => simp [inForce]
  | cons element rest =>
    simp only [inForce, Scope.push, List.length_append, List.length_singleton]
    omega

theorem elementScope_inForce (element : Root) :
    elementScope (inForce ctx entered) element = inForce ctx (element :: entered) := by
  cases entered with
  | nil => rfl
  | cons outer rest =>
    have below : (elementScope ctx outer).base = ctx.base := base_elementScope ctx outer
    simp only [elementScope, inForce] at below ⊢
    rw [below]

theorem allDisciplined_append {front back : List Action} :
    AllDisciplined ctx entered (front ++ back) ↔
      AllDisciplined ctx entered front ∧ AllDisciplined ctx (enteredAfter entered front) back := by
  induction front generalizing entered with
  | nil => simp [AllDisciplined, enteredAfter]
  | cons action front ih => simp [AllDisciplined, enteredAfter, ih, and_assoc]

theorem AllDisciplined.action {before after : List Action} {action : Action}
    (h : AllDisciplined ctx entered (before ++ action :: after)) :
    Disciplined ctx (enteredAfter entered before) action :=
  (allDisciplined_append.1 h).2.1

/-! ## Parts of scripts -/

/-- The actions are disciplined, and what they enter they leave. -/
structure Keeps (ctx : Scope) (entered : List Root) (actions : List Action) : Prop where
  all : AllDisciplined ctx entered actions
  balanced : enteredAfter entered actions = entered

theorem Keeps.nil : Keeps ctx entered [] := ⟨trivial, rfl⟩

theorem Keeps.append {front back : List Action} (hfront : Keeps ctx entered front)
    (hback : Keeps ctx entered back) : Keeps ctx entered (front ++ back) := by
  constructor
  · rw [allDisciplined_append, hfront.balanced]
    exact ⟨hfront.all, hback.all⟩
  · have front := hfront.balanced
    have back := hback.balanced
    unfold enteredAfter at front back ⊢
    rw [List.foldl_append, front, back]

theorem Keeps.cons {action : Action} {rest : List Action} (hmark : action.isMark = false)
    (hscope : ∀ scope, action.scope? = some scope → scope = inForce ctx entered)
    (h : Keeps ctx entered rest) : Keeps ctx entered (action :: rest) := by
  have same : action.follow entered = entered := by
    cases action <;> first | rfl | cases hmark
  have here : Disciplined ctx entered action := by
    refine ⟨hscope, ?_, ?_⟩
    · rintro path element rfl
      cases hmark
    · rintro rfl
      cases hmark
  constructor
  · refine ⟨here, ?_⟩
    rw [same]
    exact h.all
  · have balanced := h.balanced
    unfold enteredAfter at balanced ⊢
    rw [List.foldl_cons, same, balanced]

theorem Keeps.within {action : Action} {rest : List Action} {scope : Scope}
    (h : action.scope? = some scope) (hscope : scope = inForce ctx entered)
    (hrest : Keeps ctx entered rest) : Keeps ctx entered (action :: rest) := by
  apply Keeps.cons _ _ hrest
  · cases action <;> first | rfl | cases h
  · intro s hs
    cases h.symm.trans hs
    exact hscope

theorem Keeps.without {action : Action} {rest : List Action} (h : action.scope? = none)
    (hmark : action.isMark = false) (hrest : Keeps ctx entered rest) :
    Keeps ctx entered (action :: rest) := by
  apply Keeps.cons hmark _ hrest
  intro s hs
  cases h.symm.trans hs

theorem Keeps.around {path : String} {element : Root} {v : Value} {body rest : List Action}
    (hv : (inForce ctx entered).resolve path = .ok v) (he : element ∈ elements v)
    (hbody : Keeps ctx (element :: entered) body) (hrest : Keeps ctx entered rest) :
    Keeps ctx entered (.enter path element :: (body ++ .leave :: rest)) := by
  have entering : Disciplined ctx entered (.enter path element) := by
    refine ⟨nofun, ?_, nofun⟩
    rintro _ _ ⟨⟩
    exact ⟨v, hv, he⟩
  have leaving : Disciplined ctx (element :: entered) .leave :=
    ⟨nofun, nofun, fun _ => List.cons_ne_nil element entered⟩
  constructor
  · refine ⟨entering, ?_⟩
    show AllDisciplined ctx (element :: entered) (body ++ .leave :: rest)
    rw [allDisciplined_append, hbody.balanced]
    exact ⟨hbody.all, leaving, hrest.all⟩
  · have inner := hbody.balanced
    have outer := hrest.balanced
    unfold enteredAfter at inner outer ⊢
    rw [List.foldl_cons, List.foldl_append]
    show (.leave :: rest).foldl Action.follow (body.foldl Action.follow (element :: entered)) = _
    rw [inner]
    exact outer

theorem Keeps.container {scope : Scope} {contents : List Action}
    (hscope : scope = inForce ctx entered) (kind : Container) (property : Option String)
    (h : Keeps ctx entered contents) :
    Keeps ctx entered (containerScript kind property scope contents) := by
  have ending : Keeps ctx entered [.boundary .beforeEnd kind property scope, .end_ kind,
      .boundary .afterEnd kind property scope] :=
    .within rfl hscope (.without rfl rfl (.within rfl hscope .nil))
  apply Keeps.within rfl hscope
  apply Keeps.without rfl rfl
  apply Keeps.without rfl rfl
  exact .within rfl hscope (h.append ending)

theorem Keeps.elements {scope : Scope} {body : Scope → List Action} {path : String} {v : Value}
    (hscope : scope = inForce ctx entered) (hv : scope.resolve path = .ok v)
    (h : ∀ element, Keeps ctx (element :: entered) (body (elementScope scope element)))
    {found : List Root} (hfound : ∀ element ∈ found, element ∈ elements v) :
    Keeps ctx entered (elementsScript scope path body found) := by
  subst hscope
  induction found with
  | nil => exact .nil
  | cons element found ih =>
    simp only [List.forall_mem_cons] at hfound
    exact .around hv hfound.1 (h element) (ih hfound.2)

theorem Keeps.paths {scope : Scope} {body : Scope → List Action}
    (hscope : scope = inForce ctx entered)
    (h : ∀ element, Keeps ctx (element :: entered) (body (elementScope scope element)))
    (paths : List String) : Keeps ctx entered (pathsScript scope body paths) := by
  induction paths with
  | nil => exact .nil
  | cons path paths ih =>
    rw [pathsScript]
    apply Keeps.within rfl hscope
    rcases hv : scope.resolve path with e | v
    · exact .nil
    · exact (Keeps.elements hscope hv h fun _ he => he).append ih

end

-- By induction on the jumps that are left and then on the template, as the definitions recurse.
-- What carries it is that the scope of a part is the one in force where the part begins.
mutual

theorem script_keeps {ctx : Scope} {entered : List Root} {scope : Scope} (jumps : Nat)
    (template : Json) (property : Option String) (hscope : scope = inForce ctx entered) :
    Keeps ctx entered (script jumps template scope property) := by
  match template with
  | .obj ms =>
    rw [script]
    exact .container hscope .object property (membersScript_keeps jumps ms hscope)
  | .arr items =>
    rw [script]
    exact .container hscope .array property (itemsScript_keeps jumps items hscope)
  | .null | .bool _ | .num _ | .str _ =>
    simp only [script]
    exact .within rfl hscope .nil
termination_by (jumps, 2 * sizeOf template)

theorem membersScript_keeps {ctx : Scope} {entered : List Root} {scope : Scope} (jumps : Nat)
    (ms : Json.Members) (hscope : scope = inForce ctx entered) :
    Keeps ctx entered (membersScript jumps ms scope) := by
  match ms with
  | [] =>
    rw [membersScript]
    exact .nil
  | (name, .obj inner) :: rest =>
    rw [membersScript]
    exact (script_keeps jumps (.obj inner) (some name) hscope).append
      (membersScript_keeps jumps rest hscope)
  | (name, .arr items) :: rest =>
    rw [membersScript]
    exact (script_keeps jumps (.arr items) (some name) hscope).append
      (membersScript_keeps jumps rest hscope)
  | (_, .null) :: rest | (_, .bool _) :: rest | (_, .num _) :: rest | (_, .str _) :: rest =>
    simp only [membersScript]
    exact .within rfl hscope (membersScript_keeps jumps rest hscope)
termination_by (jumps, 2 * sizeOf ms)

theorem itemsScript_keeps {ctx : Scope} {entered : List Root} {scope : Scope} (jumps : Nat)
    (items : List Json) (hscope : scope = inForce ctx entered) :
    Keeps ctx entered (itemsScript jumps items scope) := by
  match items with
  | [] =>
    rw [itemsScript]
    exact .nil
  | item :: rest =>
    rw [itemsScript]
    exact (itemScript_keeps jumps item hscope).append (itemsScript_keeps jumps rest hscope)
termination_by (jumps, 2 * sizeOf items)

theorem itemScript_keeps {ctx : Scope} {entered : List Root} {scope : Scope} (jumps : Nat)
    (item : Json) (hscope : scope = inForce ctx entered) :
    Keeps ctx entered (itemScript jumps item scope) := by
  have inner (element : Root) : elementScope scope element = inForce ctx (element :: entered) := by
    rw [hscope, elementScope_inForce]
  match item with
  | .obj ms =>
    rw [itemScript_obj]
    rcases ht : arrayTemplate? ms with _ | ⟨path, template⟩
    · exact script_keeps jumps (.obj ms) none hscope
    have short := sizeOf_arrayTemplate? ht
    cases template with
    | arr entries => exact itemsScript_keeps jumps entries hscope
    | obj body =>
      exact .paths hscope (fun element => script_keeps jumps (.obj body) none (inner element)) _
    | str name =>
      dsimp only
      apply Keeps.within rfl hscope
      rcases namedTemplate? scope name with e | _ | named
      · exact .nil
      · exact .nil
      cases jumps with
      | zero => exact .without rfl rfl .nil
      | succ jumps =>
        exact .paths hscope (fun element => script_keeps jumps named none (inner element)) _
    | null | bool | num => exact .nil
  | .arr _ | .null | .bool _ | .num _ | .str _ =>
    simp only [itemScript]
    exact script_keeps jumps _ none hscope
termination_by (jumps, 2 * sizeOf item + 1)
decreasing_by
  all_goals
    first
    | simp [Prod.lex_def]
      done
    | simp [Prod.lex_def] at short ⊢
      omega

end

theorem expansionScript_keeps (template : Json) (ctx : Parameter) :
    Keeps ctx.layers [] (expansionScript template ctx) :=
  script_keeps maxJumps template none rfl

theorem namedScript_keeps (name : String) (ctx : Parameter) :
    Keeps ctx.layers [] (namedScript name ctx) := by
  unfold namedScript
  apply Keeps.within rfl rfl
  rcases namedTemplate? ctx.layers name with e | _ | template
  · exact .nil
  · exact .nil
  · exact expansionScript_keeps template ctx

/-- An expansion performs its script, whatever the hooks are, and at each action of the script the
scope is the one in force: that of the context, or its base with the one element that was entered
last. -/
theorem expand_scopes (ctx : Parameter) :
    (∀ (σ : Type) (x : Expander σ) (template : Json),
      expand x template ctx = performAll x (expansionScript template ctx)) ∧
    (∀ (σ : Type) (x : Expander σ) (name : String),
      expandNamed x name ctx = do
        performAll x (namedScript name ctx)
        return hasNamed name ctx) ∧
    ∀ actions : List Action,
      (∃ template, actions = expansionScript template ctx) ∨
        (∃ name, actions = namedScript name ctx) →
      enteredAfter [] actions = [] ∧
      ∀ before action after, actions = before ++ action :: after →
        Disciplined ctx.layers (enteredAfter [] before) action ∧
        ∀ scope, action.scope? = some scope → scope.length ≤ ctx.layers.length + 1 := by
  refine ⟨fun σ x template => (performAll_expansionScript x template ctx).symm,
    fun σ x name => (performAll_namedScript x name ctx).symm, ?_⟩
  intro actions hactions
  have keeps : Keeps ctx.layers [] actions := by
    rcases hactions with ⟨template, rfl⟩ | ⟨name, rfl⟩
    · exact expansionScript_keeps template ctx
    · exact namedScript_keeps name ctx
  refine ⟨keeps.balanced, ?_⟩
  rintro before action after rfl
  have disciplined := keeps.all.action
  refine ⟨disciplined, fun scope hscope => ?_⟩
  rw [disciplined.scope scope hscope]
  exact length_inForce_le

/-- An array template that is repeated for the items, with one scalar member. -/
def rows : Json :=
  .arr [.obj [("path", .str "items"), ("template", .obj [("v", .str "x")])]]

/-- Two items, below a bare object scope. -/
def rowsContext : Parameter :=
  .scope [.store (Store.empty.add "items" (.json (.arr [.null, .bool true]))), .roots [.json .null]]

-- The member of the second row sees neither the object scope nor the first item.
theorem expand_scopes_second_row : ∃ before after,
    expansionScript rows rowsContext = before ++
      .scalar "v" (.str "x") (rowsContext.layers.base.push (.roots [.json (.bool true)])) :: after ∧
    enteredAfter [] before = [.json (.bool true)] ∧
    Disciplined rowsContext.layers [.json (.bool true)]
      (.scalar "v" (.str "x") (rowsContext.layers.base.push (.roots [.json (.bool true)]))) := by
  have repeats : arrayTemplate? [("path", .str "items"), ("template", .obj [("v", .str "x")])] =
      some (.str "items", .obj [("v", .str "x")]) := rfl
  have found : rowsContext.layers.resolve "items" = .ok (.json (.arr [.null, .bool true])) := rfl
  have whole : expansionScript rows rowsContext =
      containerScript .array none rowsContext.layers
        (.resolve "items" rowsContext.layers ::
          elementsScript rowsContext.layers "items"
            (fun s => containerScript .object none s [.scalar "v" (.str "x") s])
            [.json .null, .json (.bool true)]) := by
    simp only [expansionScript, rows, script, membersScript, itemsScript, itemScript_obj, repeats,
      pathTexts, pathsScript, found, elements, List.map_cons, List.map_nil, elementsScript,
      List.append_nil]
  let actions := expansionScript rows rowsContext
  have split : actions = actions.take 20 ++
      .scalar "v" (.str "x") (rowsContext.layers.base.push (.roots [.json (.bool true)])) ::
        actions.drop 21 := by
    simp only [actions, whole]
    rfl
  have entered : enteredAfter [] (actions.take 20) = [.json (.bool true)] := by
    simp only [actions, whole]
    rfl
  have disciplined := ((expand_scopes rowsContext).2.2 actions (.inl ⟨rows, rfl⟩)).2 _ _ _ split
  rw [entered] at disciplined
  exact ⟨_, _, split, entered, disciplined.1⟩

end Stencil.Template
