import Stencil.Proofs.Template.Settling

/-!
# When expansions end

An expansion that gets into a circle of templates never returns. It returns where no chain of
templates goes on for ever, and it succeeds only there.
-/

namespace Stencil.Template

/-! ## Where expansions succeed, no chain goes on for ever -/

theorem Expansion.bind_eq_ok {σ α β : Type} {step : Expansion σ α} {next : α → Expansion σ β}
    {w : Work σ} {b : β} (h : ((step >>= next) w).1 = .ok b) :
    ∃ a w', step w = (.ok a, w') ∧ (next a w').1 = .ok b := by
  rw [Expansion.bind_apply] at h
  rcases hs : step w with ⟨e | a, w'⟩ <;> rw [hs] at h
  · cases h
  · exact ⟨a, w', rfl, h⟩

theorem Expansion.bind_eq_error {σ α β : Type} {step : Expansion σ α} {w : Work σ} {e : Error}
    (next : α → Expansion σ β) (h : (step w).1 = .error e) :
    ((step >>= next) w).1 = .error e := by
  rw [Expansion.bind_apply]
  rcases hs : step w with ⟨e' | a, w'⟩ <;> rw [hs] at h <;> cases h
  rfl

section

variable {σ : Type} {x : Expander σ}

theorem container_eq_ok {kind : Container} {property : Option String} {scope : Scope}
    {contents : Expansion σ Unit} {w : Work σ}
    (h : (container x kind property scope contents w).1 = .ok ()) :
    ∃ w', (contents w').1 = .ok () := by
  cases kind
  all_goals
    obtain ⟨_, _, -, h⟩ := Expansion.bind_eq_ok h
    obtain ⟨_, _, -, h⟩ := Expansion.bind_eq_ok h
    obtain ⟨_, _, -, h⟩ := Expansion.bind_eq_ok h
    obtain ⟨_, _, -, h⟩ := Expansion.bind_eq_ok h
    obtain ⟨_, w', hw, -⟩ := Expansion.bind_eq_ok h
    exact ⟨_, congrArg Prod.fst hw⟩

theorem forElements_eq_ok {scope : Scope} {body : Scope → Expansion σ Unit} {elements : List Root}
    {w : Work σ} (h : (forElements scope body elements w).1 = .ok ()) {element : Root}
    (he : element ∈ elements) : ∃ w', (body (elementScope scope element) w').1 = .ok () := by
  induction he generalizing w with
  | head =>
    obtain ⟨_, _, here, -⟩ := Expansion.bind_eq_ok h
    exact ⟨w, congrArg Prod.fst here⟩
  | tail _ _ ih =>
    obtain ⟨_, _, -, rest⟩ := Expansion.bind_eq_ok h
    exact ih rest

theorem forPaths_eq_ok {scope : Scope} {body : Scope → Expansion σ Unit} {path : Json}
    {w : Work σ} (h : (forPaths scope body (pathTexts path) w).1 = .ok ()) {element : Root}
    (he : Finds scope path element) :
    ∃ w', (body (elementScope scope element) w').1 = .ok () := by
  obtain ⟨text, htext, v, hv, he⟩ := he
  generalize pathTexts path = paths at h htext
  induction htext generalizing w with
  | head =>
    rw [forPaths, hv] at h
    obtain ⟨_, _, here, -⟩ := Expansion.bind_eq_ok h
    exact forElements_eq_ok (congrArg Prod.fst here) he
  | tail text _ ih =>
    rw [forPaths] at h
    rcases hfound : scope.resolve text with e | found <;> rw [hfound] at h
    · cases h
    · obtain ⟨_, _, -, rest⟩ := Expansion.bind_eq_ok h
      exact ih rest

theorem writeElement_plain {jumps : Nat} {item : Json} {scope : Scope}
    (h : ∀ ms, item = .obj ms → arrayTemplate? ms = none) :
    writeElement x jumps item scope = writeNode x jumps item scope none := by
  cases item with
  | obj ms => rw [writeElement_obj, h ms rfl]
  | arr | null | bool | num | str => simp only [writeElement]

theorem writeElement_named {jumps : Nat} {ms : Json.Members} {path template : Json} {name : String}
    {scope : Scope} {w : Work σ} (ht : arrayTemplate? ms = some (path, .str name))
    (hn : namedTemplate? scope name = .ok (some template))
    (h : (writeElement x jumps (.obj ms) scope w).1 = .ok ()) :
    ∃ left, left < jumps ∧
      (forPaths scope (fun s => writeNode x left template s none) (pathTexts path) w).1 =
        .ok () := by
  rw [writeElement_obj, ht] at h
  dsimp only at h
  rw [hn] at h
  cases jumps with
  | zero => cases h
  | succ left => exact ⟨left, Nat.lt_succ_self left, h⟩

-- By induction on the jumps that were left and then on the template, as the definitions recurse.
mutual

theorem writeNode_finite {jumps : Nat} {template : Json} {scope : Scope}
    {property : Option String} {w : Work σ}
    (h : (writeNode x jumps template scope property w).1 = .ok ()) :
    Place.Finite ⟨template, scope⟩ := by
  match template with
  | .obj ms =>
    rw [writeNode] at h
    obtain ⟨w', h⟩ := container_eq_ok h
    have members := writeMembers_finite h
    constructor
    rintro _ ⟨hv⟩
    exact members _ _ hv
  | .arr items =>
    rw [writeNode] at h
    obtain ⟨w', h⟩ := container_eq_ok h
    have parts := writeElements_finite h
    constructor
    rintro p (_ | ⟨hi, hp⟩)
    exact parts _ hi p hp
  | .null | .bool _ | .num _ | .str _ => exact Place.Finite.leaf nofun nofun
termination_by (jumps, 2 * sizeOf template)

theorem writeMembers_finite {jumps : Nat} {ms : Json.Members} {scope : Scope} {w : Work σ}
    (h : (writeMembers x jumps ms scope w).1 = .ok ()) (name : String) (v : Json)
    (hv : (name, v) ∈ ms) : Place.Finite ⟨v, scope⟩ := by
  match ms with
  | (_, .obj _) :: rest | (_, .arr _) :: rest =>
    rw [writeMembers] at h
    obtain ⟨_, w', here, h⟩ := Expansion.bind_eq_ok h
    rcases List.mem_cons.1 hv with ⟨rfl, rfl⟩ | hv
    · exact writeNode_finite (congrArg Prod.fst here)
    · exact writeMembers_finite h name v hv
  | (_, .null) :: rest | (_, .bool _) :: rest | (_, .num _) :: rest | (_, .str _) :: rest =>
    simp only [writeMembers] at h
    obtain ⟨_, w', here, h⟩ := Expansion.bind_eq_ok h
    rcases List.mem_cons.1 hv with ⟨rfl, rfl⟩ | hv
    · exact Place.Finite.leaf nofun nofun
    · exact writeMembers_finite h name v hv
termination_by (jumps, 2 * sizeOf ms)

theorem writeElements_finite {jumps : Nat} {items : List Json} {scope : Scope} {w : Work σ}
    (h : (writeElements x jumps items scope w).1 = .ok ()) (item : Json) (hi : item ∈ items)
    (p : Place) (hp : Needs scope item p) : p.Finite := by
  match items with
  | first :: rest =>
    rw [writeElements] at h
    obtain ⟨_, w', here, h⟩ := Expansion.bind_eq_ok h
    rcases List.mem_cons.1 hi with rfl | hi
    · exact writeElement_finite (congrArg Prod.fst here) p hp
    · exact writeElements_finite h item hi p hp
termination_by (jumps, 2 * sizeOf items)

theorem writeElement_finite {jumps : Nat} {item : Json} {scope : Scope} {w : Work σ}
    (h : (writeElement x jumps item scope w).1 = .ok ()) (p : Place) (hp : Needs scope item p) :
    p.Finite := by
  match hp with
  | @Needs.plain _ _ hitem =>
    rw [writeElement_plain hitem] at h
    exact writeNode_finite h
  | @Needs.entry _ _ _ _ _ _ ht he hp =>
    have short := sizeOf_arrayTemplate? ht
    rw [writeElement_obj, ht] at h
    exact writeElements_finite h _ he p hp
  | @Needs.object _ _ _ _ _ ht he =>
    have short := sizeOf_arrayTemplate? ht
    rw [writeElement_obj, ht] at h
    obtain ⟨w', h⟩ := forPaths_eq_ok h he
    exact writeNode_finite h
  | @Needs.named _ _ _ _ _ _ ht hn he =>
    obtain ⟨left, fewer, h⟩ := writeElement_named ht hn h
    obtain ⟨w', h⟩ := forPaths_eq_ok h he
    exact writeNode_finite h
termination_by (jumps, 2 * sizeOf item + 1)
decreasing_by
  · simp [Prod.lex_def]
  · simp [Prod.lex_def] at short ⊢
    omega
  · simp [Prod.lex_def] at short ⊢
    omega
  · simp [Prod.lex_def, fewer]

end

end

/-! ## Expansions -/

section

variable {σ : Type}

/-- The expansion of a template, `jumps` named templates deep at most. -/
def expandWithin (x : Expander σ) (jumps : Nat) (template : Json) (ctx : Parameter) :
    Expansion σ Unit :=
  writeNode x jumps template ctx.layers none

/-- The expansion of the template under a name, `jumps` further ones deep at most. -/
def expandNamedWithin (x : Expander σ) (jumps : Nat) (name : String) (ctx : Parameter) :
    Expansion σ Bool := do
  match ← .lift (namedTemplate? ctx.layers name) with
  | some template =>
    expandWithin x jumps template ctx
    pure true
  | none => pure false

variable {x : Expander σ} {ctx : Parameter} {name : String} {template : Json}

theorem expandNamedWithin_settles (hx : x.hooks.End)
    (h : ∀ template, namedTemplate? ctx.layers name = .ok (some template) →
      Place.Finite ⟨template, ctx.layers⟩) :
    Settles fun n => expandNamedWithin x n name ctx := by
  unfold expandNamedWithin
  rcases hn : namedTemplate? ctx.layers name with e | _ | template
  · exact (namedTemplate?_fails hn).settles
  · exact (Expansion.Ends.pure false).settles
  · exact ((h template hn).settles hx none).seq (Expansion.Ends.pure true).settles

theorem expandNamedWithin_finite {jumps : Nat} {w : Work σ} {b : Bool}
    (h : (expandNamedWithin x jumps name ctx w).1 = .ok b)
    (hn : namedTemplate? ctx.layers name = .ok (some template)) :
    Place.Finite ⟨template, ctx.layers⟩ := by
  unfold expandNamedWithin at h
  rw [hn] at h
  have run : ((expandWithin x jumps template ctx >>= fun _ => pure true) w).1 = .ok b := h
  obtain ⟨_, _, here, -⟩ := Expansion.bind_eq_ok run
  exact writeNode_finite (congrArg Prod.fst here)

end

/-- An expansion returns where no chain of templates goes on for ever: for its template and its
parameter there is a number of jumps that is enough, whatever the writer and the hooks do. It
succeeds only there. An expansion is one with a fixed number of jumps. -/
theorem expansion_returns {σ : Type} (x : Expander σ) (hx : x.hooks.End) (ctx : Parameter) :
    (∀ template, Place.Finite ⟨template, ctx.layers⟩ →
      Settles fun jumps => expandWithin x jumps template ctx) ∧
    (∀ name, (∀ template, namedTemplate? ctx.layers name = .ok (some template) →
        Place.Finite ⟨template, ctx.layers⟩) →
      Settles fun jumps => expandNamedWithin x jumps name ctx) ∧
    (∀ template jumps w, (expandWithin x jumps template ctx w).1 = .ok () →
      Place.Finite ⟨template, ctx.layers⟩) ∧
    (∀ name jumps w b, (expandNamedWithin x jumps name ctx w).1 = .ok b →
      ∀ template, namedTemplate? ctx.layers name = .ok (some template) →
        Place.Finite ⟨template, ctx.layers⟩) ∧
    expand x = expandWithin x maxJumps ∧ expandNamed x = expandNamedWithin x maxJumps := by
  refine ⟨?_, ?_, ?_, ?_, rfl, rfl⟩
  · intro template h
    exact h.settles hx none
  · intro name h
    exact expandNamedWithin_settles hx h
  · intro template jumps w h
    exact writeNode_finite h
  · intro name jumps w b h template hn
    exact expandNamedWithin_finite h hn

theorem Hooks.none_end : Hooks.none.End where
  boundary _ _ _ _ := .pure ()
  beforeProperty _ _ _ := .pure false
  afterProperty _ _ _ := .pure ()

/-- An array template that repeats the template under a name for the items. -/
def repeating (name : String) : Json :=
  .arr [.obj [("path", .str "items"), ("template", .str name)]]

theorem mentions_repeating {name further : String} :
    Mentions (repeating name) further ↔ further = name := by
  have repeats : arrayTemplate? [("path", .str "items"), ("template", .str name)] =
      some (.str "items", .str name) := rfl
  simp [repeating, mentions_arr, mentions_obj, not_mentions_str, repeats, eq_comm]

/-- A template under `list` that leads to one under `row`, and one item. -/
def listContext : Parameter :=
  .store (((Store.empty.add "list" (.json (repeating "row"))).add "row"
    (.json (.arr []))).add "items" (.json (.arr [.null])))

theorem get?_add (s : Store) (name other : String) (v : Value) :
    (s.add name v).get? other = if other = name then some v else s.get? other :=
  Entries.find?_insert s.values.entries name other v

theorem namedTemplate?_store {s : Store} {name : String} {template : Json}
    (h : namedTemplate? [.store s] name = .ok (some template)) :
    ∃ v, s.get? name = some v ∧ template = v.toJson := by
  have found : Scope.resolve [.store s] name = .ok ((s.get? name).getD .undefined) := rfl
  unfold namedTemplate? at h
  rw [found] at h
  rcases hv : s.get? name with _ | v <;> rw [hv] at h
  · cases h
  · refine ⟨v, rfl, ?_⟩
    dsimp only [Option.getD_some] at h
    split at h <;> cases h
    rfl

-- Named templates that lead to further ones, but not in a circle.
theorem expansion_returns_list :
    Settles (fun jumps => expandWithin .plain jumps (repeating "list") listContext) ∧
    Settles (fun jumps => expandNamedWithin .plain jumps "list" listContext) := by
  have row : IsName "row" := by decide
  have list : IsName "list" := by decide
  have finite (template : Json) (h : ∀ name, Mentions template name → IsName name) :
      Place.Finite ⟨template, listContext.layers⟩ := by
    apply Place.Finite.of_rank (fun name => if name = "list" then 1 else 0) _ h
    intro name named hnamed further hfurther
    obtain ⟨v, hv, rfl⟩ := namedTemplate?_store hnamed
    simp only [get?_add] at hv
    split at hv
    · cases hv
      simp [Value.toJson, mentions_arr, not_mentions_null] at hfurther
    split at hv
    · cases hv
      simp [Value.toJson, mentions_arr] at hfurther
    split at hv
    · next hname =>
      cases hv
      cases mentions_repeating.1 hfurther
      exact ⟨row, by simp [hname]⟩
    · cases hv
  obtain ⟨expands, expandsNamed, -⟩ := expansion_returns .plain Hooks.none_end listContext
  constructor
  · apply expands
    apply finite
    intro name hname
    rwa [mentions_repeating.1 hname]
  · apply expandsNamed
    intro template ht
    apply finite
    intro name hname
    obtain ⟨v, hv, rfl⟩ := namedTemplate?_store ht
    simp only [get?_add, String.reduceEq, if_true, if_false, Option.some.injEq] at hv
    subst hv
    rwa [mentions_repeating.1 hname]

/-- A template under `circle` that names itself, and one item. -/
def circleContext : Parameter :=
  .store ((Store.empty.add "circle" (.json (repeating "circle"))).add "items"
    (.json (.arr [.null])))

theorem output_repeating {registry : Slot.Registry} {s : Scope} {name : String} {template : Json}
    (h : namedTemplate? s name = .ok (some template)) (jumps : Nat) :
    output registry jumps (repeating name) s = (do
      let vs ← match jumps with
        | 0 => .error .tooDeep
        | jumps + 1 => repeated s (fun s => output registry jumps template s) ["items"]
      return .arr vs) := by
  have repeats : arrayTemplate? [("path", .str "items"), ("template", .str name)] =
      some (.str "items", .str name) := rfl
  simp only [repeating, output, outputElements, outputElement_obj, repeats, h]
  cases jumps with
  | zero => rfl
  | succ jumps =>
    dsimp only [pathTexts]
    rcases repeated s (fun s => output registry jumps template s) ["items"] with e | vs
    · rfl
    · exact congrArg (fun vs => Except.ok (Json.arr vs)) (List.append_nil vs)

-- The scope of the item has the same layers below its object scope, so the circle begins again.
theorem output_circle (jumps : Nat) {s : Scope} (hs : s.base = circleContext.layers.base) :
    output .builtin jumps (repeating "circle") s = .error .tooDeep := by
  have named : namedTemplate? s "circle" = .ok (some (repeating "circle")) :=
    namedTemplate?_base (by decide) hs
  have item : s.resolve "items" = .ok (.json (.arr [.null])) := by
    rw [← Scope.resolve_base (by decide), hs]
    rfl
  rw [output_repeating named]
  cases jumps with
  | zero => rfl
  | succ jumps =>
    have inner := output_circle jumps ((base_elementScope s (.json .null)).trans hs)
    simp only [repeated, item, elements, List.map_cons, List.mapM_cons, inner]
    rfl

/-- A template that names itself is never done, however many jumps there are. -/
theorem expansion_returns_not_circle :
    (∀ jumps, (expandWithin .plain jumps (repeating "circle") circleContext
      ⟨.empty, ()⟩).1 = .error .tooDeep) ∧
    (∀ jumps, (expandNamedWithin .plain jumps "circle" circleContext
      ⟨.empty, ()⟩).1 = .error .tooDeep) ∧
    ¬ Place.Finite ⟨repeating "circle", circleContext.layers⟩ := by
  have stuck (jumps : Nat) : (expandWithin .plain jumps (repeating "circle") circleContext
      ⟨.empty, ()⟩).1 = .error .tooDeep := by
    have run : Runs (expandWithin .plain jumps (repeating "circle") circleContext) .empty
        (output .builtin jumps (repeating "circle") circleContext.layers)
        fun v => (Writer.empty.writeValue v).2 := writeNode_runs (Ready.unnamed rfl)
    rw [output_circle jumps rfl] at run
    exact run
  have stuckNamed (jumps : Nat) : (expandNamedWithin .plain jumps "circle" circleContext
      ⟨.empty, ()⟩).1 = .error .tooDeep := by
    have named : namedTemplate? circleContext.layers "circle" = .ok (some (repeating "circle")) :=
      rfl
    have run := Expansion.bind_eq_error (fun _ => pure true) (stuck jumps)
    unfold expandNamedWithin
    rw [named]
    exact run
  refine ⟨stuck, stuckNamed, ?_⟩
  intro finite
  obtain ⟨n, ends, -⟩ := finite.settles (x := .plain) Hooks.none_end none
  exact ends _ (stuck n)

end Stencil.Template
