import Stencil.Proofs.Template.Documents
import Stencil.Proofs.Template.Observing

/-!
# Callbacks mirror the document

The callbacks of an expansion that succeeds describe the document that it writes: four of them stand
around what each container holds, and two for each scalar member. Each is told how many containers
are open around it.
-/

namespace Stencil.Template

def isContainer : Json → Bool
  | .obj _ | .arr _ => true
  | _ => false

/-- The callbacks of a container around those of its contents. -/
def around (kind : Container) (property : Option String) (scope : Scope) (depth : Nat)
    (inner : List Callback) : List Callback :=
  .boundary .beforeStart kind property scope depth ::
    .boundary .afterStart kind property scope (depth + 1) ::
    (inner ++ [.boundary .beforeEnd kind property scope (depth + 1),
      .boundary .afterEnd kind property scope depth])

mutual

/-- The callbacks for a value written under a name, or under none. -/
inductive Mirrors (registry : Slot.Registry) :
    Nat → Option String → Json → List Callback → Prop where
  | scalar {depth : Nat} {v : Json} : isContainer v = false → Mirrors registry depth none v []
  | object {depth : Nat} {ms : Json.Members} {word : List Callback} (property : Option String)
      (scope : Scope) :
    MirrorsMembers registry (depth + 1) ms word →
      Mirrors registry depth property (objectOf ms) (around .object property scope depth word)
  | array {depth : Nat} {vs : List Json} {word : List Callback} (property : Option String)
      (scope : Scope) :
    MirrorsItems registry (depth + 1) vs word →
      Mirrors registry depth property (.arr vs) (around .array property scope depth word)

/-- A scalar member is the value of the leaf that both of its callbacks get. -/
inductive MirrorsMembers (registry : Slot.Registry) :
    Nat → Json.Members → List Callback → Prop where
  | nil {depth : Nat} : MirrorsMembers registry depth [] []
  | scalar {depth : Nat} {ms : Json.Members} {word : List Callback} {leaf v : Json} {scope : Scope}
      (name : String) :
    isContainer leaf = false → leafValue registry scope leaf = .ok v →
    MirrorsMembers registry depth ms word →
      MirrorsMembers registry depth ((name, v) :: ms)
        (.beforeProperty name leaf scope depth :: .afterProperty name leaf scope depth :: word)
  | container {depth : Nat} {ms : Json.Members} {front back : List Callback} {v : Json}
      (name : String) :
    Mirrors registry depth (some name) v front → MirrorsMembers registry depth ms back →
      MirrorsMembers registry depth ((name, v) :: ms) (front ++ back)

inductive MirrorsItems (registry : Slot.Registry) : Nat → List Json → List Callback → Prop where
  | nil {depth : Nat} : MirrorsItems registry depth [] []
  | item {depth : Nat} {vs : List Json} {front back : List Callback} {v : Json} :
    Mirrors registry depth none v front → MirrorsItems registry depth vs back →
      MirrorsItems registry depth (v :: vs) (front ++ back)

end

theorem MirrorsItems.append {registry : Slot.Registry} {depth : Nat} {vs us : List Json}
    {front back : List Callback} (h : MirrorsItems registry depth vs front)
    (hback : MirrorsItems registry depth us back) :
    MirrorsItems registry depth (vs ++ us) (front ++ back) := by
  match h with
  | .nil => exact hback
  | .item hv hvs =>
    rw [List.append_assoc]
    exact .item hv (hvs.append hback)

theorem MirrorsItems.singleton {registry : Slot.Registry} {depth : Nat} {v : Json}
    {word : List Callback} (h : Mirrors registry depth none v word) :
    MirrorsItems registry depth [v] word := by
  have single := MirrorsItems.item h .nil
  rwa [List.append_nil] at single

/-! ## What a script tells -/

/-- The callbacks of an action. -/
def Action.told (depth : Nat) : Action → List Callback
  | .boundary place kind property scope => [.boundary place kind property scope depth]
  | .scalar member v scope =>
    [.beforeProperty member v scope depth, .afterProperty member v scope depth]
  | _ => []

/-- How many containers are open behind an action. -/
def Action.depthAfter (depth : Nat) : Action → Nat
  | .start _ => depth + 1
  | .end_ _ => depth - 1
  | _ => depth

def told (depth : Nat) : List Action → List Callback
  | [] => []
  | action :: rest => action.told depth ++ told (action.depthAfter depth) rest

/-- Wherever the actions stand, these are their callbacks, and as many containers are open behind
them as in front. -/
def Tells (depth : Nat) (actions : List Action) (word : List Callback) : Prop :=
  ∀ rest, told depth (actions ++ rest) = word ++ told depth rest

theorem Tells.nil {depth : Nat} : Tells depth [] [] := fun _ => rfl

theorem Tells.cons {depth : Nat} {action : Action} {actions : List Action} {word : List Callback}
    (hdepth : action.depthAfter depth = depth) (h : Tells depth actions word) :
    Tells depth (action :: actions) (action.told depth ++ word) := by
  intro rest
  have tail := h rest
  rw [List.cons_append, told, hdepth, tail, List.append_assoc]

theorem Tells.append {depth : Nat} {front back : List Action} {word more : List Callback}
    (h : Tells depth front word) (hback : Tells depth back more) :
    Tells depth (front ++ back) (word ++ more) := by
  intro rest
  rw [List.append_assoc, h, hback, List.append_assoc]

theorem Tells.container {depth : Nat} {contents : List Action} {word : List Callback}
    (h : Tells (depth + 1) contents word) (kind : Container) (property : Option String)
    (scope : Scope) :
    Tells depth (containerScript kind property scope contents)
      (around kind property scope depth word) := by
  intro rest
  have inner := h (.boundary .beforeEnd kind property scope :: .end_ kind ::
    .boundary .afterEnd kind property scope :: rest)
  simp only [told, Action.told, Action.depthAfter, Nat.add_sub_cancel, List.nil_append,
    List.singleton_append] at inner
  simp only [containerScript, around, told, Action.told, Action.depthAfter, List.cons_append,
    List.append_assoc, List.nil_append, inner]

/-! ## Scripts mirror outputs -/

section

variable {registry : Slot.Registry}

theorem leafValue_isContainer {scope : Scope} {leaf v : Json} (hleaf : isContainer leaf = false)
    (h : leafValue registry scope leaf = .ok v) : isContainer v = false := by
  cases leaf with
  | str text =>
    simp only [leafValue] at h
    split at h
    · cases h
    · next rendered _ =>
      cases h
      split <;> rfl
  | obj | arr => cases hleaf
  | null | bool | num =>
    cases h
    rfl

/-- The actions tell callbacks that mirror the items. -/
def ItemsMirrored (registry : Slot.Registry) (depth : Nat) (vs : List Json)
    (actions : List Action) : Prop :=
  ∃ word, MirrorsItems registry depth vs word ∧ Tells depth actions word

/-- The actions tell callbacks that mirror the value. -/
def Mirrored (registry : Slot.Registry) (depth : Nat) (property : Option String) (v : Json)
    (actions : List Action) : Prop :=
  ∃ word, Mirrors registry depth property v word ∧ Tells depth actions word

theorem ItemsMirrored.nil {depth : Nat} : ItemsMirrored registry depth [] [] := ⟨[], .nil, .nil⟩

theorem ItemsMirrored.append {depth : Nat} {vs us : List Json} {front back : List Action}
    (h : ItemsMirrored registry depth vs front) (hback : ItemsMirrored registry depth us back) :
    ItemsMirrored registry depth (vs ++ us) (front ++ back) := by
  obtain ⟨word, hvs, hword⟩ := h
  obtain ⟨more, hus, hmore⟩ := hback
  exact ⟨word ++ more, hvs.append hus, hword.append hmore⟩

theorem Mirrored.single {depth : Nat} {v : Json} {actions : List Action}
    (h : Mirrored registry depth none v actions) : ItemsMirrored registry depth [v] actions := by
  obtain ⟨word, hv, hword⟩ := h
  exact ⟨word, .singleton hv, hword⟩

theorem ItemsMirrored.cons {depth : Nat} {vs : List Json} {action : Action}
    {actions : List Action} (htold : action.told depth = [])
    (hdepth : action.depthAfter depth = depth) (h : ItemsMirrored registry depth vs actions) :
    ItemsMirrored registry depth vs (action :: actions) := by
  obtain ⟨word, hvs, hword⟩ := h
  have tells := hword.cons hdepth
  rw [htold] at tells
  exact ⟨word, hvs, tells⟩

theorem elementsScript_mirrors {depth : Nat} {scope : Scope} {path : String}
    {out : Scope → Except Error Json} {body : Scope → List Action}
    (h : ∀ s v, out s = .ok v → Mirrored registry depth none v (body s)) {found : List Root}
    {vs : List Json} (hvs : (found.mapM fun r => out (elementScope scope r)) = .ok vs) :
    ItemsMirrored registry depth vs (elementsScript scope path body found) := by
  induction found generalizing vs with
  | nil =>
    cases hvs
    exact .nil
  | cons r found ih =>
    rw [List.mapM_cons] at hvs
    obtain ⟨v, hv, hvs⟩ := bind_eq_ok hvs
    obtain ⟨us, hus, hvs⟩ := bind_eq_ok hvs
    cases hvs
    have first := (h (elementScope scope r) v hv).single
    apply ItemsMirrored.cons rfl rfl
    exact first.append (.cons rfl rfl (ih hus))

theorem pathsScript_mirrors {depth : Nat} {scope : Scope} {out : Scope → Except Error Json}
    {body : Scope → List Action}
    (h : ∀ s v, out s = .ok v → Mirrored registry depth none v (body s)) {paths : List String}
    {vs : List Json} (hvs : repeated scope out paths = .ok vs) :
    ItemsMirrored registry depth vs (pathsScript scope body paths) := by
  induction paths generalizing vs with
  | nil =>
    cases hvs
    exact .nil
  | cons path paths ih =>
    unfold repeated at hvs
    rw [pathsScript]
    apply ItemsMirrored.cons rfl rfl
    rcases hfound : scope.resolve path with e | found <;> rw [hfound] at hvs
    · cases hvs
    · obtain ⟨us, hus, hvs⟩ := bind_eq_ok hvs
      obtain ⟨ws, hws, hvs⟩ := bind_eq_ok hvs
      cases hvs
      exact (elementsScript_mirrors h hus).append (ih hws)

-- By induction on the jumps that are left and then on the template, as the definitions recurse.
mutual

theorem script_mirrors {jumps : Nat} {template v : Json} {scope : Scope}
    {property : Option String} (h : output registry jumps template scope = .ok v) (depth : Nat)
    (hproperty : isContainer template = true ∨ property = none) :
    Mirrored registry depth property v (script jumps template scope property) := by
  match template with
  | .obj ms =>
    rw [output] at h
    obtain ⟨os, hos, h⟩ := bind_eq_ok h
    cases h
    obtain ⟨word, mirrors, tells⟩ := membersScript_mirrors hos (depth + 1)
    rw [script]
    exact ⟨_, .object property scope mirrors, tells.container .object property scope⟩
  | .arr items =>
    rw [output] at h
    obtain ⟨vs, hvs, h⟩ := bind_eq_ok h
    cases h
    obtain ⟨word, mirrors, tells⟩ := itemsScript_mirrors hvs (depth + 1)
    rw [script]
    exact ⟨_, .array property scope mirrors, tells.container .array property scope⟩
  | .null | .bool _ | .num _ | .str _ =>
    simp only [output] at h
    simp only [script]
    obtain _ | rfl := hproperty
    · contradiction
    · exact ⟨[], .scalar (leafValue_isContainer rfl h), Tells.nil.cons rfl⟩
termination_by (jumps, 2 * sizeOf template)

theorem membersScript_mirrors {jumps : Nat} {ms os : Json.Members} {scope : Scope}
    (h : outputMembers registry jumps ms scope = .ok os) (depth : Nat) :
    ∃ word, MirrorsMembers registry depth os word ∧
      Tells depth (membersScript jumps ms scope) word := by
  match ms with
  | [] =>
    rw [outputMembers] at h
    cases h
    rw [membersScript]
    exact ⟨[], .nil, .nil⟩
  | (name, .obj _) :: rest | (name, .arr _) :: rest =>
    rw [outputMembers] at h
    obtain ⟨o, ho, h⟩ := bind_eq_ok h
    obtain ⟨os, hos, h⟩ := bind_eq_ok h
    cases h
    obtain ⟨front, mirrors, tells⟩ := script_mirrors ho depth (.inl rfl)
    obtain ⟨back, further, more⟩ := membersScript_mirrors hos depth
    rw [membersScript]
    exact ⟨front ++ back, .container name mirrors further, tells.append more⟩
  | (name, .null) :: rest | (name, .bool _) :: rest | (name, .num _) :: rest
  | (name, .str _) :: rest =>
    rw [outputMembers] at h
    obtain ⟨o, ho, h⟩ := bind_eq_ok h
    obtain ⟨os, hos, h⟩ := bind_eq_ok h
    cases h
    simp only [output] at ho
    obtain ⟨back, further, more⟩ := membersScript_mirrors hos depth
    simp only [membersScript]
    exact ⟨_, .scalar name rfl ho further, more.cons rfl⟩
termination_by (jumps, 2 * sizeOf ms)

theorem itemsScript_mirrors {jumps : Nat} {items vs : List Json} {scope : Scope}
    (h : outputElements registry jumps items scope = .ok vs) (depth : Nat) :
    ItemsMirrored registry depth vs (itemsScript jumps items scope) := by
  match items with
  | [] =>
    rw [outputElements] at h
    cases h
    rw [itemsScript]
    exact .nil
  | item :: rest =>
    rw [outputElements] at h
    obtain ⟨us, hus, h⟩ := bind_eq_ok h
    obtain ⟨ws, hws, h⟩ := bind_eq_ok h
    cases h
    rw [itemsScript]
    exact (itemScript_mirrors hus depth).append (itemsScript_mirrors hws depth)
termination_by (jumps, 2 * sizeOf items)

theorem itemScript_mirrors {jumps : Nat} {item : Json} {vs : List Json} {scope : Scope}
    (h : outputElement registry jumps item scope = .ok vs) (depth : Nat) :
    ItemsMirrored registry depth vs (itemScript jumps item scope) := by
  match item with
  | .obj ms =>
    rw [outputElement_obj] at h
    rw [itemScript_obj]
    rcases ht : arrayTemplate? ms with _ | ⟨path, template⟩ <;> rw [ht] at h
    · obtain ⟨v, hv, h⟩ := bind_eq_ok h
      cases h
      exact (script_mirrors hv depth (.inl rfl)).single
    have short := sizeOf_arrayTemplate? ht
    cases template with
    | arr entries => exact itemsScript_mirrors h depth
    | obj inner => exact pathsScript_mirrors (fun s v hv => script_mirrors hv depth (.inr rfl)) h
    | str name =>
      dsimp only at h ⊢
      apply ItemsMirrored.cons rfl rfl
      rcases hn : namedTemplate? scope name with e | _ | named <;> rw [hn] at h
      · cases h
      · cases h
        exact .nil
      cases jumps with
      | zero => cases h
      | succ jumps => exact pathsScript_mirrors (fun s v hv => script_mirrors hv depth (.inr rfl)) h
    | null | bool | num =>
      cases h
      exact .nil
  | .arr _ | .null | .bool _ | .num _ | .str _ =>
    simp only [outputElement] at h
    obtain ⟨v, hv, h⟩ := bind_eq_ok h
    cases h
    simp only [itemScript]
    exact (script_mirrors hv depth (.inr rfl)).single
termination_by (jumps, 2 * sizeOf item + 1)
decreasing_by
  all_goals
    first
    | simp [Prod.lex_def]
      done
    | simp [Prod.lex_def] at short ⊢
      omega

end

end

/-! ## What the recorder notes -/

section

variable {σ α β : Type}

theorem Expansion.run_bind {f : Expansion σ α} {next : α → Expansion σ β} {w w' : Work σ} {b : β}
    (h : (f >>= next) w = (.ok b, w')) : ∃ a v, f w = (.ok a, v) ∧ next a v = (.ok b, w') := by
  rw [Expansion.bind_apply] at h
  rcases hf : f w with ⟨e | a, v⟩ <;> rw [hf] at h
  · cases h
  · exact ⟨a, v, rfl, h⟩

theorem Expansion.run_write {call : Writer → Except WriterFault Unit × Writer} {w w' : Work σ}
    (h : Expansion.write call w = (.ok (), w')) :
    call w.writer = (.ok (), w'.writer) ∧ w'.state = w.state := by
  unfold Expansion.write at h
  rcases hc : call w.writer with ⟨fault | _, writer⟩ <;> rw [hc] at h <;> cases h
  exact ⟨rfl, rfl⟩

namespace Writer

variable {w w' : Writer}

theorem depth_attach (w : Writer) (v : Json) : (w.attach v).2.depth = w.depth := by
  unfold attach depth
  rcases hs : w.stack with _ | ⟨⟨ms, _ | name⟩ | xs, rest⟩ <;> simp [hs]

theorem depth_writeName (w : Writer) (name : String) : (w.writeName name).2.depth = w.depth := by
  unfold writeName depth
  rcases hs : w.stack with _ | ⟨⟨ms, _ | pending⟩ | xs, rest⟩ <;> simp [hs]

theorem depth_writeValue (w : Writer) (v : Json) : (w.writeValue v).2.depth = w.depth := by
  unfold writeValue
  split
  · rfl
  · exact depth_attach w v

theorem depth_start {kind : Container} (h : kind.start w = (.ok (), w')) :
    w'.depth = w.depth + 1 := by
  cases kind <;> simp only [Container.start, startObject, startArray, open_] at h <;> split at h <;>
    cases h <;> rfl

theorem depth_end (kind : Container) (w : Writer) : (kind.end_ w).2.depth = w.depth - 1 := by
  obtain ⟨stack, root⟩ := w
  rcases stack with _ | ⟨⟨ms, _ | pending⟩ | xs, rest⟩ <;> cases kind <;>
    first
    | rfl
    | exact depth_attach ⟨rest, root⟩ _

theorem fits_of_start {kind : Container} (h : kind.start w = (.ok (), w')) :
    w.slotFault? = none := by
  rcases hs : w.slotFault? with _ | fault
  · rfl
  · cases kind <;> simp [Container.start, startObject, startArray, open_, hs] at h

theorem fits_of_writeValue {v : Json} (h : w.writeValue v = (.ok (), w')) :
    w.slotFault? = none := by
  rcases hs : w.slotFault? with _ | fault
  · rfl
  · simp [writeValue, hs] at h

end Writer

theorem writeName?_run {property : Option String} {w w' : Work σ}
    (h : writeName? property w = (.ok (), w')) :
    w'.state = w.state ∧ w'.writer.depth = w.writer.depth := by
  cases property with
  | none =>
    cases h
    exact ⟨rfl, rfl⟩
  | some name =>
    have hwrite : Expansion.write (·.writeName name) w = (.ok (), w') := h
    obtain ⟨hcall, hstate⟩ := Expansion.run_write hwrite
    have depth := w.writer.depth_writeName name
    rw [hcall] at depth
    exact ⟨hstate, depth⟩

theorem writeLeaf_run {x : Expander σ} {property : Option String} {scope : Scope} {leaf : Json}
    {w w' : Work σ} (h : writeLeaf x property scope leaf w = (.ok (), w')) :
    w'.state = w.state ∧ w'.writer.depth = w.writer.depth := by
  obtain ⟨_, named, hname, h⟩ := Expansion.run_bind h
  obtain ⟨v, same, hv, h⟩ := Expansion.run_bind h
  obtain rfl : named = same := congrArg Prod.snd hv
  obtain ⟨hstate, hdepth⟩ := writeName?_run hname
  obtain ⟨hcall, hsame⟩ := Expansion.run_write h
  have depth := named.writer.depth_writeValue v
  rw [hcall] at depth
  exact ⟨hsame.trans hstate, depth.trans hdepth⟩

theorem report_run {hook : Expansion σ α} {a : α} (h : Observes hook a) (callback : Nat → Callback)
    (w : Work (Logged σ)) : ∃ s,
    report never callback hook w =
      (.ok a, ⟨w.writer, s, w.state.2 ++ [callback w.writer.depth]⟩) := by
  obtain ⟨s, hs⟩ := h ⟨w.writer, w.state.1⟩
  refine ⟨s, ?_⟩
  simp only [report, never, hs]

variable {hooks : Hooks σ} {registry : Slot.Registry} {w w' : Work (Logged σ)}

theorem writeScalar_notes (h : hooks.Observe) {name : String} {scope : Scope} {leaf : Json}
    (hrun : writeScalar ⟨hooks.recording never, registry⟩ name scope leaf w = (.ok (), w')) :
    w'.state.2 = w.state.2 ++ [.beforeProperty name leaf scope w.writer.depth,
      .afterProperty name leaf scope w.writer.depth] ∧
    w'.writer.depth = w.writer.depth := by
  obtain ⟨handled, asked, hask, hrun⟩ := Expansion.run_bind hrun
  obtain ⟨s, hbefore⟩ := report_run (h.beforeProperty name leaf scope)
    (.beforeProperty name leaf scope) w
  cases hbefore.symm.trans hask
  obtain ⟨_, written, hleaf, hrun⟩ := Expansion.run_bind hrun
  obtain ⟨hstate, hdepth⟩ := writeLeaf_run hleaf
  obtain ⟨t, hafter⟩ := report_run (h.afterProperty name leaf scope)
    (.afterProperty name leaf scope) written
  cases hafter.symm.trans hrun
  rw [hstate, hdepth]
  exact ⟨List.append_assoc .., rfl⟩

theorem perform_notes (h : hooks.Observe) {action : Action}
    (hrun : perform ⟨hooks.recording never, registry⟩ action w = (.ok (), w')) :
    w'.state.2 = w.state.2 ++ action.told w.writer.depth ∧
      w'.writer.depth = action.depthAfter w.writer.depth := by
  cases action with
  | boundary place kind property scope =>
    obtain ⟨s, hs⟩ := report_run (h.boundary place kind property scope)
      (.boundary place kind property scope) w
    cases hs.symm.trans hrun
    exact ⟨rfl, rfl⟩
  | scalar name leaf scope => exact writeScalar_notes h hrun
  | name property =>
    obtain ⟨hstate, hdepth⟩ := writeName?_run hrun
    exact ⟨by rw [hstate]; simp [Action.told], hdepth⟩
  | leaf property leaf scope =>
    obtain ⟨hstate, hdepth⟩ := writeLeaf_run hrun
    exact ⟨by rw [hstate]; simp [Action.told], hdepth⟩
  | start kind =>
    obtain ⟨hcall, hstate⟩ := Expansion.run_write hrun
    exact ⟨by rw [hstate]; simp [Action.told], Writer.depth_start hcall⟩
  | end_ kind =>
    obtain ⟨hcall, hstate⟩ := Expansion.run_write hrun
    have depth := Writer.depth_end kind w.writer
    rw [hcall] at depth
    exact ⟨by rw [hstate]; simp [Action.told], depth⟩
  | resolve path scope =>
    simp only [perform] at hrun
    rcases hr : scope.resolve path with e | v <;> rw [hr] at hrun <;> cases hrun
    simp [Action.told, Action.depthAfter]
  | lookup name scope =>
    simp only [perform] at hrun
    rcases hn : namedTemplate? scope name with e | v <;> rw [hn] at hrun <;> cases hrun
    simp [Action.told, Action.depthAfter]
  | enter | leave =>
    cases hrun
    simp [Action.told, Action.depthAfter]
  | stuck => cases hrun

theorem performAll_notes (h : hooks.Observe) {actions : List Action}
    (hrun : performAll ⟨hooks.recording never, registry⟩ actions w = (.ok (), w')) :
    w'.state.2 = w.state.2 ++ told w.writer.depth actions := by
  induction actions generalizing w with
  | nil =>
    cases hrun
    simp [told]
  | cons action rest ih =>
    obtain ⟨_, v, hfirst, hrest⟩ := Expansion.run_bind hrun
    obtain ⟨hlog, hdepth⟩ := perform_notes h hfirst
    rw [ih hrest, hlog, hdepth, List.append_assoc]
    rfl

theorem container_fits {kind : Container} {scope : Scope} {contents : Expansion Unit Unit}
    {w w' : Work Unit}
    (h : container ⟨.none, registry⟩ kind none scope contents w = (.ok (), w')) :
    w.writer.slotFault? = none := by
  rw [container_plain] at h
  obtain ⟨_, named, hname, h⟩ := Expansion.run_bind h
  obtain ⟨_, _, hstart, -⟩ := Expansion.run_bind h
  cases hname
  exact Writer.fits_of_start (Expansion.run_write hstart).1

theorem writeLeaf_fits {scope : Scope} {leaf : Json} {w w' : Work Unit}
    (h : writeLeaf ⟨.none, registry⟩ none scope leaf w = (.ok (), w')) :
    w.writer.slotFault? = none := by
  obtain ⟨_, named, hname, h⟩ := Expansion.run_bind h
  obtain ⟨v, same, hv, h⟩ := Expansion.run_bind h
  cases hname
  obtain rfl : w = same := congrArg Prod.snd hv
  exact Writer.fits_of_writeValue (Expansion.run_write h).1

theorem expand_fits {template : Json} {ctx : Parameter} {w w' : Work Unit}
    (h : expand ⟨.none, registry⟩ template ctx w = (.ok (), w')) : w.writer.slotFault? = none := by
  unfold expand at h
  cases template with
  | obj ms =>
    rw [writeNode] at h
    exact container_fits h
  | arr items =>
    rw [writeNode] at h
    exact container_fits h
  | null | bool | num | str =>
    simp only [writeNode] at h
    exact writeLeaf_fits h

/-- An expansion that succeeds has written its output as one value. -/
theorem expand_writes {template : Json} {ctx : Parameter} {w w' : Work Unit}
    (h : expand ⟨.none, registry⟩ template ctx w = (.ok (), w')) : ∃ v,
    output registry maxJumps template ctx.layers = .ok v ∧
      w.writer.writeValue v = (.ok (), w'.writer) := by
  have fits := expand_fits h
  have runs := expand_runs registry template ctx fits
  unfold Runs at runs
  rcases hout : output registry maxJumps template ctx.layers with e | v <;> rw [hout] at runs
  · cases (congrArg Prod.fst h).symm.trans runs
  · cases h.symm.trans runs
    exact ⟨v, rfl, writeValue_fits fits v⟩

end

/-- Hooks that look on do not change the result of an expansion or what it writes. The callbacks
that they get can be recorded without a difference; where the expansion succeeds they mirror the
value that it writes. Where the k-th of them fails instead, the expansion fails as it does, and has
made the first k callbacks. -/
theorem expand_observed {σ : Type} {hooks : Hooks σ} (h : hooks.Observe)
    (registry : Slot.Registry) (template : Json) (ctx : Parameter) (writer : Writer) (s : σ) :
    let run := expand ⟨hooks, registry⟩ template ctx ⟨writer, s⟩
    let plain := expand ⟨.none, registry⟩ template ctx ⟨writer, ()⟩
    run.1 = plain.1 ∧ run.2.writer = plain.2.writer ∧
    ∃ log : List Callback,
      expand ⟨hooks.recording never, registry⟩ template ctx ⟨writer, s, []⟩ =
        (run.1, ⟨run.2.writer, run.2.state, log⟩) ∧
      (run.1 = .ok () → ∃ v, writer.writeValue v = (.ok (), run.2.writer) ∧
        Mirrors registry writer.depth none v log) ∧
      ∀ k e, 0 < k → k ≤ log.length → ∃ after,
        expand ⟨hooks.recording (failingAt k e), registry⟩ template ctx ⟨writer, s, []⟩ =
          (.error e, after) ∧ after.state.2 = log.take k := by
  intro run plain
  let actions := expansionScript template ctx
  have performed {τ : Type} (hooks : Hooks τ) :
      performAll ⟨hooks, registry⟩ actions = expand ⟨hooks, registry⟩ template ctx :=
    performAll_expansionScript ⟨hooks, registry⟩ template ctx
  have agree := agree_congruent.performAll (h.agree Hooks.none_observe) registry actions
  have recorded := recorded_congruent.performAll hooks.recorded registry actions
  simp only [performed] at agree recorded
  obtain ⟨result, same⟩ := agree writer s ()
  obtain ⟨log, hlog⟩ := recorded writer s []
  rw [List.nil_append] at hlog
  refine ⟨result, same, log, hlog, ?_, ?_⟩
  · intro hok
    have ran : plain = (.ok (), plain.2) := Prod.ext (result.symm.trans hok) rfl
    obtain ⟨v, hv, hwritten⟩ := expand_writes ran
    have mirrored : Mirrored registry writer.depth none v actions :=
      script_mirrors hv writer.depth (.inr rfl)
    obtain ⟨word, mirrors, tells⟩ := mirrored
    have noted : log = told writer.depth actions := by
      rw [hok, ← performed] at hlog
      exact performAll_notes h hlog
    have whole : told writer.depth actions = word := by
      simpa [told] using tells []
    refine ⟨v, ?_, ?_⟩
    · rw [same]
      exact hwritten
    · rw [noted, whole]
      exact mirrors
  · intro k e hpos hk
    have cut := (cut_congruent k e).performAll (hooks.cut k e) registry actions
    simp only [performed] at cut
    have stops := cut.fails ⟨writer, s, []⟩ hpos
    rw [hlog] at stops
    exact stops hk

/-- Hooks that count their callbacks. -/
def counting : Hooks Nat where
  boundary _ _ _ _ := fun w => (.ok (), { w with state := w.state + 1 })
  beforeProperty _ _ _ := fun w => (.ok false, { w with state := w.state + 1 })
  afterProperty _ _ _ := fun w => (.ok (), { w with state := w.state + 1 })

/-- An object with a scalar member and with a list. -/
def switches : Json := .obj [("on", .bool true), ("list", .arr [.null])]

theorem expand_observed_counting : counting.Observe ∧ ∃ log : List Callback,
    expand ⟨counting.recording never, .builtin⟩ switches (.store .empty) ⟨.empty, 0, []⟩ =
      (.ok (), ⟨⟨[], some switches⟩, 10, log⟩) ∧
    log.length = 10 ∧ Mirrors .builtin 0 none switches log ∧
    ∃ after,
      expand ⟨counting.recording (failingAt 7 .tooDeep), .builtin⟩ switches (.store .empty)
        ⟨.empty, 0, []⟩ = (.error .tooDeep, after) ∧ after.state.2 = log.take 7 := by
  have observe : counting.Observe :=
    ⟨fun _ _ _ _ w => ⟨w.state + 1, rfl⟩, fun _ _ _ w => ⟨w.state + 1, rfl⟩,
      fun _ _ _ w => ⟨w.state + 1, rfl⟩⟩
  have counted : (expand ⟨counting.recording never, .builtin⟩ switches (.store .empty)
      ⟨.empty, 0, []⟩).2.state.2.length = 10 := by
    simp only [expand, switches, writeNode, writeMembers, writeElements, writeElement]
    rfl
  have ran : expand ⟨counting, .builtin⟩ switches (.store .empty) ⟨.empty, 0⟩ =
      (.ok (), ⟨⟨[], some switches⟩, 10⟩) := by
    simp only [expand, switches, writeNode, writeMembers, writeElements, writeElement]
    rfl
  obtain ⟨-, -, log, hlog, mirrors, stops⟩ :=
    expand_observed observe .builtin switches (.store .empty) .empty 0
  rw [ran] at hlog mirrors
  rw [hlog] at counted
  obtain ⟨v, hv, hmirrors⟩ := mirrors rfl
  have same : v = switches := by
    cases hv
    rfl
  refine ⟨observe, log, hlog, counted, same ▸ hmirrors, ?_⟩
  have length : log.length = 10 := counted
  exact stops 7 .tooDeep (by omega) (by omega)

end Stencil.Template
