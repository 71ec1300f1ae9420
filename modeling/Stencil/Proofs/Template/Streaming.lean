import Stencil.Proofs.Template.Output

/-!
# Expanding call by call

An expansion without hooks leaves the writer as one call does that writes the whole output. The
calls in between open containers on the stack and close them again, and each part of a template only
adds to the container that is open around it.
-/

namespace Stencil.Template

/-- From `w` a step has the effect of what is put out, and fails as that fails. -/
def Runs {α : Type} (step : Expansion Unit Unit) (w : Writer) (out : Except Error α)
    (effect : α → Writer) : Prop :=
  match out with
  | .ok a => step ⟨w, ()⟩ = (.ok (), ⟨effect a, ()⟩)
  | .error e => (step ⟨w, ()⟩).1 = .error e

section

variable {α β γ : Type} {step next : Expansion Unit Unit} {w : Writer}

theorem Runs.of_eq {out : Except Error α} {effect : α → Writer} {w₀ : Writer}
    (h : Runs next w out effect) (hstep : step ⟨w₀, ()⟩ = next ⟨w, ()⟩) :
    Runs step w₀ out effect := by
  unfold Runs
  rw [hstep]
  exact h

theorem Runs.seq {out : Except Error α} {more : Except Error β} {effect : α → Writer}
    {then_ : α → β → Writer} {last : γ → Writer} {f : α → β → γ} (h : Runs step w out effect)
    (hnext : ∀ a, Runs next (effect a) more (then_ a))
    (hlast : ∀ a b, then_ a b = last (f a b)) :
    Runs (do step; next) w (do let a ← out; let b ← more; return f a b) last := by
  cases out with
  | error e =>
    show ((step >>= fun _ => next) ⟨w, ()⟩).1 = .error e
    rw [Expansion.bind_apply]
    unfold Runs at h
    dsimp only at h
    rcases hs : step ⟨w, ()⟩ with ⟨e' | _, work⟩ <;> rw [hs] at h <;> cases h
    rfl
  | ok a =>
    have hn := hnext a
    unfold Runs at h
    have run : (step >>= fun _ => next) ⟨w, ()⟩ = next ⟨effect a, ()⟩ := by
      rw [Expansion.bind_apply, h]
    cases more with
    | error e => exact (congrArg Prod.fst run).trans hn
    | ok b => exact run.trans (hn.trans (by rw [hlast]))

theorem Runs.map {out : Except Error α} {effect : α → Writer} {last : β → Writer} {f : α → β}
    (h : Runs step w out effect) (hlast : ∀ a, effect a = last (f a)) :
    Runs step w (do let a ← out; return f a) last := by
  cases out with
  | error e => exact h
  | ok a => exact h.trans (by rw [hlast])

end

/-! ## Calls of the writer -/

/-- The frame that a container starts with. -/
def Container.frame : Container → Frame
  | .object => .object [] none
  | .array => .array []

/-- The call that starts a container. -/
def Container.start : Container → Writer → Except WriterFault Unit × Writer
  | .object => Writer.startObject
  | .array => Writer.startArray

/-- The call that ends a container. -/
def Container.end_ : Container → Writer → Except WriterFault Unit × Writer
  | .object => Writer.endObject
  | .array => Writer.endArray

section

variable {w : Writer}

theorem writeValue_eq_attach (h : w.slotFault? = none) (v : Json) :
    w.writeValue v = w.attach v := by
  unfold Writer.writeValue
  rw [h]

theorem writeValue_fits (h : w.slotFault? = none) (v : Json) :
    w.writeValue v = (.ok (), (w.writeValue v).2) := by
  rw [writeValue_eq_attach h]
  unfold Writer.slotFault? at h
  unfold Writer.attach
  rcases hs : w.stack with _ | ⟨frame, rest⟩
  · rfl
  · rw [hs] at h
    rcases frame with ⟨ms, _ | name⟩ | xs
    · cases h
    · rfl
    · rfl

theorem write_value_runs (h : w.slotFault? = none) (v : Json) :
    Expansion.write (·.writeValue v) ⟨w, ()⟩ = (.ok (), ⟨(w.writeValue v).2, ()⟩) := by
  unfold Expansion.write
  dsimp only
  rw [writeValue_fits h v]

end

/-! ## Leaves and containers -/

section

variable {registry : Slot.Registry} {w₀ w : Writer} {property : Option String} {scope : Scope}

/-- The place of a value: behind its name, if there is one, the writer can take it. -/
structure Ready (property : Option String) (w₀ w : Writer) : Prop where
  name : writeName? property ⟨w₀, ()⟩ = (.ok (), (⟨w, ()⟩ : Work Unit))
  fits : w.slotFault? = none

theorem Ready.unnamed (h : w.slotFault? = none) : Ready none w w := ⟨rfl, h⟩

theorem writeLeaf_runs (h : Ready property w₀ w) (leaf : Json) :
    Runs (writeLeaf ⟨.none, registry⟩ property scope leaf) w₀ (leafValue registry scope leaf)
      fun v => (w.writeValue v).2 := by
  unfold Runs writeLeaf
  rcases hv : leafValue registry scope leaf with e | v
  · rw [Expansion.bind_apply, h.name]
    rfl
  · rw [Expansion.bind_apply, h.name]
    exact write_value_runs h.fits v

theorem bind_unit (x : Expansion Unit Unit) : (x >>= fun _ => pure ()) = x := by
  funext work
  rw [Expansion.bind_apply]
  rcases x work with ⟨_ | _, _⟩ <;> rfl

theorem container_plain (kind : Container) (contents : Expansion Unit Unit) :
    container ⟨.none, registry⟩ kind property scope contents = (do
      writeName? property
      Expansion.write kind.start
      contents
      Expansion.write kind.end_) := by
  rw [← bind_unit (Expansion.write kind.end_)]
  cases kind <;> rfl

theorem start_runs (h : w.slotFault? = none) (kind : Container) :
    Expansion.write kind.start ⟨w, ()⟩ = (.ok (), ⟨⟨kind.frame :: w.stack, w.root⟩, ()⟩) := by
  unfold Expansion.write
  cases kind <;>
    simp only [Container.start, Writer.startObject, Writer.startArray, Writer.open_, h] <;> rfl

theorem container_runs {α : Type} {kind : Container} {contents : Expansion Unit Unit}
    {out : Except Error α} {effect : α → Writer} {close : α → Json} (h : Ready property w₀ w)
    (hcontents : Runs contents ⟨kind.frame :: w.stack, w.root⟩ out effect)
    (hclose : ∀ a, kind.end_ (effect a) = w.writeValue (close a)) :
    Runs (container ⟨.none, registry⟩ kind property scope contents) w₀
      (do let a ← out; return close a) fun v => (w.writeValue v).2 := by
  rw [container_plain]
  have run : (do
      writeName? property
      Expansion.write kind.start
      contents
      Expansion.write kind.end_) (⟨w₀, ()⟩ : Work Unit) =
        (contents >>= fun _ => Expansion.write kind.end_)
          ⟨⟨kind.frame :: w.stack, w.root⟩, ()⟩ := by
    rw [Expansion.bind_apply, h.name]
    dsimp only
    rw [Expansion.bind_apply, start_runs h.fits]
  have ended (a : α) : Runs (Expansion.write kind.end_) (effect a) (.ok ())
      fun _ : Unit => (w.writeValue (close a)).2 := by
    unfold Runs Expansion.write
    dsimp only
    rw [hclose, writeValue_fits h.fits]
  have body : Runs (contents >>= fun _ => Expansion.write kind.end_)
      ⟨kind.frame :: w.stack, w.root⟩
      (do let a ← out; let _ ← (.ok () : Except Error Unit); return close a)
      fun v => (w.writeValue v).2 := hcontents.seq ended fun _ _ => rfl
  exact body.of_eq run

/-! ## Parts of containers -/

/-- An array is open, with the items put in so far last first. -/
def inArray (rest : List Frame) (root : Option Json) (items : List Json) : Writer :=
  ⟨.array items :: rest, root⟩

/-- An object is open, with the members put in so far. -/
def inObject (rest : List Frame) (root : Option Json) (members : Json.Members) : Writer :=
  ⟨.object members none :: rest, root⟩

variable {rest : List Frame} {root : Option Json}

theorem ready_item (items : List Json) :
    Ready none (inArray rest root items) (inArray rest root items) := ⟨rfl, rfl⟩

theorem ready_member (members : Json.Members) (name : String) :
    Ready (some name) (inObject rest root members) ⟨.object members (some name) :: rest, root⟩ :=
  ⟨rfl, rfl⟩

theorem forElements_runs {body : Scope → Expansion Unit Unit} {out : Scope → Except Error Json}
    (h : ∀ s items, Runs (body s) (inArray rest root items) (out s)
      fun v => inArray rest root (v :: items)) (elements : List Root) (items : List Json) :
    Runs (forElements scope body elements) (inArray rest root items)
      (elements.mapM fun r => out (elementScope scope r))
      fun vs => inArray rest root (vs.reverse ++ items) := by
  induction elements generalizing items with
  | nil => rfl
  | cons r rs ih =>
    rw [forElements, List.mapM_cons]
    refine (h (elementScope scope r) items).seq (fun v => ih (v :: items)) fun v vs => ?_
    rw [List.reverse_cons, List.append_assoc]
    rfl

theorem forPaths_runs {body : Scope → Expansion Unit Unit} {out : Scope → Except Error Json}
    (h : ∀ s items, Runs (body s) (inArray rest root items) (out s)
      fun v => inArray rest root (v :: items)) (paths : List String) (items : List Json) :
    Runs (forPaths scope body paths) (inArray rest root items) (repeated scope out paths)
      fun vs => inArray rest root (vs.reverse ++ items) := by
  induction paths generalizing items with
  | nil => rfl
  | cons path paths ih =>
    unfold forPaths repeated
    rcases scope.resolve path with e | v
    · rfl
    · refine (forElements_runs h (elements v) items).seq (fun vs => ih (vs.reverse ++ items))
        fun vs ws => ?_
      rw [List.reverse_append, List.append_assoc]

theorem endObject_inObject (hw : (⟨rest, root⟩ : Writer).slotFault? = none)
    (members : Json.Members) :
    (inObject rest root members).endObject = Writer.writeValue ⟨rest, root⟩ (.obj members) :=
  (writeValue_eq_attach hw (.obj members)).symm

theorem endArray_inArray (hw : (⟨rest, root⟩ : Writer).slotFault? = none) (items : List Json) :
    (inArray rest root items).endArray = Writer.writeValue ⟨rest, root⟩ (.arr items.reverse) :=
  (writeValue_eq_attach hw (.arr items.reverse)).symm

theorem writeScalar_plain (name : String) (leaf : Json) :
    writeScalar ⟨.none, registry⟩ name scope leaf =
      writeLeaf ⟨.none, registry⟩ (some name) scope leaf :=
  bind_unit (writeLeaf ⟨.none, registry⟩ (some name) scope leaf)

theorem writeMembers_cons (jumps : Nat) (name : String) (v : Json) (ms : Json.Members) :
    writeMembers ⟨.none, registry⟩ jumps ((name, v) :: ms) scope = (do
      writeNode ⟨.none, registry⟩ jumps v scope (some name)
      writeMembers ⟨.none, registry⟩ jumps ms scope) := by
  cases v with
  | obj | arr => rw [writeMembers]
  | _ => simp only [writeMembers, writeScalar_plain, writeNode]

theorem writeElement_obj {σ : Type} (x : Expander σ) (jumps : Nat) (ms : Json.Members)
    (scope : Scope) :
    writeElement x jumps (.obj ms) scope =
      match arrayTemplate? ms with
      | none => writeNode x jumps (.obj ms) scope none
      | some (_, .arr entries) => writeElements x jumps entries scope
      | some (path, .obj inner) =>
        forPaths scope (fun s => writeNode x jumps (.obj inner) s none) (pathTexts path)
      | some (path, .str name) =>
        match namedTemplate? scope name with
        | .error e => .fail e
        | .ok none => pure ()
        | .ok (some named) =>
          match jumps with
          | 0 => .fail .tooDeep
          | jumps + 1 => forPaths scope (fun s => writeNode x jumps named s none) (pathTexts path)
      | some _ => pure () := by
  rw [writeElement]
  split
  · next h => rw [h]
  · next h => rw [h]
  · next h => rw [h]
  · next h => exact h ▸ rfl
  · next h => simp only [h]

end

/-! ## Templates -/

section

variable {registry : Slot.Registry}

-- By induction on the jumps that are left and then on the template, as the definitions recurse.
-- What carries it is that only the innermost container changes, and that no name is pending in it.
mutual

theorem writeNode_runs {jumps : Nat} {template : Json} {scope : Scope} {property : Option String}
    {w₀ w : Writer} (h : Ready property w₀ w) :
    Runs (writeNode ⟨.none, registry⟩ jumps template scope property) w₀
      (output registry jumps template scope) fun v => (w.writeValue v).2 := by
  match template with
  | .obj ms =>
    rw [writeNode, output]
    refine container_runs h writeMembers_runs fun os => ?_
    unfold Dictionary.ofList
    rw [entries_foldl_insert]
    exact endObject_inObject h.fits _
  | .arr items =>
    rw [writeNode, output]
    refine container_runs h writeElements_runs fun vs => ?_
    rw [List.append_nil]
    have closed := endArray_inArray h.fits vs.reverse
    rw [List.reverse_reverse] at closed
    exact closed
  | .null | .bool _ | .num _ | .str _ =>
    simp only [writeNode, output]
    exact writeLeaf_runs h _
termination_by (jumps, 2 * sizeOf template)

theorem writeMembers_runs {jumps : Nat} {ms : Json.Members} {scope : Scope} {rest : List Frame}
    {root : Option Json} {members : Json.Members} :
    Runs (writeMembers ⟨.none, registry⟩ jumps ms scope) (inObject rest root members)
      (outputMembers registry jumps ms scope)
      fun os => inObject rest root (os.foldl (fun es e => Entries.insert es e.1 e.2) members) := by
  match ms with
  | [] =>
    rw [writeMembers, outputMembers]
    rfl
  | (name, v) :: ms =>
    rw [writeMembers_cons, outputMembers]
    exact (writeNode_runs (ready_member members name)).seq (fun o => writeMembers_runs)
      fun o os => rfl
termination_by (jumps, 2 * sizeOf ms)

theorem writeElements_runs {jumps : Nat} {elements : List Json} {scope : Scope}
    {rest : List Frame} {root : Option Json} {items : List Json} :
    Runs (writeElements ⟨.none, registry⟩ jumps elements scope) (inArray rest root items)
      (outputElements registry jumps elements scope)
      fun vs => inArray rest root (vs.reverse ++ items) := by
  match elements with
  | [] =>
    rw [writeElements, outputElements]
    rfl
  | element :: elements =>
    rw [writeElements, outputElements]
    refine writeElement_runs.seq (fun vs => writeElements_runs) fun vs ws => ?_
    rw [List.reverse_append, List.append_assoc]
termination_by (jumps, 2 * sizeOf elements)

theorem writeElement_runs {jumps : Nat} {element : Json} {scope : Scope} {rest : List Frame}
    {root : Option Json} {items : List Json} :
    Runs (writeElement ⟨.none, registry⟩ jumps element scope) (inArray rest root items)
      (outputElement registry jumps element scope)
      fun vs => inArray rest root (vs.reverse ++ items) := by
  match element with
  | .obj ms =>
    rw [writeElement_obj, outputElement_obj]
    rcases ht : arrayTemplate? ms with _ | ⟨path, template⟩
    · exact (writeNode_runs (ready_item items)).map fun v => rfl
    have short := sizeOf_arrayTemplate? ht
    cases template with
    | arr entries => exact writeElements_runs
    | obj inner => exact forPaths_runs (fun s items => writeNode_runs (ready_item items)) _ _
    | str name =>
      dsimp only
      rcases namedTemplate? scope name with e | _ | named
      · rfl
      · rfl
      cases jumps with
      | zero => rfl
      | succ jumps => exact forPaths_runs (fun s items => writeNode_runs (ready_item items)) _ _
    | null | bool | num => rfl
  | .arr _ | .null | .bool _ | .num _ | .str _ =>
    simp only [writeElement, outputElement]
    exact (writeNode_runs (ready_item items)).map fun v => rfl
termination_by (jumps, 2 * sizeOf element + 1)
decreasing_by
  all_goals
    first
    | simp [Prod.lex_def]
      done
    | simp [Prod.lex_def] at short ⊢
      omega

end

end

/-! ## Expansions -/

theorem expand_runs (registry : Slot.Registry) (template : Json) (ctx : Parameter) {w : Writer}
    (h : w.slotFault? = none) :
    Runs (expand ⟨.none, registry⟩ template ctx) w (output registry maxJumps template ctx.layers)
      fun v => (w.writeValue v).2 :=
  writeNode_runs (Ready.unnamed h)

/-- Where a value fits, an expansion without hooks writes the output of the template as one value,
or fails as the output does. However deep named templates may lead, that output stays the same. The
output of an object whose names differ has the same names in the same order. -/
theorem expand_eq_writeValue (registry : Slot.Registry) (template : Json) (ctx : Parameter)
    {w : Writer} (h : w.slotFault? = none) :
    (match expand ⟨.none, registry⟩ template ctx ⟨w, ()⟩ with
      | (.ok (), work) => ∃ v,
        (∀ jumps, maxJumps ≤ jumps → output registry jumps template ctx.layers = .ok v) ∧
        w.writeValue v = (.ok (), work.writer)
      | (.error e, _) => output registry maxJumps template ctx.layers = .error e) ∧
    ∀ jumps ms scope, (Entries.names ms).Nodup →
      output registry jumps (.obj ms) scope = (do
        let os ← outputMembers registry jumps ms scope
        return .obj os) ∧
      ∀ os, outputMembers registry jumps ms scope = .ok os →
        Entries.names os = Entries.names ms := by
  refine ⟨?_, fun jumps ms scope hms => ⟨output_obj hms, fun os => outputMembers_names⟩⟩
  have runs := expand_runs registry template ctx h
  unfold Runs at runs
  rcases hout : output registry maxJumps template ctx.layers with e | v <;> rw [hout] at runs
  · rcases hx : expand ⟨.none, registry⟩ template ctx ⟨w, ()⟩ with ⟨_ | _, work⟩ <;> rw [hx] at runs
    · cases runs
      rfl
    · cases runs
  · rw [runs]
    exact ⟨v, fun jumps hjumps => output_mono hjumps hout, writeValue_fits h v⟩

/-- Two fields of an element: one shown among other text, and one that is a flag. -/
def badge : Json := .obj [("name", .str "\x7b$.name\x7d!"), ("on", .str "\x7b$.on\x7d")]

def badges : Json := .arr [.obj [("path", .str "items"), ("template", badge)]]

def person (name : String) (on : Bool) : Json := .obj [("name", .str name), ("on", .bool on)]

def people : Parameter :=
  .store (.add .empty "items" (.json (.arr [person "a" true, person "b" false])))

theorem output_badge {scope : Scope} {s t : String} {b : Bool}
    (hs : Slot.render .builtin (.scope scope) "\x7b$.name\x7d!" = .ok s)
    (hplain : flag? s = none)
    (ht : Slot.render .builtin (.scope scope) "\x7b$.on\x7d" = .ok t)
    (hflag : flag? t = some b) : output .builtin maxJumps badge scope = .ok (person s b) := by
  simp only [badge, output, outputMembers, leafValue, hs, hplain, ht, hflag]
  rfl

-- An array template with two elements, expanded as a member of an object. Each badge reads the
-- element that it stands for.
theorem expand_eq_writeValue_member : ∃ work,
    expand ⟨.none, .builtin⟩ badges people ⟨⟨[.object [] (some "list")], none⟩, ()⟩ =
      (.ok (), work) ∧
    Writer.writeValue ⟨[.object [] (some "list")], none⟩
      (.arr [person "a!" true, person "b!" false]) = (.ok (), work.writer) := by
  have found : Scope.resolve people.layers "items" =
      .ok (.json (.arr [person "a" true, person "b" false])) := rfl
  have first : output .builtin maxJumps badge
      (elementScope people.layers (.json (person "a" true))) = .ok (person "a!" true) := by
    apply output_badge (t := "true")
    case hplain | hflag => decide +kernel
    all_goals
      apply Path.Reader.eq_ok_of
      decide +kernel
  have second : output .builtin maxJumps badge
      (elementScope people.layers (.json (person "b" false))) = .ok (person "b!" false) := by
    apply output_badge (t := "false")
    case hplain | hflag => decide +kernel
    all_goals
      apply Path.Reader.eq_ok_of
      decide +kernel
  have each : repeated people.layers (fun s => output .builtin maxJumps badge s) ["items"] =
      .ok [person "a!" true, person "b!" false] := by
    simp only [repeated, found, elements, List.map_cons, List.map_nil, List.mapM_cons,
      List.mapM_nil, first, second]
    rfl
  have item : outputElement .builtin maxJumps (.obj [("path", .str "items"), ("template", badge)])
      people.layers = .ok [person "a!" true, person "b!" false] := by
    rw [outputElement_obj, ← each]
    rfl
  have computed : output .builtin maxJumps badges people.layers =
      .ok (.arr [person "a!" true, person "b!" false]) := by
    simp only [badges, output, outputElements, item]
    rfl
  have written := (expand_eq_writeValue .builtin badges people
      (rfl : Writer.slotFault? ⟨[.object [] (some "list")], none⟩ = none)).1
  split at written
  · obtain ⟨v, hv, hw⟩ := written
    cases (hv maxJumps (Nat.le_refl _)).symm.trans computed
    exact ⟨_, ‹_›, hw⟩
  · cases written.symm.trans computed

/-- The document that a template expands to is its output. -/
theorem expandToValue_eq_output (registry : Slot.Registry) (template : Json) (ctx : Parameter) :
    expandToValue registry template ctx = output registry maxJumps template ctx.layers := by
  have runs := expand_runs registry template ctx (rfl : Writer.slotFault? .empty = none)
  unfold Runs at runs
  unfold expandToValue
  rcases hout : output registry maxJumps template ctx.layers with e | v <;> rw [hout] at runs
  · rcases hx : expand ⟨.none, registry⟩ template ctx ⟨.empty, ()⟩ with ⟨_ | _, work⟩ <;>
      rw [hx] at runs <;> cases runs
    rfl
  · rw [runs]
    rfl

end Stencil.Template
