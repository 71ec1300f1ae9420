import Stencil.Template.Expand

/-!
# The output of a template

What a template expands to in a scope, as a value. The output of a container holds the outputs of
its parts, and an item of an array puts out several values where it is an array template.
-/

namespace Stencil.Template

/-! ## Outputs -/

/-- The outputs of a body for each element that the paths find, path by path. -/
def repeated (scope : Scope) (body : Scope → Except Error Json) :
    List String → Except Error (List Json)
  | [] => .ok []
  | path :: rest =>
    match scope.resolve path with
    | .error e => .error (.path e)
    | .ok v => do
      let vs ← (elements v).mapM fun r => body (elementScope scope r)
      let ws ← repeated scope body rest
      return vs ++ ws

mutual

/-- What a template becomes, `jumps` named templates deep at most. -/
def output (registry : Slot.Registry) (jumps : Nat) (template : Json) (scope : Scope) :
    Except Error Json :=
  match template with
  | .obj ms => do
    let os ← outputMembers registry jumps ms scope
    return .obj (Dictionary.ofList os).entries
  | .arr items => do
    let vs ← outputElements registry jumps items scope
    return .arr vs
  | leaf => leafValue registry scope leaf
termination_by (jumps, 2 * sizeOf template)

/-- The members of an object under their names. -/
def outputMembers (registry : Slot.Registry) (jumps : Nat) (ms : Json.Members) (scope : Scope) :
    Except Error Json.Members :=
  match ms with
  | [] => .ok []
  | (name, v) :: rest => do
    let o ← output registry jumps v scope
    let os ← outputMembers registry jumps rest scope
    return (name, o) :: os
termination_by (jumps, 2 * sizeOf ms)

/-- The outputs of the items of an array, put together. -/
def outputElements (registry : Slot.Registry) (jumps : Nat) (items : List Json) (scope : Scope) :
    Except Error (List Json) :=
  match items with
  | [] => .ok []
  | item :: rest => do
    let vs ← outputElement registry jumps item scope
    let ws ← outputElements registry jumps rest scope
    return vs ++ ws
termination_by (jumps, 2 * sizeOf items)

/-- An item of an array puts out one value, an array template one for each element. -/
def outputElement (registry : Slot.Registry) (jumps : Nat) (item : Json) (scope : Scope) :
    Except Error (List Json) :=
  match item with
  | .obj ms =>
    match _h : arrayTemplate? ms with
    | none => do
      let v ← output registry jumps (.obj ms) scope
      return [v]
    | some (_, .arr entries) => outputElements registry jumps entries scope
    | some (path, .obj inner) =>
      repeated scope (fun s => output registry jumps (.obj inner) s) (pathTexts path)
    | some (path, .str name) =>
      match namedTemplate? scope name with
      | .error e => .error e
      | .ok none => .ok []
      | .ok (some named) =>
        match jumps with
        | 0 => .error .tooDeep
        | jumps + 1 =>
          repeated scope (fun s => output registry jumps named s) (pathTexts path)
    | some _ => .ok []
  | item => do
    let v ← output registry jumps item scope
    return [v]
termination_by (jumps, 2 * sizeOf item + 1)
decreasing_by
  · simp [Prod.lex_def]
  · have := sizeOf_arrayTemplate? _h
    simp [Prod.lex_def] at this ⊢
    omega
  · have := sizeOf_arrayTemplate? _h
    simp [Prod.lex_def] at this ⊢
    omega
  · simp [Prod.lex_def]
  · simp [Prod.lex_def]

end

theorem outputElement_obj (registry : Slot.Registry) (jumps : Nat) (ms : Json.Members)
    (scope : Scope) :
    outputElement registry jumps (.obj ms) scope =
      match arrayTemplate? ms with
      | none => do
        let v ← output registry jumps (.obj ms) scope
        return [v]
      | some (_, .arr entries) => outputElements registry jumps entries scope
      | some (path, .obj inner) =>
        repeated scope (fun s => output registry jumps (.obj inner) s) (pathTexts path)
      | some (path, .str name) =>
        match namedTemplate? scope name with
        | .error e => .error e
        | .ok none => .ok []
        | .ok (some named) =>
          match jumps with
          | 0 => .error .tooDeep
          | jumps + 1 =>
            repeated scope (fun s => output registry jumps named s) (pathTexts path)
      | some _ => .ok [] := by
  rw [outputElement]
  split <;> next h => simp only [h]

/-! ## Objects -/

theorem entries_foldl_insert {α : Type} (es : Entries α) (d : Dictionary α) :
    (es.foldl (fun d e => d.insert e.1 e.2) d).entries =
      es.foldl (fun es e => Entries.insert es e.1 e.2) d.entries := by
  induction es generalizing d with
  | nil => rfl
  | cons e es ih => exact ih (d.insert e.1 e.2)

theorem insert_of_not_mem {α : Type} {es : Entries α} {name : String} (h : name ∉ Entries.names es)
    (value : α) : Entries.insert es name value = es ++ [(name, value)] := by
  induction es with
  | nil => rfl
  | cons e es ih =>
    obtain ⟨k, v⟩ := e
    unfold Entries.names at h
    rw [List.map_cons, List.mem_cons, not_or] at h
    rw [Entries.insert, if_neg fun hk => h.1 hk.symm, ih h.2]
    rfl

theorem foldl_insert_of_nodup {α : Type} {es ds : Entries α}
    (h : (Entries.names (ds ++ es)).Nodup) :
    es.foldl (fun es e => Entries.insert es e.1 e.2) ds = ds ++ es := by
  induction es generalizing ds with
  | nil => exact (List.append_nil ds).symm
  | cons e es ih =>
    have fresh : e.1 ∉ Entries.names ds := by
      unfold Entries.names at h
      rw [List.map_append, List.nodup_append] at h
      intro hmem
      exact h.2.2 e.1 hmem e.1 (by simp) rfl
    have assoc : ds ++ [e] ++ es = ds ++ e :: es := by
      rw [List.append_assoc]
      rfl
    rw [List.foldl_cons, insert_of_not_mem fresh, ih (by rw [assoc]; exact h), assoc]

theorem entries_ofList {α : Type} {es : Entries α} (h : (Entries.names es).Nodup) :
    (Dictionary.ofList es).entries = es :=
  (entries_foldl_insert es .empty).trans (foldl_insert_of_nodup h)

variable {registry : Slot.Registry} {scope : Scope}

theorem bind_eq_ok {α β : Type} {x : Except Error α} {f : α → Except Error β} {b : β}
    (h : (x >>= f) = .ok b) : ∃ a, x = .ok a ∧ f a = .ok b := by
  cases x with
  | error e => cases h
  | ok a => exact ⟨a, rfl, h⟩

theorem outputMembers_names {jumps : Nat} {ms os : Json.Members}
    (h : outputMembers registry jumps ms scope = .ok os) : Entries.names os = Entries.names ms := by
  induction ms generalizing os with
  | nil =>
    rw [outputMembers] at h
    cases h
    rfl
  | cons m ms ih =>
    rw [outputMembers] at h
    obtain ⟨o, -, h⟩ := bind_eq_ok h
    obtain ⟨rest, hrest, h⟩ := bind_eq_ok h
    cases h
    exact congrArg (m.1 :: ·) (ih hrest)

theorem output_obj {jumps : Nat} {ms : Json.Members} (h : (Entries.names ms).Nodup) :
    output registry jumps (.obj ms) scope = do
      let os ← outputMembers registry jumps ms scope
      return .obj os := by
  rw [output]
  rcases hos : outputMembers registry jumps ms scope with e | os
  · rfl
  · show Except.ok (Json.obj (Dictionary.ofList os).entries) = .ok (.obj os)
    rw [entries_ofList (outputMembers_names hos ▸ h)]

/-! ## More jumps -/

theorem mapM_mono {α β : Type} {f g : α → Except Error β} (h : ∀ a b, f a = .ok b → g a = .ok b)
    {as : List α} {bs : List β} (hf : as.mapM f = .ok bs) : as.mapM g = .ok bs := by
  induction as generalizing bs with
  | nil => exact hf
  | cons a as ih =>
    rw [List.mapM_cons] at hf ⊢
    obtain ⟨b, hb, hf⟩ := bind_eq_ok hf
    obtain ⟨rest, hrest, hf⟩ := bind_eq_ok hf
    rw [h a b hb, ih hrest]
    exact hf

theorem repeated_mono {f g : Scope → Except Error Json} (h : ∀ s v, f s = .ok v → g s = .ok v)
    {paths : List String} {vs : List Json} (hf : repeated scope f paths = .ok vs) :
    repeated scope g paths = .ok vs := by
  induction paths generalizing vs with
  | nil => exact hf
  | cons path paths ih =>
    unfold repeated at hf ⊢
    split at hf
    · cases hf
    · obtain ⟨us, hus, hf⟩ := bind_eq_ok hf
      obtain ⟨ws, hws, hf⟩ := bind_eq_ok hf
      rw [mapM_mono (fun r v => h (elementScope scope r) v) hus, ih hws]
      exact hf

-- By induction on the jumps that were left and then on the template, as the definitions recurse.
mutual

theorem output_mono {m n : Nat} (hmn : m ≤ n) {template v : Json} {scope : Scope}
    (h : output registry m template scope = .ok v) :
    output registry n template scope = .ok v := by
  match template with
  | .obj ms =>
    rw [output] at h ⊢
    obtain ⟨os, hos, h⟩ := bind_eq_ok h
    rw [outputMembers_mono hmn hos]
    exact h
  | .arr items =>
    rw [output] at h ⊢
    obtain ⟨vs, hvs, h⟩ := bind_eq_ok h
    rw [outputElements_mono hmn hvs]
    exact h
  | .null | .bool _ | .num _ | .str _ =>
    simp only [output] at h ⊢
    exact h
termination_by (m, 2 * sizeOf template)

theorem outputMembers_mono {m n : Nat} (hmn : m ≤ n) {ms os : Json.Members} {scope : Scope}
    (h : outputMembers registry m ms scope = .ok os) :
    outputMembers registry n ms scope = .ok os := by
  match ms with
  | [] =>
    rw [outputMembers] at h ⊢
    exact h
  | (name, v) :: rest =>
    rw [outputMembers] at h ⊢
    obtain ⟨o, ho, h⟩ := bind_eq_ok h
    obtain ⟨os', hos, h⟩ := bind_eq_ok h
    rw [output_mono hmn ho, outputMembers_mono hmn hos]
    exact h
termination_by (m, 2 * sizeOf ms)

theorem outputElements_mono {m n : Nat} (hmn : m ≤ n) {items vs : List Json} {scope : Scope}
    (h : outputElements registry m items scope = .ok vs) :
    outputElements registry n items scope = .ok vs := by
  match items with
  | [] =>
    rw [outputElements] at h ⊢
    exact h
  | item :: rest =>
    rw [outputElements] at h ⊢
    obtain ⟨us, hus, h⟩ := bind_eq_ok h
    obtain ⟨ws, hws, h⟩ := bind_eq_ok h
    rw [outputElement_mono hmn hus, outputElements_mono hmn hws]
    exact h
termination_by (m, 2 * sizeOf items)

theorem outputElement_mono {m n : Nat} (hmn : m ≤ n) {item : Json} {vs : List Json} {scope : Scope}
    (h : outputElement registry m item scope = .ok vs) :
    outputElement registry n item scope = .ok vs := by
  match item with
  | .obj ms =>
    rw [outputElement_obj] at h ⊢
    rcases ht : arrayTemplate? ms with _ | ⟨path, template⟩ <;> rw [ht] at h
    · obtain ⟨v, hv, h⟩ := bind_eq_ok h
      dsimp only
      rw [output_mono hmn hv]
      exact h
    have short := sizeOf_arrayTemplate? ht
    cases template with
    | arr entries => exact outputElements_mono hmn h
    | obj inner => exact repeated_mono (fun s v hv => output_mono hmn hv) h
    | str name =>
      dsimp only at h ⊢
      rcases hn : namedTemplate? scope name with e | _ | named <;> rw [hn] at h
      · cases h
      · exact h
      cases m with
      | zero => cases h
      | succ m =>
        obtain ⟨n, rfl⟩ := Nat.exists_eq_succ_of_ne_zero (Nat.ne_zero_of_lt hmn)
        exact repeated_mono (fun s v hv => output_mono (Nat.le_of_succ_le_succ hmn) hv) h
    | null | bool | num => exact h
  | .arr _ | .null | .bool _ | .num _ | .str _ =>
    simp only [outputElement] at h ⊢
    obtain ⟨v, hv, h⟩ := bind_eq_ok h
    rw [output_mono hmn hv]
    exact h
termination_by (m, 2 * sizeOf item + 1)
decreasing_by
  all_goals
    first
    | simp [Prod.lex_def]
      done
    | simp [Prod.lex_def] at short ⊢
      omega

end

end Stencil.Template
