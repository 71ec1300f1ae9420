import Stencil.Proofs.Json.Merging
import Stencil.Proofs.Template.Mirroring
import Stencil.Proofs.Template.Unrolling

/-!
# Names that differ

The objects of documents that have been read hold every name once. That carries over to whatever a
scope of such documents resolves to, and to the trees that templates unroll to.
-/

namespace Stencil

/-! ## Parameters -/

def Value.NamesDiffer : Value → Prop
  | json v => Template.NamesDiffer v
  | _ => True

theorem Value.NamesDiffer.toJson {v : Value} (h : v.NamesDiffer) :
    Template.NamesDiffer v.toJson := by
  cases v with
  | number d =>
    show Template.NamesDiffer ((Json.parse? d.text).getD .null)
    cases hd : Json.parse? d.text with
    | none => trivial
    | some v => exact Json.namesDiffer_parse? hd
  | json v => exact h
  | string | bool | html | undefined => trivial

def Root.NamesDiffer : Root → Prop
  | json v => Template.NamesDiffer v
  | html _ => True

theorem Root.NamesDiffer.lookup {r : Root} (h : r.NamesDiffer) {key : String} {v : Value}
    (hv : r.lookup key = .ok v) : v.NamesDiffer := by
  unfold Root.lookup at hv
  split at hv
  · next doc _ _ =>
    split at hv
    · cases hv
    · next found hfound =>
      cases hv
      rcases Path.evaluate_within hfound with within | ⟨xs, rfl, within⟩
      · exact Json.namesDiffer_within h within
      · exact (Json.namesDifferItems_iff xs).2 fun x hx => Json.namesDiffer_within h (within x hx)
    · cases hv
      trivial
  · cases hv
    split <;> trivial
  · cases hv
    trivial

/-- The names differ within every object that the parameter holds. -/
inductive Parameter.NamesDiffer : Parameter → Prop where
  | store {s : Store} : (∀ e ∈ s.values.entries, e.2.NamesDiffer) → NamesDiffer (.store s)
  | roots {rs : List Root} : (∀ r ∈ rs, r.NamesDiffer) → NamesDiffer (.roots rs)
  | scope {entries : List Parameter} : (∀ p ∈ entries, p.NamesDiffer) → NamesDiffer (.scope entries)

namespace Parameter

theorem lastFound_namesDiffer {rs : List Root} (h : ∀ r ∈ rs, r.NamesDiffer) {key : String}
    {v : Value} (hv : lastFound (fun r => r.lookup key) rs = .ok v) : v.NamesDiffer := by
  induction rs generalizing v with
  | nil =>
    cases hv
    trivial
  | cons r rs ih =>
    rw [List.forall_mem_cons] at h
    rw [lastFound] at hv
    split at hv
    · cases hv
    · exact h.1.lookup hv
    · next found _ hfound =>
      cases hv
      exact ih h.2 hfound

mutual

theorem resolve_namesDiffer {p : Parameter} (h : p.NamesDiffer) {key : String} {v : Value}
    (hv : p.resolve key = .ok v) : v.NamesDiffer := by
  match p, h with
  | .store s, .store h =>
    cases hv
    cases hfound : s.get? key with
    | none => trivial
    | some found => exact h (key, found) (Entries.mem_of_find?_eq_some hfound)
  | .roots rs, .roots h => exact lastFound_namesDiffer h hv
  | .scope entries, .scope h => exact resolveLast_namesDiffer h hv

theorem resolveLast_namesDiffer {entries : List Parameter} (h : ∀ p ∈ entries, p.NamesDiffer)
    {key : String} {v : Value} (hv : resolveLast key entries = .ok v) : v.NamesDiffer := by
  match entries with
  | [] =>
    cases hv
    trivial
  | p :: rest =>
    rw [List.forall_mem_cons] at h
    rw [resolveLast] at hv
    split at hv
    · cases hv
    · exact resolve_namesDiffer h.1 hv
    · next found _ hfound =>
      cases hv
      exact resolveLast_namesDiffer h.2 hfound

end

theorem NamesDiffer.layers {p : Parameter} (h : p.NamesDiffer) :
    ∀ layer ∈ p.layers, layer.NamesDiffer := by
  cases h with
  | store h => exact List.forall_mem_singleton.2 (.store h)
  | roots h => exact List.forall_mem_singleton.2 (.roots h)
  | scope h => exact h

end Parameter

namespace Template

/-! ## Scopes and trees -/

/-- The names differ within every object that the scope holds. -/
def ScopeNamesDiffer (scope : Scope) : Prop := ∀ p ∈ scope, p.NamesDiffer

theorem elements_namesDiffer {v : Value} (h : v.NamesDiffer) : ∀ r ∈ elements v, r.NamesDiffer := by
  intro r hr
  cases v with
  | html nodes =>
    obtain ⟨n, -, rfl⟩ := List.mem_map.1 hr
    trivial
  | json v =>
    cases v with
    | arr items =>
      obtain ⟨item, hitem, rfl⟩ := List.mem_map.1 hr
      exact Json.namesDiffer_parts h hitem
    | obj | null | bool | num | str =>
      obtain rfl := List.mem_singleton.1 hr
      exact h
  | number | string | bool | undefined => cases hr

variable {scope : Scope}

theorem ScopeNamesDiffer.element (h : ScopeNamesDiffer scope) {r : Root} (hr : r.NamesDiffer) :
    ScopeNamesDiffer (elementScope scope r) := by
  have below : ∀ p ∈ scope.base, p.NamesDiffer := by
    intro p hp
    unfold Scope.base at hp
    split at hp
    · split at hp
      · exact h p (List.dropLast_subset _ hp)
      · exact h p hp
    · exact h p hp
  intro p hp
  rcases List.mem_append.1 hp with hp | hp
  · exact below p hp
  · obtain rfl := List.mem_singleton.1 hp
    exact .roots (List.forall_mem_singleton.2 hr)

theorem ScopeNamesDiffer.elementScopes? (h : ScopeNamesDiffer scope) {paths : List String}
    {scopes : List Scope} (hs : elementScopes? scope paths = some scopes) :
    ∀ s ∈ scopes, ScopeNamesDiffer s := by
  induction paths generalizing scopes with
  | nil =>
    cases hs
    exact nofun
  | cons path paths ih =>
    rw [elementScopes?_cons] at hs
    split at hs
    · cases hs
    · next v hv =>
      obtain ⟨more, hmore, rfl⟩ := Option.map_eq_some_iff.1 hs
      intro s hs
      rcases List.mem_append.1 hs with hs | hs
      · obtain ⟨r, hr, rfl⟩ := List.mem_map.1 hs
        exact h.element (elements_namesDiffer (Parameter.resolveLast_namesDiffer h hv) r hr)
      · exact ih hmore s hs

theorem ScopeNamesDiffer.named (h : ScopeNamesDiffer scope) {name : String} {named : Json}
    (hn : namedTemplate? scope name = .ok (some named)) : NamesDiffer named := by
  unfold namedTemplate? at hn
  split at hn
  · cases hn
  · next v hv =>
    split at hn
    · cases hn
    · cases hn
      exact (Parameter.resolveLast_namesDiffer h hv).toJson

namespace Unrolled

mutual

/-- The leaves of the tree are scalars, and the names within every object differ. -/
def WellFormed : Unrolled → Prop
  | leaf v _ => isContainer v = false
  | object _ ms => (ms.map Prod.fst).Nodup ∧ WellFormedMembers ms
  | array _ ts => WellFormedItems ts

def WellFormedMembers : List (String × Unrolled) → Prop
  | [] => True
  | (_, t) :: rest => WellFormed t ∧ WellFormedMembers rest

def WellFormedItems : List Unrolled → Prop
  | [] => True
  | t :: rest => WellFormed t ∧ WellFormedItems rest

end

end Unrolled

theorem template_mem_parts {ms : Json.Members} {path template : Json}
    (h : arrayTemplate? ms = some (path, template)) : template ∈ (Json.obj ms).parts := by
  unfold arrayTemplate? at h
  split at h
  · next ht =>
    cases h
    exact Json.mem_parts_of_find? ht
  · cases h

theorem unrollMembers?_names {jumps : Nat} {ms : Json.Members} {ts : List (String × Unrolled)}
    (h : unrollMembers? jumps ms scope = some ts) : ts.map Prod.fst = Entries.names ms := by
  induction ms generalizing ts with
  | nil =>
    rw [unrollMembers?] at h
    cases h
    rfl
  | cons m ms ih =>
    obtain ⟨name, v⟩ := m
    rw [unrollMembers?] at h
    obtain ⟨t, -, h⟩ := Option.bind_eq_some_iff.1 h
    obtain ⟨rest, hrest, h⟩ := Option.bind_eq_some_iff.1 h
    cases h
    exact congrArg (name :: ·) (ih hrest)

theorem wellFormedItems_append {ts us : List Unrolled} (ht : Unrolled.WellFormedItems ts)
    (hu : Unrolled.WellFormedItems us) : Unrolled.WellFormedItems (ts ++ us) := by
  induction ts with
  | nil => exact hu
  | cons t ts ih => exact ⟨ht.1, ih ht.2⟩

theorem mapM_wellFormed {body : Scope → Option Unrolled} {scopes : List Scope}
    (h : ∀ s ∈ scopes, ∀ t, body s = some t → t.WellFormed) {ts : List Unrolled}
    (hts : scopes.mapM body = some ts) : Unrolled.WellFormedItems ts := by
  induction scopes generalizing ts with
  | nil =>
    cases hts
    trivial
  | cons s scopes ih =>
    rw [List.forall_mem_cons] at h
    rw [List.mapM_cons] at hts
    obtain ⟨t, ht, hts⟩ := Option.bind_eq_some_iff.1 hts
    obtain ⟨rest, hrest, hts⟩ := Option.bind_eq_some_iff.1 hts
    cases hts
    exact ⟨h.1 t ht, ih h.2 hrest⟩

-- By induction on the jumps that are left and then on the template, as the definitions recurse.
mutual

/-- Where the names differ in the template and in the scope, the tree is well-formed. -/
theorem unroll?_wellFormed {jumps : Nat} {template : Json} {scope : Scope}
    (h : NamesDiffer template) (hs : ScopeNamesDiffer scope) {t : Unrolled}
    (ht : unroll? jumps template scope = some t) : t.WellFormed := by
  match template with
  | .obj ms =>
    rw [NamesDiffer] at h
    rw [unroll?] at ht
    obtain ⟨ts, hts, rfl⟩ := Option.map_eq_some_iff.1 ht
    refine ⟨?_, unrollMembers?_wellFormed h.2 hs hts⟩
    rw [unrollMembers?_names hts]
    exact h.1
  | .arr items =>
    rw [NamesDiffer] at h
    rw [unroll?] at ht
    obtain ⟨ts, hts, rfl⟩ := Option.map_eq_some_iff.1 ht
    exact unrollItems?_wellFormed h hs hts
  | .null | .bool _ | .num _ | .str _ =>
    simp only [unroll?] at ht
    cases ht
    rfl
termination_by (jumps, 2 * sizeOf template)

theorem unrollMembers?_wellFormed {jumps : Nat} {ms : Json.Members} {scope : Scope}
    (h : NamesDifferMembers ms) (hs : ScopeNamesDiffer scope) {ts : List (String × Unrolled)}
    (hts : unrollMembers? jumps ms scope = some ts) : Unrolled.WellFormedMembers ts := by
  match ms with
  | [] =>
    rw [unrollMembers?] at hts
    cases hts
    trivial
  | (name, v) :: rest =>
    rw [unrollMembers?] at hts
    obtain ⟨t, ht, hts⟩ := Option.bind_eq_some_iff.1 hts
    obtain ⟨us, hus, hts⟩ := Option.bind_eq_some_iff.1 hts
    cases hts
    exact ⟨unroll?_wellFormed h.1 hs ht, unrollMembers?_wellFormed h.2 hs hus⟩
termination_by (jumps, 2 * sizeOf ms)

theorem unrollItems?_wellFormed {jumps : Nat} {items : List Json} {scope : Scope}
    (h : NamesDifferItems items) (hs : ScopeNamesDiffer scope) {ts : List Unrolled}
    (hts : unrollItems? jumps items scope = some ts) : Unrolled.WellFormedItems ts := by
  match items with
  | [] =>
    rw [unrollItems?] at hts
    cases hts
    trivial
  | item :: rest =>
    rw [unrollItems?] at hts
    obtain ⟨front, hfront, hts⟩ := Option.bind_eq_some_iff.1 hts
    obtain ⟨back, hback, hts⟩ := Option.bind_eq_some_iff.1 hts
    cases hts
    exact wellFormedItems_append (unrollItem?_wellFormed h.1 hs hfront)
      (unrollItems?_wellFormed h.2 hs hback)
termination_by (jumps, 2 * sizeOf items)

theorem unrollItem?_wellFormed {jumps : Nat} {item : Json} {scope : Scope}
    (h : NamesDiffer item) (hs : ScopeNamesDiffer scope) {ts : List Unrolled}
    (hts : unrollItem? jumps item scope = some ts) : Unrolled.WellFormedItems ts := by
  match item with
  | .obj ms =>
    rw [unrollItem?_obj] at hts
    rcases ha : arrayTemplate? ms with _ | ⟨path, template⟩ <;> rw [ha] at hts
    · obtain ⟨t, ht, rfl⟩ := Option.map_eq_some_iff.1 hts
      exact ⟨unroll?_wellFormed h hs ht, trivial⟩
    have short := sizeOf_arrayTemplate? ha
    have inner : NamesDiffer template := Json.namesDiffer_parts h (template_mem_parts ha)
    cases template with
    | arr entries =>
      rw [NamesDiffer] at inner
      exact unrollItems?_wellFormed inner hs hts
    | obj inner =>
      obtain ⟨scopes, hscopes, hts⟩ := Option.bind_eq_some_iff.1 hts
      exact mapM_wellFormed
        (fun s hmem t ht => unroll?_wellFormed inner (hs.elementScopes? hscopes s hmem) ht) hts
    | str name =>
      dsimp only at hts
      rcases hn : namedTemplate? scope name with e | _ | named <;> rw [hn] at hts
      · cases hts
      · cases hts
        trivial
      cases jumps with
      | zero => cases hts
      | succ jumps =>
        obtain ⟨scopes, hscopes, hts⟩ := Option.bind_eq_some_iff.1 hts
        exact mapM_wellFormed (fun s hmem t ht =>
          unroll?_wellFormed (hs.named hn) (hs.elementScopes? hscopes s hmem) ht) hts
    | null | bool | num =>
      cases hts
      trivial
  | .arr _ | .null | .bool _ | .num _ | .str _ =>
    simp only [unrollItem?] at hts
    obtain ⟨t, ht, rfl⟩ := Option.map_eq_some_iff.1 hts
    exact ⟨unroll?_wellFormed h hs ht, trivial⟩
termination_by (jumps, 2 * sizeOf item + 1)
decreasing_by
  all_goals
    first
    | simp [Prod.lex_def]
      done
    | simp [Prod.lex_def] at short ⊢
      omega

end

end Template

end Stencil
