import Stencil.Proofs.Parameter.Names
import Stencil.Template.Expand

/-!
# Chains of templates

An expansion recurses on its template, but a string in the place of a template jumps to the template
that the scope has under it. Such jumps may go round in circles. They do not where every name that a
named template mentions is of a lower rank.
-/

namespace Stencil.Template

/-- A template in a scope. -/
structure Place where
  template : Json
  scope : Scope

/-- The paths find the element. -/
def Finds (scope : Scope) (path : Json) (element : Root) : Prop :=
  ∃ text ∈ pathTexts path, ∃ v, scope.resolve text = .ok v ∧ element ∈ elements v

/-- What an item of an array is expanded through: itself, or what an array template repeats. -/
inductive Needs (scope : Scope) : Json → Place → Prop where
  | plain {item : Json} (h : ∀ ms, item = .obj ms → arrayTemplate? ms = none) :
    Needs scope item ⟨item, scope⟩
  | entry {ms : Json.Members} {path entry : Json} {entries : List Json} {p : Place} :
    arrayTemplate? ms = some (path, .arr entries) → entry ∈ entries → Needs scope entry p →
    Needs scope (.obj ms) p
  | object {ms inner : Json.Members} {path : Json} {element : Root} :
    arrayTemplate? ms = some (path, .obj inner) → Finds scope path element →
    Needs scope (.obj ms) ⟨.obj inner, elementScope scope element⟩
  | named {ms : Json.Members} {path template : Json} {name : String} {element : Root} :
    arrayTemplate? ms = some (path, .str name) →
    namedTemplate? scope name = .ok (some template) → Finds scope path element →
    Needs scope (.obj ms) ⟨template, elementScope scope element⟩

/-- The expansion of the second place goes through the first one. -/
inductive Enters : Place → Place → Prop where
  | member {ms : Json.Members} {scope : Scope} {name : String} {v : Json} :
    (name, v) ∈ ms → Enters ⟨v, scope⟩ ⟨.obj ms, scope⟩
  | item {items : List Json} {scope : Scope} {item : Json} {p : Place} :
    item ∈ items → Needs scope item p → Enters p ⟨.arr items, scope⟩

/-- No chain of templates goes on for ever from the place. -/
def Place.Finite (p : Place) : Prop := Acc Enters p

theorem Place.Finite.leaf {template : Json} {scope : Scope} (hobj : ∀ ms, template ≠ .obj ms)
    (harr : ∀ items, template ≠ .arr items) : Place.Finite ⟨template, scope⟩ := by
  constructor
  rintro p (⟨_⟩ | ⟨_, _⟩)
  · exact absurd rfl (hobj _)
  · exact absurd rfl (harr _)

/-! ## Names in order -/

/-- The strings that stand in the place of a template, anywhere in a template. -/
inductive Mentions : Json → String → Prop where
  | here {ms : Json.Members} {path : Json} {name : String} :
    arrayTemplate? ms = some (path, .str name) → Mentions (.obj ms) name
  | member {ms : Json.Members} {key name : String} {v : Json} :
    (key, v) ∈ ms → Mentions v name → Mentions (.obj ms) name
  | item {items : List Json} {v : Json} {name : String} :
    v ∈ items → Mentions v name → Mentions (.arr items) name

theorem mentions_obj {ms : Json.Members} {name : String} :
    Mentions (.obj ms) name ↔
      (∃ path, arrayTemplate? ms = some (path, .str name)) ∨ ∃ m ∈ ms, Mentions m.2 name := by
  constructor
  · rintro (⟨ht⟩ | ⟨hv, hname⟩)
    · exact .inl ⟨_, ht⟩
    · exact .inr ⟨_, hv, hname⟩
  · rintro (⟨path, ht⟩ | ⟨⟨key, v⟩, hv, hname⟩)
    · exact .here ht
    · exact .member hv hname

theorem mentions_arr {items : List Json} {name : String} :
    Mentions (.arr items) name ↔ ∃ v ∈ items, Mentions v name := by
  constructor
  · rintro ⟨⟩
    exact ⟨_, ‹_›, ‹_›⟩
  · rintro ⟨v, hv, hname⟩
    exact .item hv hname

theorem not_mentions_null {name : String} : ¬ Mentions .null name := nofun

theorem not_mentions_str {text name : String} : ¬ Mentions (.str text) name := nofun

theorem mem_of_find? {ms : Json.Members} {name : String} {v : Json}
    (h : Entries.find? ms name = some v) : (name, v) ∈ ms := by
  induction ms with
  | nil => cases h
  | cons m ms ih =>
    obtain ⟨key, w⟩ := m
    rw [Entries.find?] at h
    split at h
    · next hk =>
      cases h
      rw [hk]
      exact .head _
    · exact .tail _ (ih h)

theorem mem_of_arrayTemplate? {ms : Json.Members} {path template : Json}
    (h : arrayTemplate? ms = some (path, template)) : ("template", template) ∈ ms := by
  unfold arrayTemplate? at h
  split at h
  · next ht =>
    cases h
    exact mem_of_find? ht
  · cases h

theorem base_elementScope (s : Scope) (element : Root) :
    (elementScope s element).base = s.base := by
  unfold elementScope
  generalize s.base = below
  simp [Scope.base, Scope.push, Parameter.isObjectScope]

theorem namedTemplate?_base {name : String} (h : IsName name) {s t : Scope}
    (hst : s.base = t.base) :
    namedTemplate? s name = namedTemplate? t name := by
  unfold namedTemplate?
  rw [← Scope.resolve_base h s, hst, Scope.resolve_base h t]

theorem Place.Finite.of_mentioned {scope : Scope} {template : Json}
    (h : ∀ name, Mentions template name → IsName name ∧
      ∀ named, namedTemplate? scope name = .ok (some named) →
        ∀ s : Scope, s.base = scope.base → Place.Finite ⟨named, s⟩)
    (s : Scope) (hs : s.base = scope.base) : Place.Finite ⟨template, s⟩ := by
  induction hn : sizeOf template using Nat.strongRecOn generalizing template s with
  | ind n ih =>
    subst hn
    -- What an item needs is a smaller part of the template, or has been found under a name.
    have needed {item : Json} {p : Place} (hp : Needs s item p)
        (hsize : sizeOf item < sizeOf template)
        (hitem : ∀ name, Mentions item name → Mentions template name) : p.Finite := by
      induction hp with
      | plain =>
        exact ih _ hsize (fun name hname => h name (hitem name hname)) s hs rfl
      | entry ht he _ iih =>
        have short := sizeOf_arrayTemplate? ht
        have shorter := List.sizeOf_lt_of_mem he
        apply iih
        · simp at short hsize
          omega
        · intro name hname
          exact hitem name (.member (mem_of_arrayTemplate? ht) (.item he hname))
      | object ht he =>
        have short := sizeOf_arrayTemplate? ht
        refine ih _ ?_ (fun name hname => ?_) _ ((base_elementScope s _).trans hs) rfl
        · simp at short hsize ⊢
          omega
        · exact h name (hitem name (.member (mem_of_arrayTemplate? ht) hname))
      | named ht hnamed he =>
        obtain ⟨hname, found⟩ := h _ (hitem _ (.here ht))
        rw [namedTemplate?_base hname hs] at hnamed
        exact found _ hnamed _ ((base_elementScope s _).trans hs)
    constructor
    intro p hp
    cases hp with
    | member hv =>
      have short := List.sizeOf_lt_of_mem hv
      refine ih _ ?_ (fun name hname => h name (.member hv hname)) s hs rfl
      simp at short ⊢
      omega
    | item hi hp =>
      have short := List.sizeOf_lt_of_mem hi
      apply needed hp
      · simp
        omega
      · intro name hname
        exact .item hi hname

/-- Templates are finite where each named one mentions only names of lower rank. -/
theorem Place.Finite.of_rank {scope : Scope} (rank : String → Nat)
    (hrank : ∀ name named, namedTemplate? scope name = .ok (some named) →
      ∀ further, Mentions named further → IsName further ∧ rank further < rank name)
    {template : Json} (h : ∀ name, Mentions template name → IsName name) :
    Place.Finite ⟨template, scope⟩ := by
  have named (n : Nat) : ∀ name, rank name = n → ∀ template,
      namedTemplate? scope name = .ok (some template) →
      ∀ s : Scope, s.base = scope.base → Place.Finite ⟨template, s⟩ := by
    induction n using Nat.strongRecOn with
    | ind n ih =>
      rintro name rfl template ht
      apply Place.Finite.of_mentioned
      intro further hfurther
      obtain ⟨hname, lower⟩ := hrank name template ht further hfurther
      exact ⟨hname, ih _ lower further rfl⟩
  apply Place.Finite.of_mentioned _ scope rfl
  intro name hname
  exact ⟨h name hname, named _ name rfl⟩

end Stencil.Template
