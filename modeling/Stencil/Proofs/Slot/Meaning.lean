import Stencil.Proofs.Slot.Grammar

/-!
# What slot text means

A text means what its items mean, one behind the other. A slot means the text of its reference,
folded through the modifiers and replaced by the branches that are chosen, which are slot texts
themselves.
-/

namespace Stencil.Slot

section

variable (registry : Registry) (ctx : Parameter)

def Modifier.apply (value : String) (modifier : Modifier) : Except Error String :=
  Except.mapError .slot <| match modifier with
    | .format spec => .ok (registry.apply spec value)
    | .match_ pattern => firstMatch pattern value
    | .substring range position => Slot.substring value range position

-- `nested` is what text in quotes means.
variable (nested : String → Except Error String)

/-- The branch for a text that is there, or the one for the empty text. -/
def Branches.apply (value : String) (branches : Branches) : Except Error String :=
  nested (branches.choose (!value.isEmpty))

def Test.apply (value : String) (test : Test) : Except Error String := do
  let right ← nested test.comparand
  nested (test.branches.choose (test.op.holds value right))

def Hole.value (h : Hole) : Except Error String := do
  let found ← (ctx.resolve h.reference).mapError .path
  let changed ← h.modifiers.foldlM (Modifier.apply registry) found.text
  let tested ← h.test.elim (pure changed) (Test.apply nested changed)
  h.conditions.foldlM (Branches.apply nested) tested

def Item.value : Item → Except Error String
  | .text s => .ok s
  | .slot h => h.value registry ctx nested

def interpret : List Item → Except Error String
  | [] => .ok ""
  | item :: items => do
    let s ← item.value registry ctx nested
    let rest ← interpret items
    return s ++ rest

end

/-- The text renders to the other one: the text is well formed, and so are the quoted texts that
are chosen in it. -/
inductive Renders (registry : Registry) (ctx : Parameter) : String → String → Prop where
  | mk {text s : String} {items : List Item} {nested : String → Except Error String} :
    IsText text items → (∀ body t, nested body = .ok t → Renders registry ctx body t) →
      interpret registry ctx nested items = .ok s → Renders registry ctx text s

/-! ## Results and errors -/

section

variable {ε ε' α β : Type}

theorem ok_bind (a : α) (f : α → Except ε β) : (Except.ok a >>= f) = f a := rfl

theorem error_bind (e : ε) (f : α → Except ε β) : (Except.error e >>= f) = .error e := rfl

theorem mapError_ok (f : ε → ε') (a : α) : (Except.ok a).mapError f = .ok a := rfl

theorem mapError_error (f : ε → ε') (e : ε) :
    (Except.error e : Except ε α).mapError f = .error (f e) := rfl

theorem mapError_eq_ok {x : Except ε α} {f : ε → ε'} {a : α} :
    x.mapError f = .ok a ↔ x = .ok a := by
  cases x <;> simp [mapError_ok, mapError_error]

end

/-! ## More quoted texts with a meaning -/

theorem Branches.choose_mem (b : Branches) (holds : Bool) : b.choose holds ∈ b.quoted := by
  cases holds <;> simp [choose, quoted]

section

variable {registry : Registry} {ctx : Parameter} {nested nested' : String → Except Error String}
  {s : String}

open Stencil.Path.Reader (bind_eq_ok)

theorem conditions_mono {conditions : List Branches} {value : String}
    (hn : ∀ body ∈ conditions.flatMap Branches.quoted,
      ∀ t, nested body = .ok t → nested' body = .ok t)
    (h : conditions.foldlM (Branches.apply nested) value = .ok s) :
    conditions.foldlM (Branches.apply nested') value = .ok s := by
  induction conditions generalizing value with
  | nil => exact h
  | cons b more ih =>
    rw [List.foldlM_cons] at h ⊢
    obtain ⟨chosen, hchosen, h⟩ := bind_eq_ok h
    have mem : b.choose (!value.isEmpty) ∈ (b :: more).flatMap Branches.quoted :=
      List.mem_append_left _ (b.choose_mem _)
    have hchosen' : Branches.apply nested' value b = .ok chosen := hn _ mem chosen hchosen
    rw [hchosen']
    exact ih (fun body hbody => hn body (List.mem_append_right _ hbody)) h

theorem Item.value_mono {item : Item}
    (hn : ∀ body ∈ item.quoted, ∀ t, nested body = .ok t → nested' body = .ok t)
    (h : item.value registry ctx nested = .ok s) : item.value registry ctx nested' = .ok s := by
  cases item with
  | text => exact h
  | slot hole =>
    obtain ⟨key, modifiers, test, conditions⟩ := hole
    dsimp only [Item.value, Hole.value, Item.quoted] at h hn ⊢
    obtain ⟨found, hfound, h⟩ := bind_eq_ok h
    obtain ⟨changed, hchanged, h⟩ := bind_eq_ok h
    obtain ⟨tested, htested, h⟩ := bind_eq_ok h
    have htested' : test.elim (pure changed) (Test.apply nested' changed) = .ok tested := by
      rcases test with _ | test
      · exact htested
      · obtain ⟨right, hright, hbranch⟩ := bind_eq_ok htested
        have quoted {body : String} (hbody : body ∈ test.quoted) := hn body (by simp [hbody])
        have hright' := quoted List.mem_cons_self right hright
        have hbranch' := quoted (List.mem_cons_of_mem _ (test.branches.choose_mem _)) tested hbranch
        dsimp only [Option.elim, Test.apply]
        rw [hright']
        exact hbranch'
    have h' := conditions_mono (fun body hbody => hn body (List.mem_append_right _ hbody)) h
    rw [hfound, ok_bind, hchanged, ok_bind, htested', ok_bind]
    exact h'

theorem interpret_mono {items : List Item}
    (hn : ∀ item ∈ items, ∀ body ∈ item.quoted, ∀ t, nested body = .ok t → nested' body = .ok t)
    (h : interpret registry ctx nested items = .ok s) :
    interpret registry ctx nested' items = .ok s := by
  induction items generalizing s with
  | nil => exact h
  | cons item items ih =>
    obtain ⟨front, hfront, h⟩ := bind_eq_ok h
    obtain ⟨rest, hrest, h⟩ := bind_eq_ok h
    have hfront' := Item.value_mono (hn item List.mem_cons_self) hfront
    have hrest' := ih (fun item hitem => hn item (List.mem_cons_of_mem _ hitem)) hrest
    rw [interpret, hfront', hrest']
    exact h

end

end Stencil.Slot
