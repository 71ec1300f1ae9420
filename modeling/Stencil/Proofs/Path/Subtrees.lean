import Stencil.Proofs.Path.Faults
import Stencil.Proofs.Path.Language

/-!
# What paths find

A path makes no values up: what it picks stands in the document as it is. Each selector and each
filter picks subtrees of the value that it is given, so the steps of a path pick subtrees of the
document, and only the array around several of them is new.
-/

namespace Stencil

/-! ## Subtrees -/

namespace Json

/-- The values that stand directly in a value: the items of an array, the members of an object. -/
def parts : Json → List Json
  | .arr xs => xs
  | .obj ms => ms.map Prod.snd
  | _ => []

/-- The value is the document itself or stands in one of its parts. -/
inductive Within (v : Json) : Json → Prop where
  | refl : Within v v
  | part {x doc : Json} : Within v x → x ∈ doc.parts → Within v doc

theorem Within.trans {u v w : Json} (huv : u.Within v) (hvw : v.Within w) : u.Within w := by
  induction hvw with
  | refl => exact huv
  | part _ hx ih => exact .part ih hx

theorem within_of_mem_parts {x v : Json} (h : x ∈ v.parts) : x.Within v := .part .refl h

theorem mem_parts_of_find? {ms : Members} {name : String} {v : Json}
    (h : Entries.find? ms name = some v) : v ∈ (Json.obj ms).parts := by
  induction ms with
  | nil => cases h
  | cons m ms ih =>
    obtain ⟨k, w⟩ := m
    rw [Entries.find?] at h
    split at h
    · cases h
      exact List.mem_cons_self
    · exact List.mem_cons_of_mem _ (ih h)

mutual

theorem parts_induction {P : Json → Prop} (step : ∀ v, (∀ x ∈ v.parts, P x) → P v) :
    ∀ v : Json, P v
  | .arr xs => step _ (items_induction step xs)
  | .obj ms => step _ (members_induction step ms)
  | .null | .bool _ | .num _ | .str _ => step _ nofun

theorem items_induction {P : Json → Prop} (step : ∀ v, (∀ x ∈ v.parts, P x) → P v) :
    ∀ xs : List Json, ∀ x ∈ xs, P x
  | [] => nofun
  | x :: xs => List.forall_mem_cons.2 ⟨parts_induction step x, items_induction step xs⟩

theorem members_induction {P : Json → Prop} (step : ∀ v, (∀ x ∈ v.parts, P x) → P v) :
    ∀ ms : Members, ∀ x ∈ ms.map Prod.snd, P x
  | [] => nofun
  | (_, v) :: ms => List.forall_mem_cons.2 ⟨parts_induction step v, members_induction step ms⟩

end

end Json

namespace Path

/-! ## Searches by parts -/

theorem propertyItems_eq (name : String) (xs : List Json) :
    propertyItems name xs = xs.flatMap fun x => (property name x).flat := by
  induction xs with
  | nil => simp [propertyItems]
  | cons x xs ih => simp [propertyItems, ih]

theorem deepScan_eq (name : String) (v : Json) :
    deepScan name v = match v.get? name with
      | some w => [w]
      | none => v.parts.flatMap (deepScan name) := by
  have items (xs : List Json) : deepScanItems name xs = xs.flatMap (deepScan name) := by
    induction xs with
    | nil => simp [deepScanItems]
    | cons x xs ih => simp [deepScanItems, ih]
  have members (ms : Json.Members) :
      deepScanMembers name ms = (ms.map Prod.snd).flatMap (deepScan name) := by
    induction ms with
    | nil => simp [deepScanMembers]
    | cons m ms ih => simp [deepScanMembers, ih]
  cases v with
  | obj ms => rw [deepScan, members]; rfl
  | arr xs => rw [deepScan, items]; rfl
  | null | bool | num | str => simp [deepScan, Json.get?, Json.parts]

theorem descendants_eq (v : Json) :
    descendants v = v.parts.flatMap fun x => x :: descendants x := by
  have items (xs : List Json) :
      descendantsItems xs = xs.flatMap fun x => x :: descendants x := by
    induction xs with
    | nil => simp [descendantsItems]
    | cons x xs ih => simp [descendantsItems, ih]
  have members (ms : Json.Members) :
      descendantsMembers ms = (ms.map Prod.snd).flatMap fun x => x :: descendants x := by
    induction ms with
    | nil => simp [descendantsMembers]
    | cons m ms ih => simp [descendantsMembers, ih]
  cases v with
  | obj ms => rw [descendants, members]; rfl
  | arr xs => rw [descendants, items]; rfl
  | null | bool | num | str => simp [descendants, Json.parts]

/-! ## Selections of subtrees -/

/-- All values of the selection stand in the document. -/
def Selection.Within (doc : Json) : Selection → Prop
  | undefined => True
  | single v => v.Within doc
  | multi xs => ∀ x ∈ xs, x.Within doc

section

variable {doc v x : Json}

namespace Selection

theorem within_ofOption {found : Option Json} (h : ∀ x ∈ found, x.Within doc) :
    Within doc (.ofOption found) := by
  cases found with
  | none => trivial
  | some x => exact h x rfl

theorem Within.trans {sel : Selection} (h : sel.Within v) (hv : v.Within doc) : sel.Within doc := by
  cases sel with
  | undefined => trivial
  | single w => exact Json.Within.trans h hv
  | multi xs => exact fun x hx => (h x hx).trans hv

theorem Within.flat {sel : Selection} (h : sel.Within doc) : ∀ x ∈ sel.flat, x.Within doc := by
  intro x hx
  cases sel with
  | undefined => cases hx
  | multi xs => exact h x hx
  | single v =>
    have hv : v.Within doc := h
    cases v with
    | arr xs => exact (Json.within_of_mem_parts hx).trans hv
    | null | bool | num | str | obj =>
      obtain rfl : x = _ := List.mem_singleton.1 hx
      exact hv

end Selection

open Selection (within_ofOption)

/-! ## Selectors -/

theorem property_within (name : String) (v : Json) : (property name v).Within v := by
  induction v using Json.parts_induction with
  | step v ih =>
    cases v with
    | obj ms =>
      rw [property]
      exact within_ofOption fun x hx => Json.within_of_mem_parts (Json.mem_parts_of_find? hx)
    | arr xs =>
      rw [property, propertyItems_eq]
      intro x hx
      obtain ⟨y, hy, hxy⟩ := List.mem_flatMap.1 hx
      exact .part ((ih y hy).flat x hxy) hy
    | null | bool | num | str => simp [property, Selection.Within]

theorem children_within (v : Json) : (children v).Within v := by
  cases v with
  | obj ms => exact fun x (hx : x ∈ (Json.obj ms).parts) => Json.within_of_mem_parts hx
  | arr xs => exact fun x (hx : x ∈ (Json.arr xs).parts) => Json.within_of_mem_parts hx
  | null | bool | num | str => trivial

theorem deepScan_within (name : String) (v : Json) : ∀ x ∈ deepScan name v, x.Within v := by
  induction v using Json.parts_induction with
  | step v ih =>
    intro x hx
    rw [deepScan_eq] at hx
    split at hx
    · next w hw =>
      obtain rfl := List.mem_singleton.1 hx
      cases v with
      | obj ms => exact Json.within_of_mem_parts (Json.mem_parts_of_find? hw)
      | null | bool | num | str | arr => cases hw
    · obtain ⟨y, hy, hxy⟩ := List.mem_flatMap.1 hx
      exact .part (ih y hy x hxy) hy

theorem descendants_within (v : Json) : ∀ x ∈ descendants v, x.Within v := by
  induction v using Json.parts_induction with
  | step v ih =>
    intro x hx
    rw [descendants_eq] at hx
    obtain ⟨y, hy, hxy⟩ := List.mem_flatMap.1 hx
    rcases List.mem_cons.1 hxy with rfl | hxy
    · exact Json.within_of_mem_parts hy
    · exact .part (ih y hy x hxy) hy

theorem mem_of_itemAt? {xs : List Json} {i : Int} (h : itemAt? xs i = some x) : x ∈ xs := by
  obtain ⟨p, -, hp⟩ := Option.bind_eq_some_iff.1 h
  exact List.mem_of_getElem? hp

theorem sliceItems_subset (xs : List Json) (start stop : Option Int) :
    sliceItems xs start stop ⊆ xs := by
  intro x hx
  unfold sliceItems at hx
  dsimp only at hx
  split at hx
  · cases hx
  · exact List.mem_of_mem_take (List.mem_of_mem_drop hx)

theorem items_within {xs ys : List Json} (h : ys ⊆ xs) : (Selection.multi ys).Within (.arr xs) :=
  fun x hx => have hmem : x ∈ (Json.arr xs).parts := h hx
    Json.within_of_mem_parts hmem

theorem Selector.pick_within (s : Selector) (v : Json) : (s.pick v).Within v := by
  unfold Selector.pick
  split
  · exact property_within _ v
  · exact children_within v
  · exact deepScan_within _ v
  · exact descendants_within v
  · exact property_within _ v
  · intro x hx
    obtain ⟨name, -, hname⟩ := List.mem_filterMap.1 hx
    exact Json.within_of_mem_parts (Json.mem_parts_of_find? hname)
  · trivial
  · refine within_ofOption fun x hx => ?_
    exact items_within (List.Subset.refl _) x (mem_of_itemAt? hx)
  · trivial
  · refine items_within fun x hx => ?_
    obtain ⟨i, -, hi⟩ := List.mem_filterMap.1 hx
    exact mem_of_itemAt? hi
  · trivial
  · exact items_within (sliceItems_subset _ _ _)
  · trivial

theorem Selector.apply_within (s : Selector) {v : Option Json} (h : ∀ x ∈ v, x.Within doc) :
    (s.apply v).Within doc := by
  cases v with
  | some v => exact (s.pick_within v).trans (h v rfl)
  | none => cases s <;> first | trivial | exact nofun

/-! ## Steps -/

theorem Condition.pick_within (root : Json) (c : Condition) {v : Option Json}
    (h : ∀ x ∈ v, x.Within doc) : (c.pick root v).Within doc := by
  unfold Condition.pick
  split
  · next xs =>
    intro x hx
    have hmem : x ∈ (Json.arr xs).parts := (List.mem_filter.1 hx).1
    exact (Json.within_of_mem_parts hmem).trans (h _ rfl)
  · next ms =>
    split
    · exact h _ rfl
    · trivial
  · trivial

theorem PathStep.apply_within (root : Json) (s : PathStep) {v : Option Json}
    (h : ∀ x ∈ v, x.Within doc) : (s.apply root v).Within doc := by
  cases s with
  | select s => exact s.apply_within h
  | filter c => exact c.pick_within root h

theorem Selection.Within.each {f : Option Json → Selection} {sel : Selection} (h : sel.Within doc)
    (hf : ∀ v : Option Json, (∀ x ∈ v, x.Within doc) → (f v).Within doc) :
    (sel.each f).Within doc := by
  cases sel with
  | undefined => exact hf none nofun
  | single v => exact hf (some v) (by simpa [Selection.Within] using h)
  | multi xs =>
    intro x hx
    obtain ⟨y, hy, hxy⟩ := List.mem_flatMap.1 hx
    have hone : (f (some y)).Within doc := hf (some y) (by simpa using h y hy)
    exact hone.flat x hxy

/-- If every step keeps to the document, so does a run of them. -/
theorem run_within {σ : Type} {apply : σ → Option Json → Selection}
    (happly : ∀ s v, (∀ x ∈ v, x.Within doc) → (apply s v).Within doc) (steps : List σ)
    {sel : Selection} (h : sel.Within doc) : (run apply steps sel).Within doc := by
  induction steps generalizing sel with
  | nil => exact h
  | cons s ss ih => exact h.each fun v hv => ih (happly s v hv)

theorem pickFrom_within (root : Json) (steps : List PathStep) :
    (pickFrom root steps).Within root :=
  run_within (fun s _ => s.apply_within root) steps .refl

/-- What a path finds in a document stands in it, or is an array of values that do. -/
theorem evaluate_within {path : String} (h : evaluate doc path = .ok (some v)) :
    v.Within doc ∨ ∃ xs, v = .arr xs ∧ ∀ x ∈ xs, x.Within doc := by
  obtain ⟨steps, -, hv⟩ := evaluate_eq_ok h
  have found := pickFrom_within doc steps
  cases hsel : pickFrom doc steps <;> rw [hsel] at hv found <;> cases hv
  case single => exact .inl found
  case multi xs => exact .inr ⟨xs, rfl, found⟩

end

def records : Json := .arr [.obj [("a", .arr [.null, .bool true])], .obj [("a", .str "b")]]

-- The items stand in the document, the array around them does not.
theorem evaluate_within_records :
    evaluate records "$.a" = .ok (some (.arr [.null, .bool true, .str "b"])) ∧
      ((Json.arr [.null, .bool true, .str "b"]).Within records ∨
        ∃ xs, Json.arr [.null, .bool true, .str "b"] = .arr xs ∧ ∀ x ∈ xs, x.Within records) := by
  have name : Written .longest .propertyName ['a'] ['a'] := .name rfl nofun
  have steps : IsPath .longest "$.a" [.select (.child "a")] :=
    ⟨_, .here ['$'] _ rfl trivial,
      .cons (.select (.child (.here ['.'] _ rfl trivial) (.here ['a'] _ name fun _ => rfl)))
        (.nil _)⟩
  have found := (evaluate_of_readPath_ok (readPath_eq_ok_iff.2 steps) records).resolve_right
    fun ⟨_, _, _, _, hregex⟩ => hregex (List.forall_mem_singleton.2 trivial)
  exact ⟨found, evaluate_within found⟩

end Path

end Stencil
