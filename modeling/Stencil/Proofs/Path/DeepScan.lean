import Stencil.Proofs.Path.Composing
import Stencil.Proofs.Path.Subtrees

/-!
# Searches in depth

The places inside a value are the positions of its parts at each level, and in the order of a
document a place comes before those inside it. A search in depth for a name finds what is stored
under it in the outermost objects that have it, and the one for all values finds every value below
the first, both in that order and each place once.
-/

namespace Stencil

namespace Json

/-! ## Places -/

/-- The value at a place: the index of a part for each level on the way down. -/
def at? : Json → List Nat → Option Json
  | v, [] => some v
  | v, i :: p => v.parts[i]?.bind fun x => x.at? p

theorem at?_part {v x : Json} {i : Nat} (h : v.parts[i]? = some x) (p : List Nat) :
    v.at? (i :: p) = x.at? p := by
  rw [at?, h]
  rfl

theorem at?_cons_isSome {v : Json} {i : Nat} {p : List Nat} :
    (v.at? (i :: p)).isSome = true ↔ ∃ x, v.parts[i]? = some x ∧ (x.at? p).isSome = true := by
  rw [at?]
  rcases v.parts[i]? with _ | x <;> simp

end Json

namespace Path

/-- What is stored under the name at a place, if an object with that name stands there. -/
def storedAt (name : String) (v : Json) (p : List Nat) : Option Json :=
  (v.at? p).bind fun x => x.get? name

/-- An object at the place has the name, and none of those around it has. -/
structure OutermostOwner (name : String) (v : Json) (p : List Nat) : Prop where
  owns : (storedAt name v p).isSome = true
  outermost : ∀ q, q <+: p → (storedAt name v q).isSome = true → q = p

/-- The values of the wanted places, each place once, in the order of the document. -/
def Lists (wanted : List Nat → Prop) (value : List Nat → Option Json) (xs : List Json) : Prop :=
  ∃ ps : List (List Nat), ps.Pairwise (· < ·) ∧ (∀ p, p ∈ ps ↔ wanted p) ∧
    ps.map value = xs.map some

/-! ## Listing part by part -/

section

variable {wanted : List Nat → Prop} {value : List Nat → Option Json}

theorem Lists.congr {wanted' : List Nat → Prop} {xs : List Json} (h : Lists wanted value xs)
    (hwanted : ∀ p, wanted p ↔ wanted' p) : Lists wanted' value xs := by
  obtain ⟨ps, hsorted, hmem, hvalues⟩ := h
  exact ⟨ps, hsorted, fun p => (hmem p).trans (hwanted p), hvalues⟩

theorem lists_nothing (hwanted : ∀ p, ¬ wanted p) : Lists wanted value [] := by
  refine ⟨[], .nil, ?_, rfl⟩
  intro p
  simp [hwanted p]

theorem lists_single (hwanted : ∀ p, wanted p ↔ p = []) {x : Json} (hvalue : value [] = some x) :
    Lists wanted value [x] := by
  refine ⟨[[]], List.pairwise_singleton _ _, ?_, by simp [hvalue]⟩
  intro p
  rw [hwanted, List.mem_singleton]

theorem Lists.append {others : List Nat → Prop} {xs ys : List Json} (hx : Lists wanted value xs)
    (hy : Lists others value ys) (hbefore : ∀ p q, wanted p → others q → p < q) :
    Lists (fun p => wanted p ∨ others p) value (xs ++ ys) := by
  obtain ⟨ps, hsorted, hmem, hvalues⟩ := hx
  obtain ⟨qs, hsorted', hmem', hvalues'⟩ := hy
  refine ⟨ps ++ qs, ?_, ?_, ?_⟩
  · apply List.pairwise_append.2
    refine ⟨hsorted, hsorted', ?_⟩
    intro p hp q hq
    exact hbefore p q ((hmem p).1 hp) ((hmem' q).1 hq)
  · intro p
    rw [List.mem_append, hmem, hmem']
  · rw [List.map_append, List.map_append, hvalues, hvalues']

theorem Lists.cons {xs : List Json} {x : Json}
    (h : Lists (fun p => p ≠ [] ∧ wanted p) value xs) (hroot : wanted [])
    (hvalue : value [] = some x) : Lists wanted value (x :: xs) := by
  have here : Lists (fun p => p = []) value [x] := lists_single (fun _ => .rfl) hvalue
  have before : ∀ p q : List Nat, p = [] → (q ≠ [] ∧ wanted q) → p < q := by
    rintro _ q rfl ⟨hq, -⟩
    obtain ⟨i, r, rfl⟩ := List.exists_cons_of_ne_nil hq
    exact List.nil_lt_cons i r
  apply (here.append h before).congr
  intro p
  by_cases hp : p = []
  · simp [hp, hroot]
  · simp [hp]

theorem Lists.inside {inside : List Nat → Prop} {valueIn : List Nat → Option Json} {xs : List Json}
    {n : Nat} (h : Lists inside valueIn xs) (hvalue : ∀ p, value (n :: p) = valueIn p) :
    Lists (fun p => ∃ q, p = n :: q ∧ inside q) value xs := by
  obtain ⟨ps, hsorted, hmem, hvalues⟩ := h
  refine ⟨ps.map (n :: ·), ?_, ?_, ?_⟩
  · apply List.pairwise_map.2
    apply hsorted.imp
    intro p q hpq
    exact List.cons_lt_cons_iff.2 (.inr ⟨rfl, hpq⟩)
  · intro p
    rw [List.mem_map]
    constructor
    · rintro ⟨q, hq, rfl⟩
      exact ⟨q, rfl, (hmem q).1 hq⟩
    · rintro ⟨q, rfl, hq⟩
      exact ⟨q, (hmem q).2 hq, rfl⟩
  · rw [List.map_map, ← hvalues]
    apply List.map_congr_left
    intro p _
    exact hvalue p

theorem lists_flatMap {inside : Json → List Nat → Prop} {valueIn : Json → List Nat → Option Json}
    {f : Json → List Json} (xs : List Json) (n : Nat)
    (hf : ∀ x ∈ xs, Lists (inside x) (valueIn x) (f x))
    (hvalue : ∀ i x, xs[i]? = some x → ∀ p, value ((n + i) :: p) = valueIn x p) :
    Lists (fun p => ∃ i q x, p = (n + i) :: q ∧ xs[i]? = some x ∧ inside x q) value
      (xs.flatMap f) := by
  -- The number of the first part grows along the list, and with it all places behind it.
  induction xs generalizing n with
  | nil =>
    apply lists_nothing
    rintro p ⟨i, q, x, -, hx, -⟩
    simp at hx
  | cons x xs ih =>
    have shift (i : Nat) : n + 1 + i = n + (i + 1) := by omega
    have first : Lists (fun p => ∃ q, p = n :: q ∧ inside x q) value (f x) :=
      (hf x List.mem_cons_self).inside (hvalue 0 x rfl)
    have later : ∀ i y, xs[i]? = some y → ∀ p, value ((n + 1 + i) :: p) = valueIn y p := by
      intro i y hy
      rw [shift]
      exact hvalue (i + 1) y (by simpa using hy)
    have more := ih (n + 1) (fun y hy => hf y (List.mem_cons_of_mem x hy)) later
    have before : ∀ p q, (∃ r, p = n :: r ∧ inside x r) →
        (∃ i r y, q = (n + 1 + i) :: r ∧ xs[i]? = some y ∧ inside y r) → p < q := by
      rintro _ _ ⟨r, rfl, -⟩ ⟨i, r', y, rfl, -, -⟩
      exact List.cons_lt_cons_iff.2 (.inl (by omega))
    rw [List.flatMap_cons]
    apply (first.append more before).congr
    intro p
    constructor
    · rintro (⟨q, rfl, hq⟩ | ⟨i, q, y, rfl, hy, hq⟩)
      · exact ⟨0, q, x, rfl, rfl, hq⟩
      · exact ⟨i + 1, q, y, by rw [shift], by simpa using hy, hq⟩
    · rintro ⟨i, q, y, rfl, hy, hq⟩
      cases i with
      | zero =>
        obtain rfl : x = y := by simpa using hy
        exact .inl ⟨q, rfl, hq⟩
      | succ i => exact .inr ⟨i, q, y, by rw [shift], by simpa using hy, hq⟩

theorem lists_parts {inside : Json → List Nat → Prop} {valueIn : Json → List Nat → Option Json}
    {f : Json → List Json} (v : Json) (hf : ∀ x ∈ v.parts, Lists (inside x) (valueIn x) (f x))
    (hvalue : ∀ i x, v.parts[i]? = some x → ∀ p, value (i :: p) = valueIn x p) :
    Lists (fun p => ∃ i q x, p = i :: q ∧ v.parts[i]? = some x ∧ inside x q) value
      (v.parts.flatMap f) := by
  simpa using lists_flatMap v.parts 0 hf fun i x hx p => by simpa using hvalue i x hx p

end

/-! ## The search for a name -/

section

variable {name : String} {v x : Json} {i : Nat}

theorem storedAt_part (h : v.parts[i]? = some x) (p : List Nat) :
    storedAt name v (i :: p) = storedAt name x p := by
  rw [storedAt, Json.at?_part h, storedAt]

theorem outermostOwner_root {w : Json} (h : v.get? name = some w) (p : List Nat) :
    OutermostOwner name v p ↔ p = [] := by
  have root : (storedAt name v []).isSome = true := by
    show (v.get? name).isSome = true
    rw [h]
    rfl
  constructor
  · intro hp
    exact (hp.outermost [] List.nil_prefix root).symm
  · rintro rfl
    exact ⟨root, fun q hq _ => List.prefix_nil.1 hq⟩

theorem outermostOwner_parts (h : v.get? name = none) (p : List Nat) :
    OutermostOwner name v p ↔
      ∃ i q x, p = i :: q ∧ v.parts[i]? = some x ∧ OutermostOwner name x q := by
  have root : (storedAt name v []).isSome = false := by
    show (v.get? name).isSome = false
    rw [h]
    rfl
  constructor
  · rintro ⟨howns, houter⟩
    cases p with
    | nil =>
      rw [root] at howns
      cases howns
    | cons i q =>
      rcases hx : v.parts[i]? with _ | x
      · rw [storedAt, Json.at?, hx] at howns
        cases howns
      rw [storedAt_part hx] at howns
      refine ⟨i, q, x, rfl, hx, howns, fun r hr hstored => ?_⟩
      have inner : i :: r = i :: q :=
        houter (i :: r) ((List.prefix_cons_inj i).2 hr) (by rwa [storedAt_part hx])
      exact (List.cons.inj inner).2
  · rintro ⟨i, q, x, rfl, hx, howns, houter⟩
    refine ⟨by rwa [storedAt_part hx], fun r hr hstored => ?_⟩
    rcases List.prefix_cons_iff.1 hr with rfl | ⟨r', rfl, hr'⟩
    · rw [root] at hstored
      cases hstored
    · rw [storedAt_part hx] at hstored
      rw [houter r' hr' hstored]

end

theorem deepScan_lists (name : String) (v : Json) :
    Lists (OutermostOwner name v) (storedAt name v) (deepScan name v) := by
  induction v using Json.parts_induction with
  | step v ih =>
    rw [deepScan_eq]
    split
    · next w hw => exact lists_single (outermostOwner_root hw) hw
    · next hnone =>
      have parts := lists_parts v ih fun i x hx p => storedAt_part hx p
      exact parts.congr fun p => (outermostOwner_parts hnone p).symm

/-! ## The search for all values -/

theorem below_iff (v : Json) (p : List Nat) :
    (p ≠ [] ∧ (v.at? p).isSome = true) ↔
      ∃ i q x, p = i :: q ∧ v.parts[i]? = some x ∧ (x.at? q).isSome = true := by
  cases p with
  | nil => simp
  | cons i q =>
    rw [Json.at?_cons_isSome]
    constructor
    · rintro ⟨-, x, hx, hq⟩
      exact ⟨i, q, x, rfl, hx, hq⟩
    · rintro ⟨_, _, x, h, hx, hq⟩
      cases h
      exact ⟨List.cons_ne_nil i q, x, hx, hq⟩

theorem descendants_lists (v : Json) :
    Lists (fun p => p ≠ [] ∧ (v.at? p).isSome = true) v.at? (descendants v) := by
  induction v using Json.parts_induction with
  | step v ih =>
    have each : ∀ x ∈ v.parts,
        Lists (fun p => (x.at? p).isSome = true) x.at? (x :: descendants x) :=
      fun x hx => (ih x hx).cons rfl rfl
    rw [descendants_eq]
    have parts := lists_parts v each fun i x hx p => Json.at?_part hx p
    exact parts.congr fun p => (below_iff v p).symm

/-! ## Evaluation -/

theorem evaluate_deep {name : String} (h : IsPropertyName name) (v : Json) :
    evaluate v ("$.." ++ name) = .ok (some (.arr (deepScan name v))) :=
  evaluate_selector (by simp) (isSteps_deep h) v

theorem evaluate_descendants (v : Json) :
    evaluate v "$..*" = .ok (some (.arr (descendants v))) :=
  evaluate_selector rfl isSteps_descendants v

/-- A search for a name lists what the outermost objects that have it store under it, and the search
for all values lists every place below the first. -/
theorem evaluate_deep_lists (v : Json) :
    (∀ name, IsPropertyName name → ∃ xs, evaluate v ("$.." ++ name) = .ok (some (.arr xs)) ∧
      Lists (OutermostOwner name v) (storedAt name v) xs) ∧
    ∃ xs, evaluate v "$..*" = .ok (some (.arr xs)) ∧
      Lists (fun p => p ≠ [] ∧ (v.at? p).isSome = true) v.at? xs := by
  constructor
  · intro name hname
    exact ⟨_, evaluate_deep hname v, deepScan_lists name v⟩
  · exact ⟨_, evaluate_descendants v, descendants_lists v⟩

/-- An object with the name beside another one, and a third one in a list behind them. -/
def nested : Json :=
  .obj [("x", .obj [("b", .obj [("a", .bool false)]), ("a", .obj [("a", .null)])]),
    ("y", .arr [.obj [("a", .bool true)]])]

-- The first of them hides the second and what it stores, the third is found.
theorem evaluate_deep_lists_nested :
    IsPropertyName "a" ∧
    evaluate nested "$..a" = .ok (some (.arr [.obj [("a", .null)], .bool true])) ∧
    Lists (OutermostOwner "a" nested) (storedAt "a" nested) [.obj [("a", .null)], .bool true] := by
  have name : IsPropertyName "a" := by decide
  have scanned : deepScan "a" nested = [.obj [("a", .null)], .bool true] := by
    simp [nested, deepScan, deepScanMembers, deepScanItems, Entries.find?]
  have found := evaluate_deep name nested
  obtain ⟨xs, hxs, hlists⟩ := (evaluate_deep_lists nested).1 "a" name
  rw [hxs, scanned] at found
  cases found
  exact ⟨name, by simpa using hxs, hlists⟩

end Path

end Stencil
