import Stencil.Proofs.Path.Faults
import Stencil.Parameter.Scope

/-!
# Parameters without their nesting

A parameter comes down to its leaves, the stores and the single document roots in the order in which
they were pushed. A key stands for what the last leaf says that says anything, so nothing but the
leaves matters: scopes may be nested in other ways and roots taken apart.
-/

namespace Stencil

open Stencil.Path (PathError)

/-! ## Leaves -/

/-- A parameter with no layers of its own. -/
inductive Leaf where
  | store (s : Store)
  | root (r : Root)

namespace Leaf

def toParameter : Leaf → Parameter
  | store s => .store s
  | root r => .roots [r]

def resolve (key : String) (leaf : Leaf) : Except PathError Value := leaf.toParameter.resolve key

theorem resolve_root (key : String) (r : Root) : (root r).resolve key = r.lookup key := rfl

end Leaf

namespace Parameter

mutual

/-- The stores and the single roots, the first pushed first. -/
def leaves : Parameter → List Leaf
  | store s => [.store s]
  | roots rs => rs.map .root
  | scope entries => leavesOf entries

def leavesOf : List Parameter → List Leaf
  | [] => []
  | p :: rest => leaves p ++ leavesOf rest

end

theorem leavesOf_append (ps qs : List Parameter) :
    leavesOf (ps ++ qs) = leavesOf ps ++ leavesOf qs := by
  induction ps with
  | nil => rfl
  | cons p ps ih => simp only [List.cons_append, leavesOf, ih, List.append_assoc]

theorem leavesOf_roots (rs : List Root) : leavesOf (rs.map fun r => roots [r]) = rs.map .root := by
  induction rs with
  | nil => rfl
  | cons r rs ih => simp [leavesOf, leaves, ih]

/-! ## The last answer -/

/-- A lookup answers with an error or with a value that is there. -/
def answers : Except PathError Value → Bool
  | .error _ => true
  | .ok v => !v.isUndefined

/-- The outcome of the newer lookup if it answers, or else of the older one. -/
def later (older newer : Except PathError Value) : Except PathError Value :=
  if answers newer then newer else older

/-- The last outcome that is an answer. -/
def lastAnswer (outcomes : List (Except PathError Value)) : Except PathError Value :=
  (outcomes.reverse.find? answers).getD (.ok .undefined)

theorem eq_undefined_of_not_answers {x : Except PathError Value} (h : ¬ answers x = true) :
    x = .ok .undefined := by
  rcases x with e | v
  · exact absurd rfl h
  · cases v <;> first | rfl | exact absurd rfl h

theorem later_undefined (older : Except PathError Value) : later older (.ok .undefined) = older :=
  rfl

theorem undefined_later (newer : Except PathError Value) :
    later (.ok .undefined) newer = newer := by
  unfold later
  by_cases h : answers newer = true
  · rw [if_pos h]
  · rw [if_neg h, eq_undefined_of_not_answers h]

theorem later_assoc (a b c : Except PathError Value) :
    later (later a b) c = later a (later b c) := by
  unfold later
  by_cases hc : answers c = true <;> simp [hc]

theorem lastAnswer_cons (x : Except PathError Value) (xs : List (Except PathError Value)) :
    lastAnswer (x :: xs) = later x (lastAnswer xs) := by
  unfold lastAnswer
  rw [List.reverse_cons, List.find?_append]
  rcases h : xs.reverse.find? answers with _ | y
  · have single : ([x].find? answers).getD (.ok .undefined) = x := by
      by_cases hx : answers x = true
      · simp [hx]
      · rw [eq_undefined_of_not_answers hx]
        rfl
    simpa [later_undefined] using single
  · have hy : answers y = true := List.find?_some h
    simp [later, hy]

theorem lastAnswer_append (xs ys : List (Except PathError Value)) :
    lastAnswer (xs ++ ys) = later (lastAnswer xs) (lastAnswer ys) := by
  induction xs with
  | nil => exact (undefined_later _).symm
  | cons x xs ih => rw [List.cons_append, lastAnswer_cons, ih, lastAnswer_cons, later_assoc]

theorem lastAnswer_of_answers {x : Except PathError Value} (hx : answers x = true)
    (older newer : List (Except PathError Value)) :
    lastAnswer (older ++ x :: newer) = lastAnswer (x :: newer) := by
  have behind : answers (lastAnswer (x :: newer)) = true := by
    rw [lastAnswer_cons, later]
    by_cases h : answers (lastAnswer newer) = true
    · rwa [if_pos h]
    · rwa [if_neg h]
  rw [lastAnswer_append, later, if_pos behind]

/-! ## Resolving through the leaves -/

theorem lastFound_cons {α : Type} (lookup : α → Except PathError Value) (a : α) (rest : List α) :
    lastFound lookup (a :: rest) = later (lookup a) (lastFound lookup rest) := by
  rw [lastFound]
  rcases lastFound lookup rest with e | v
  · rfl
  · cases v <;> rfl

theorem resolveLast_cons (key : String) (p : Parameter) (rest : List Parameter) :
    resolveLast key (p :: rest) = later (p.resolve key) (resolveLast key rest) := by
  rw [resolveLast]
  rcases resolveLast key rest with e | v
  · rfl
  · cases v <;> rfl

theorem resolve_roots_eq (key : String) (rs : List Root) :
    (roots rs).resolve key = lastAnswer (rs.map fun r => (Leaf.root r).resolve key) := by
  simp only [resolve]
  induction rs with
  | nil => rfl
  | cons r rs ih =>
    rw [lastFound_cons, ih, List.map_cons, lastAnswer_cons, Leaf.resolve_root]

mutual

/-- A key stands for what the last leaf answers. -/
theorem resolve_eq_lastAnswer (key : String) :
    ∀ p : Parameter, p.resolve key = lastAnswer (p.leaves.map (Leaf.resolve key))
  | store s => by
    rw [leaves, List.map_singleton, lastAnswer_cons]
    exact (later_undefined _).symm
  | roots rs => by
    rw [leaves, List.map_map]
    exact resolve_roots_eq key rs
  | scope entries => by
    rw [leaves, resolve]
    exact resolveLast_eq_lastAnswer key entries

theorem resolveLast_eq_lastAnswer (key : String) :
    ∀ ps : List Parameter, resolveLast key ps = lastAnswer ((leavesOf ps).map (Leaf.resolve key))
  | [] => rfl
  | p :: rest => by
    rw [leavesOf, List.map_append, lastAnswer_append, ← resolve_eq_lastAnswer key p,
      ← resolveLast_eq_lastAnswer key rest, resolveLast_cons]

end

/-! ## Grouping -/

/-- The same entries in other groups: one or several of them in a scope of their own, or roots that
stood together taken apart, here or anywhere inside. -/
inductive Regroups : Parameter → Parameter → Prop where
  | refl (p : Parameter) : Regroups p p
  | symm {p q : Parameter} : Regroups p q → Regroups q p
  | trans {p q r : Parameter} : Regroups p q → Regroups q r → Regroups p r
  | alone (p : Parameter) : Regroups p (scope [p])
  | nested (before inner after : List Parameter) :
    Regroups (scope (before ++ inner ++ after)) (scope (before ++ scope inner :: after))
  | apart (rs : List Root) : Regroups (roots rs) (scope (rs.map fun r => roots [r]))
  | inside {p q : Parameter} (before after : List Parameter) :
    Regroups p q → Regroups (scope (before ++ p :: after)) (scope (before ++ q :: after))

theorem Regroups.leaves_eq {p q : Parameter} (h : Regroups p q) : p.leaves = q.leaves := by
  induction h with
  | refl => rfl
  | symm _ ih => exact ih.symm
  | trans _ _ ihp ihq => exact ihp.trans ihq
  | alone p => simp [leaves, leavesOf]
  | nested before inner after => simp [leaves, leavesOf, leavesOf_append]
  | apart rs => simp [leaves, leavesOf_roots]
  | inside before after _ ih => simp [leaves, leavesOf, leavesOf_append, ih]

/-- A scope with the leaves of a parameter and no further nesting. -/
def flat (p : Parameter) : Parameter := scope (p.leaves.map Leaf.toParameter)

theorem Regroups.entries {before ps : List Parameter}
    (h : ∀ p ∈ ps, Regroups p p.flat) :
    Regroups (scope (before ++ ps)) (scope (before ++ (leavesOf ps).map Leaf.toParameter)) := by
  induction ps generalizing before with
  | nil => exact .refl _
  | cons p ps ih =>
    have first : Regroups (scope (before ++ p :: ps)) (scope (before ++ p.flat :: ps)) :=
      .inside before ps (h p List.mem_cons_self)
    have opened := (Regroups.nested before (p.leaves.map Leaf.toParameter) ps).symm
    have rest := @ih (before ++ p.leaves.map Leaf.toParameter) fun q hq =>
      h q (List.mem_cons_of_mem p hq)
    rw [leavesOf, List.map_append, ← List.append_assoc]
    exact (first.trans opened).trans rest

mutual

theorem regroups_flat : ∀ p : Parameter, Regroups p p.flat
  | store s => .alone (store s)
  | roots rs => by
    have parts : (roots rs).flat = scope (rs.map fun r => roots [r]) := by
      simp [flat, leaves, Leaf.toParameter, Function.comp_def]
    rw [parts]
    exact .apart rs
  | scope entries => @Regroups.entries [] entries (regroups_flat_entries entries)

theorem regroups_flat_entries : ∀ ps : List Parameter, ∀ p ∈ ps, Regroups p p.flat
  | [] => nofun
  | p :: ps => List.forall_mem_cons.2 ⟨regroups_flat p, regroups_flat_entries ps⟩

end

theorem regroups_iff {p q : Parameter} : Regroups p q ↔ p.leaves = q.leaves := by
  refine ⟨Regroups.leaves_eq, fun h => ?_⟩
  have same : p.flat = q.flat := by rw [flat, flat, h]
  exact (regroups_flat p).trans (same ▸ (regroups_flat q).symm)

/-- What a key stands for is what the last leaf answers, in whatever groups the leaves stand, and a
leaf that answers hides all that is older, errors included. Other groups are all those that have the
same leaves in the same order. -/
theorem resolve_flat (p : Parameter) (key : String) :
    p.resolve key =
        ((p.leaves.map (Leaf.resolve key)).reverse.find? answers).getD (.ok .undefined) ∧
      (∀ q, Regroups p q ↔ p.leaves = q.leaves) ∧
      (∀ q, Regroups p q → q.resolve key = p.resolve key) ∧
      ∀ older leaf newer, p.leaves = older ++ leaf :: newer → answers (leaf.resolve key) = true →
        p.resolve key = lastAnswer ((leaf :: newer).map (Leaf.resolve key)) := by
  refine ⟨resolve_eq_lastAnswer key p, fun q => regroups_iff, fun q h => ?_,
    fun older leaf newer hleaves hleaf => ?_⟩
  · rw [resolve_eq_lastAnswer, resolve_eq_lastAnswer, h.leaves_eq]
  · rw [resolve_eq_lastAnswer, hleaves, List.map_append, List.map_cons]
    exact lastAnswer_of_answers hleaf _ _

-- A document in which the key is a malformed path, and above it a store that has the key as a
-- name.
theorem resolve_flat_above_fault :
    (Leaf.root (.json .null)).resolve "$[" = .error (.unterminated .filter 2) ∧
      (scope [.roots [.json .null],
        scope [.store (Store.empty.add "$[" (.bool true))]]).resolve "$[" = .ok (.bool true) := by
  have fault : Path.evaluate .null "$[" = .error (.unterminated .filter 2) := by
    apply Path.eq_error_of
    decide +kernel
  have found : (Leaf.store (Store.empty.add "$[" (.bool true))).resolve "$[" =
      .ok (.bool true) := rfl
  refine ⟨?_, ?_⟩
  · rw [Leaf.resolve_root]
    simp [Root.lookup, fault]
  · have hides := (resolve_flat (scope [.roots [.json .null],
      scope [.store (Store.empty.add "$[" (.bool true))]]) "$[").2.2.2
    rw [hides [.root (.json .null)] (.store (Store.empty.add "$[" (.bool true))) [] rfl
      (by rw [found]; rfl)]
    exact found

end Parameter

end Stencil
