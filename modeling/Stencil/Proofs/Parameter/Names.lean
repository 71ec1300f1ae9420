import Mathlib.Data.List.Basic
import Stencil.Parameter.Scope

/-!
# Names in scopes

A key that is no path finds nothing in a document, so names mean the same in every scope with the
same layers below its object scope.
-/

namespace Stencil

/-- A key that is not a path. -/
def IsName (key : String) : Prop := ∀ c ∈ key.toList.head?, c ≠ '$' ∧ c ≠ '/'

theorem isName_iff (key : String) :
    (key.toList.head?.all fun c => c != '$' && c != '/') = true ↔ IsName key := by
  simp [IsName, Option.all_eq_true]

instance (key : String) : Decidable (IsName key) :=
  decidable_of_decidable_of_iff (isName_iff key)

section

variable {name : String}

theorem Root.lookup_name (h : IsName name) (r : Root) : r.lookup name = .ok .undefined := by
  unfold IsName at h
  unfold Root.lookup
  split
  · next hc => simp [hc] at h
  · next hc => simp [hc] at h
  · rfl

theorem Parameter.resolve_roots (h : IsName name) (rs : List Root) :
    Parameter.resolve name (.roots rs) = .ok .undefined := by
  simp only [Parameter.resolve]
  induction rs with
  | nil => rfl
  | cons r rs ih =>
    rw [Parameter.lastFound, ih]
    exact Root.lookup_name h r

theorem Parameter.resolveLast_concat {p : Parameter} (h : p.resolve name = .ok .undefined)
    (s : Scope) :
    Parameter.resolveLast name (s ++ [p]) = Parameter.resolveLast name s := by
  induction s with
  | nil => simp only [List.nil_append, Parameter.resolveLast, h]
  | cons q s ih => simp only [List.cons_append, Parameter.resolveLast, ih]

theorem Scope.resolve_base (h : IsName name) (s : Scope) :
    s.base.resolve name = s.resolve name := by
  unfold Scope.base
  split
  · next p hp =>
    split
    · next hobject =>
      cases p with
      | roots rs =>
        rw [← List.dropLast_append_getLast? _ hp]
        simp only [List.dropLast_concat]
        exact (Parameter.resolveLast_concat (Parameter.resolve_roots h rs) _).symm
      | store | scope => cases hobject
    · rfl
  · rfl

end

end Stencil
