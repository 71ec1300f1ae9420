import Stencil.Proofs.Path.Grammar
import Stencil.Text.Digits

/-!
# Digits and the numbers they write
-/

namespace Stencil.Text

open Stencil.Path (IsDigits)

theorem isDigits_of_all {ds : List Char} (hne : ds ≠ []) (h : ds.all Char.isDigit = true) :
    IsDigits ds :=
  ⟨hne, List.all_eq_true.1 h⟩

theorem nat?_of_isDigits {ds : List Char} (h : IsDigits ds) : nat? ds = some (natOfDigits ds) := by
  unfold nat?
  rw [if_neg (by simpa using h.1), if_pos (List.all_eq_true.2 h.2)]

theorem nat?_eq_some_iff {cs : List Char} {n : Nat} :
    nat? cs = some n ↔ IsDigits cs ∧ n = natOfDigits cs := by
  constructor
  · intro h
    unfold nat? at h
    split at h
    · cases h
    · next hne =>
      split at h
      · next hall =>
        cases h
        exact ⟨isDigits_of_all (by simpa using hne) hall, rfl⟩
      · cases h
  · rintro ⟨hd, rfl⟩
    exact nat?_of_isDigits hd

end Stencil.Text
