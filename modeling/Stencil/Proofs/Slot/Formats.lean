import Stencil.Proofs.Number.Writing
import Stencil.Slot.Registry

/-!
# Formats by letter and precision

A numeric format is named by its letter and at most two digits. A registry applies it to every text
that it fits, unless an operation has that name, and the registry of built-in operations has none.
-/

namespace Stencil.Slot

open Text (natOfDigits)

/-- The digits of a precision, none where the format has its own. -/
def IsPrecision (ds : List Char) : Prop := ds.length ≤ 2 ∧ ds.all Char.isDigit = true

instance (ds : List Char) : Decidable (IsPrecision ds) := inferInstanceAs (Decidable (_ ∧ _))

/-- The precision that the digits write. -/
def precisionOf (ds : List Char) : Option Nat := if ds.isEmpty then none else some (natOfDigits ds)

/-- The name of a numeric format. -/
def specOf (letter : Char) (ds : List Char) : String := String.ofList (letter :: ds)

section

variable {letter : Char} {ds : List Char} {kind : FormatKind} {f : NumericFormat} {spec : String}

theorem parse?_specOf (hds : IsPrecision ds) (hletter : FormatKind.ofLetter? letter = some kind) :
    NumericFormat.parse? (specOf letter ds) = some ⟨kind, precisionOf ds⟩ := by
  unfold NumericFormat.parse? specOf precisionOf
  unfold IsPrecision at hds
  rw [String.toList_ofList]
  simp only [hletter, if_pos hds]
  split <;> rfl

theorem builtin_get?_numeric (h : NumericFormat.parse? spec = some f) :
    Registry.builtin.get? spec = none := by
  refine List.find?_eq_none.2 fun op hop hname => ?_
  obtain rfl : op.name = spec := by simpa using hname
  rcases List.mem_pair.1 hop with rfl | rfl <;> cases h

theorem written?_empty (f : NumericFormat) : f.written? "" = none := by
  obtain ⟨kind, precision⟩ := f
  cases kind <;> rfl

theorem apply_numeric {r : Registry} (hr : r.get? spec = none)
    (hf : NumericFormat.parse? spec = some f) (value : String) :
    r.apply spec value = (f.written? value).getD value := by
  unfold Registry.apply
  rw [hr, hf]
  dsimp only
  split
  · next hempty =>
    obtain rfl := String.isEmpty_iff.1 hempty
    rw [written?_empty]
    rfl
  · rfl

end

end Stencil.Slot
