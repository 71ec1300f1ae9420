import Stencil.Parameter.Store
import Stencil.Proofs.Template.Documents

/-!
# Fields of objects as named values

The fields of an object that are added to a store are put into it one by one, null fields left out.
-/

namespace Stencil.Entries

theorem find?_eq_none {α : Type} {es : Entries α} {name : String} (h : name ∉ names es) :
    find? es name = none := by
  induction es with
  | nil => rfl
  | cons e es ih =>
    obtain ⟨k, v⟩ := e
    unfold names at h
    rw [List.map_cons, List.mem_cons, not_or] at h
    rw [find?, if_neg fun hk => h.1 hk.symm, ih h.2]

end Stencil.Entries

namespace Stencil.Store

open Template (foldl_insert_of_nodup)

/-- The fields that have values, with these. -/
def fieldValues (ms : Json.Members) : Entries Value :=
  ms.filterMap fun m => (ofField m.2).map fun v => (m.1, v)

theorem fieldValues_cons (name : String) (v : Json) (ms : Json.Members) :
    fieldValues ((name, v) :: ms) =
      ((ofField v).map fun value => (name, value)).toList ++ fieldValues ms := by
  unfold fieldValues
  rw [List.filterMap_cons]
  cases ofField v <;> rfl

theorem addFields_entries (s : Store) (ms : Json.Members) :
    (s.addFields ms).values.entries =
      (fieldValues ms).foldl (fun es e => Entries.insert es e.1 e.2) s.values.entries := by
  induction ms generalizing s with
  | nil => rfl
  | cons m ms ih =>
    obtain ⟨name, v⟩ := m
    rw [addFields, fieldValues_cons]
    rcases ofField v with _ | value
    · exact ih s
    · exact ih (s.add name value)

theorem names_fieldValues (ms : Json.Members) :
    (Entries.names (fieldValues ms)).Sublist (Entries.names ms) := by
  induction ms with
  | nil => exact .slnil
  | cons m ms ih =>
    obtain ⟨name, v⟩ := m
    rw [fieldValues_cons]
    rcases ofField v with _ | value
    · exact ih.cons name
    · exact ih.cons_cons name

theorem find?_fieldValues {ms : Json.Members} (h : (Entries.names ms).Nodup) (name : String) :
    Entries.find? (fieldValues ms) name = (Entries.find? ms name).bind ofField := by
  induction ms with
  | nil => rfl
  | cons m ms ih =>
    obtain ⟨k, v⟩ := m
    have split := List.nodup_cons.1 h
    have rest := ih split.2
    rw [fieldValues_cons, Entries.find?]
    by_cases hk : k = name
    · subst hk
      have gone : Entries.find? (fieldValues ms) k = none :=
        Entries.find?_eq_none fun hmem => split.1 ((names_fieldValues ms).subset hmem)
      rw [if_pos rfl, Option.bind_some]
      rcases ofField v with _ | value
      · exact gone
      · exact if_pos rfl
    · rw [if_neg hk, ← rest]
      rcases ofField v with _ | value
      · rfl
      · exact if_neg hk

/-- The store of an object holds the fields that have values, in their order. -/
theorem extend?_obj {ms : Json.Members} (h : (Entries.names ms).Nodup) :
    ∃ s, empty.extend? (.obj ms) = some s ∧ s.values.entries = fieldValues ms := by
  refine ⟨_, rfl, ?_⟩
  rw [addFields_entries]
  exact foldl_insert_of_nodup (h.sublist (names_fieldValues ms))

end Stencil.Store
