import Stencil.Proofs.Path.Composing
import Stencil.Proofs.Path.Subtrees

/-!
# Names of the items of an array

A name behind an array means what it means behind each of its items: the values found there are put
together, arrays among them flattened once. This is the same whether all items are asked for first.
-/

namespace Stencil.Path

/-- The values of what was found, flattened once: an array stands for its items. -/
def spread : Option Json → List Json
  | none => []
  | some (.arr xs) => xs
  | some v => [v]

theorem flat_eq_spread (sel : Selection) : sel.flat = spread sel.toJson? := by
  cases sel with
  | single v => cases v <;> rfl
  | undefined | multi => rfl

section

variable {name : String}

theorem property_toJson? {v : Json} (h : ∀ xs, v ≠ .arr xs) :
    (property name v).toJson? = v.get? name := by
  cases v with
  | obj ms =>
    rw [property, Json.get?]
    rcases Entries.find? ms name with _ | w <;> rfl
  | arr xs => exact absurd rfl (h xs)
  | null | bool | num | str => simp [property, Json.get?, Selection.toJson?]

theorem property_arr (name : String) (xs : List Json) :
    (property name (.arr xs)).toJson? =
      some (.arr (xs.flatMap fun x => spread (property name x).toJson?)) := by
  have items (x : Json) : (property name x).flat = spread (property name x).toJson? :=
    flat_eq_spread _
  rw [property, propertyItems_eq]
  simp only [items]
  rfl

theorem evaluate_all {path text : String} {s : Selector}
    (hpath : path.toList = '$' :: ("[*]" ++ text).toList)
    (h : IsSteps .longest text [.select s]) (xs : List Json) :
    evaluate (.arr xs) path =
      .ok (some (.arr (xs.flatMap fun x => spread (s.pick x).toJson?))) := by
  have steps : IsSteps .longest ("[*]" ++ text) [.select .children, .select s] :=
    isSteps_all.append h
  have items (x : Json) : (s.pick x).flat = spread (s.pick x).toJson? := flat_eq_spread _
  have picked : pickFrom (.arr xs) [.select .children, .select s] =
      .multi (xs.flatMap fun x => (s.pick x).flat) := rfl
  rw [evaluate_steps hpath steps (by simp [PathStep.Compiles]), picked]
  simp only [items]
  rfl

/-- In an array a name finds what it finds in the items, flattened once, with and without a wildcard
in front of it and however it is written. -/
theorem evaluate_projection (hquote : '\'' ∉ name.toList) :
    ∃ found : Json → Option Json,
      (∀ v, evaluate v ("$['" ++ name ++ "']") = .ok (found v)) ∧
      (∀ v, (∀ xs, v ≠ .arr xs) → found v = v.get? name) ∧
      ∀ xs, found (.arr xs) = some (.arr (xs.flatMap fun x => spread (found x))) ∧
        evaluate (.arr xs) ("$[*]['" ++ name ++ "']") = .ok (found (.arr xs)) ∧
        (IsPropertyName name → evaluate (.arr xs) ("$." ++ name) = .ok (found (.arr xs)) ∧
          evaluate (.arr xs) ("$[*]." ++ name) = .ok (found (.arr xs))) := by
  have quoted : IsSteps .longest ("['" ++ name ++ "']") [.select (.names [name])] :=
    isSteps_quoted hquote
  refine ⟨fun v => (property name v).toJson?, ?_, fun v => property_toJson?, ?_⟩
  · exact evaluate_selector (by simp) quoted
  · intro xs
    have collected := property_arr name xs
    refine ⟨collected, ?_, ?_⟩
    · rw [evaluate_all (by simp) quoted]
      exact congrArg Except.ok collected.symm
    · intro hname
      have dotted : IsSteps .longest ("." ++ name) [.select (.child name)] := isSteps_child hname
      constructor
      · exact evaluate_selector (by simp) dotted _
      · rw [evaluate_all (by simp) dotted]
        exact congrArg Except.ok collected.symm

end

/-- An object with a list, a nested array with an empty one in it, and an object without the
name. -/
def mixed : List Json :=
  [.obj [("a", .arr [.null, .arr [.str "b"]])], .arr [.obj [("a", .bool true)], .arr []], .obj []]

-- Of what stands under the name only the list in the first object is taken apart.
theorem evaluate_projection_mixed :
    '\'' ∉ "a".toList ∧ IsPropertyName "a" ∧
    evaluate (.arr mixed) "$.a" = .ok (some (.arr [.null, .arr [.str "b"], .bool true])) ∧
    evaluate (.arr mixed) "$[*]['a']" = .ok (some (.arr [.null, .arr [.str "b"], .bool true])) := by
  have unquoted : '\'' ∉ "a".toList := by decide
  have name : IsPropertyName "a" := by decide
  obtain ⟨found, -, hmember, hitems⟩ := evaluate_projection unquoted
  obtain ⟨-, hall, hname⟩ := hitems mixed
  have collected : found (.arr mixed) = some (.arr [.null, .arr [.str "b"], .bool true]) := by
    have member (ms : Json.Members) : found (.obj ms) = Entries.find? ms "a" :=
      hmember (.obj ms) nofun
    have items (xs : List Json) := (hitems xs).1
    simp [mixed, items, member, spread, Entries.find?]
  rw [collected] at hall hname
  exact ⟨unquoted, name, by simpa using (hname name).1, by simpa using hall⟩

end Stencil.Path
