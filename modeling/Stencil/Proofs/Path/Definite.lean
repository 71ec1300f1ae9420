import Stencil.Proofs.Parameter.Leaves
import Stencil.Proofs.Path.Attempts
import Stencil.Proofs.Path.Composing
import Stencil.Proofs.Path.Indexing
import Stencil.Proofs.Path.Subtrees
import Stencil.Template.Expand

/-!
# Definite steps

Names that lead through objects and indices that lead through arrays come to one value. From there
on a path does what it does as a path of its own on that value, as long as its expressions do not
look back at the document. So an element of an array template shows below its own dollar sign what
the document shows below the element's place.
-/

namespace Stencil.Path

/-! ## Where definite steps lead -/

/-- The steps lead from the first value to the second, each name from an object to its member and
each index from an array to its item. -/
inductive LeadsTo : List Selector → Json → Json → Prop where
  | here (v : Json) : LeadsTo [] v v
  | member {name : String} {ms : Json.Members} {w v : Json} {qs : List Selector} :
    Entries.find? ms name = some w → LeadsTo qs w v → LeadsTo (.child name :: qs) (.obj ms) v
  | quoted {name : String} {ms : Json.Members} {w v : Json} {qs : List Selector} :
    Entries.find? ms name = some w → LeadsTo qs w v → LeadsTo (.names [name] :: qs) (.obj ms) v
  | item {i : Int} {xs : List Json} {w v : Json} {qs : List Selector} :
    itemAt? xs i = some w → LeadsTo qs w v → LeadsTo (.index i :: qs) (.arr xs) v

theorem property_of_find? {name : String} {ms : Json.Members} {w : Json}
    (h : Entries.find? ms name = some w) : property name (.obj ms) = .single w := by
  rw [property, h]
  rfl

theorem LeadsTo.append {qs ps : List Selector} {u v w : Json} (h : LeadsTo qs u v)
    (hmore : LeadsTo ps v w) : LeadsTo (qs ++ ps) u w := by
  induction h with
  | here => exact hmore
  | member hfind _ ih => exact .member hfind (ih hmore)
  | quoted hfind _ ih => exact .quoted hfind (ih hmore)
  | item hitem _ ih => exact .item hitem (ih hmore)

theorem LeadsTo.attempt_eq {qs : List Selector} {d v : Json} (h : LeadsTo qs d v) (root : Json)
    (ss : List PathStep) :
    attempt root (qs.map .select ++ ss) (.single d) = attempt root ss (.single v) := by
  induction h with
  | here => rfl
  | member hfind _ ih | quoted hfind _ ih =>
    rw [List.map_cons, List.cons_append, attempt_select, Selector.pick, property_of_find? hfind]
    exact ih
  | item hitem _ ih =>
    rw [List.map_cons, List.cons_append, attempt_select, Selector.pick, hitem]
    exact ih

/-! ## Expressions that do not look back -/

/-- The path does not start at the document. -/
def Reference.IsLocal (p : Reference) : Prop := p.origin = .current

def Side.IsLocal : Side → Prop
  | reference p => p.IsLocal
  | literal _ => True

/-- No path of the expression starts at the document. -/
def Condition.IsLocal : Condition → Prop
  | isTruthy left => left.IsLocal
  | isEmpty left => left.IsLocal
  | compare left _ right => left.IsLocal ∧ right.IsLocal

def PathStep.IsLocal : PathStep → Prop
  | select _ => True
  | filter c => c.IsLocal

section

variable (a b : Json)

theorem Reference.IsLocal.value_eq {p : Reference} (h : p.IsLocal) (v : Option Json) :
    p.value a v = p.value b v := by
  unfold Reference.IsLocal at h
  unfold Reference.value
  rw [h]
  rfl

theorem Side.IsLocal.value_eq {side : Side} (h : side.IsLocal) (v : Option Json) :
    side.value a v = side.value b v := by
  cases side with
  | reference p => exact Reference.IsLocal.value_eq a b h v
  | literal o => rfl

theorem Condition.IsLocal.test_eq {c : Condition} (h : c.IsLocal) (v : Option Json) :
    c.test a v = c.test b v := by
  cases c with
  | isTruthy left | isEmpty left =>
    have left_eq := Reference.IsLocal.value_eq a b h v
    simp only [Condition.test, left_eq]
  | compare left op right =>
    have left_eq := h.1.value_eq a b v
    have right_eq := h.2.value_eq a b v
    simp only [Condition.test, left_eq, right_eq]

theorem PathStep.IsLocal.attempt_eq {step : PathStep} (h : step.IsLocal) :
    step.attempt a = step.attempt b := by
  funext v
  cases step with
  | select s => rfl
  | filter c =>
    have test (w : Option Json) : c.test a w = c.test b w := Condition.IsLocal.test_eq a b h w
    show c.attempt a v = c.attempt b v
    unfold Condition.attempt
    simp only [test]

theorem attempt_of_local {ss : List PathStep} (h : ∀ step ∈ ss, step.IsLocal) (sel : Selection) :
    attempt a ss sel = attempt b ss sel := by
  induction ss generalizing sel with
  | nil => rfl
  | cons step ss ih =>
    have step_eq := (h step List.mem_cons_self).attempt_eq a b
    have rest_eq : attempt a ss = attempt b ss :=
      funext fun sel => ih (fun s hs => h s (List.mem_cons_of_mem step hs)) sel
    rw [attempt, attempt, step_eq, rest_eq]

end

/-! ## Cutting off definite steps -/

theorem dollar_append (s : String) : ("$" ++ s).toList = '$' :: s.toList := by simp

theorem evaluate_of_leadsTo {q s : String} {qs : List Selector} {ss : List PathStep} {d v : Json}
    (hq : IsPath .longest q (qs.map .select)) (hv : LeadsTo qs d v) (hs : IsSteps .longest s ss)
    (hlocal : ∀ step ∈ ss, step.IsLocal) : evaluate d (q ++ s) = evaluate v ("$" ++ s) := by
  have long := evaluate_eq_attempt (readPath_eq_ok_iff.2 (hq.append hs)) d
  have short := evaluate_eq_attempt (readPath_eq_ok_iff.2 (hs.isPath (dollar_append s))) v
  rw [long, short, hv.attempt_eq, attempt_of_local d v hlocal]

theorem isSteps_index {index : String} {i : Int} (h : IsInteger index i) :
    IsSteps .longest ("[" ++ index ++ "]") [.select (.index i)] :=
  isSteps_bracket (.index (isIndex_of_isInteger h [']']) (.here [']'] [] rfl trivial))

theorem resolveLast_append (key : String) (ps qs : List Parameter) :
    Parameter.resolveLast key (ps ++ qs) =
      Parameter.later (Parameter.resolveLast key ps) (Parameter.resolveLast key qs) := by
  simp only [Parameter.resolveLast_eq_lastAnswer, Parameter.leavesOf_append, List.map_append,
    Parameter.lastAnswer_append]

theorem resolve_elementScope (scope : Scope) (element : Root) (key : String) :
    (Template.elementScope scope element).resolve key =
      Parameter.later (scope.base.resolve key) (element.lookup key) := by
  have top : Parameter.resolveLast key [.roots [element]] = element.lookup key := rfl
  unfold Template.elementScope Scope.push Scope.resolve
  rw [resolveLast_append, top]

theorem lookup_dollar {key : String} {cs : List Char} (h : key.toList = '$' :: cs) (v : Json) :
    (Root.json v).lookup key =
      (evaluate v key).map fun found => (found.map Value.json).getD .undefined := by
  simp only [Root.lookup, h]
  rcases evaluate v key with e | _ | found <;> rfl

/-- Behind a path any text but a row of steps is refused, unless it goes on with the last name. -/
theorem evaluate_append_error {q s : String} {ss : List PathStep} (hq : IsPath .longest q ss)
    (hs : goesOn s.toList = false) (hnone : ¬ ∃ ts, IsSteps .longest s ts) (root : Json) :
    ∃ e, evaluate root (q ++ s) = .error e := by
  apply evaluate_of_not_isPath
  rintro ⟨ts, hlong⟩
  exact hnone (hq.steps_behind hs hlong)

theorem resolve_element {q s index : String} {qs : List Selector} {ss : List PathStep} {d : Json}
    {xs : List Json} {i : Int} {element : Json} (hq : IsPath .longest q (qs.map .select))
    (hv : LeadsTo qs d (.arr xs)) (hs : IsSteps .longest s ss)
    (hlocal : ∀ step ∈ ss, step.IsLocal) (hindex : IsInteger index i)
    (hitem : itemAt? xs i = some element) (scope : Scope) :
    (Template.elementScope scope (.json element)).resolve ("$" ++ s) =
      Parameter.later (scope.base.resolve ("$" ++ s))
        ((Root.json d).lookup (q ++ ("[" ++ index ++ "]") ++ s)) := by
  have path : IsPath .longest (q ++ ("[" ++ index ++ "]"))
      ((qs ++ [Selector.index i]).map .select) := by
    rw [List.map_append]
    exact hq.append (isSteps_index hindex)
  have leads : LeadsTo (qs ++ [.index i]) d element := hv.append (.item hitem (.here element))
  have same := evaluate_of_leadsTo path leads hs hlocal
  obtain ⟨cs, hcs⟩ : ∃ cs, (q ++ ("[" ++ index ++ "]") ++ s).toList = '$' :: cs := by
    obtain ⟨tail, hroot, -⟩ := path.append hs
    exact ⟨tail, mark_root_iff.1 hroot⟩
  rw [resolve_elementScope, lookup_dollar (dollar_append s), lookup_dollar hcs, same]

/-- Definite steps at the start of a path can be cut off, the value that they lead to taking the
document's place. Steps that do not look back find the same behind them and at the value, and an
element found at an index of an array template's path shows, above what the scope has below it, what
the document shows behind that index. A text that is not a row of steps is refused in both
places. -/
theorem evaluate_definite_prefix {q : String} {qs : List Selector} {d v : Json}
    (hq : IsPath .longest q (qs.map .select)) (hv : LeadsTo qs d v) (s : String) :
    (∀ ss, IsSteps .longest s ss → (∀ step ∈ ss, step.IsLocal) →
      evaluate d (q ++ s) = evaluate v ("$" ++ s) ∧
      ∀ xs index i element, v = .arr xs → IsInteger index i → itemAt? xs i = some element →
        .json element ∈ Template.elements (.json v) ∧
        ∀ scope : Scope,
          (Template.elementScope scope (.json element)).resolve ("$" ++ s) =
            Parameter.later (scope.base.resolve ("$" ++ s))
              ((Root.json d).lookup (q ++ ("[" ++ index ++ "]") ++ s))) ∧
    (goesOn s.toList = false → (¬ ∃ ss, IsSteps .longest s ss) →
      (∃ e, evaluate d (q ++ s) = .error e) ∧ ∃ e, evaluate v ("$" ++ s) = .error e) := by
  constructor
  · intro ss hs hlocal
    refine ⟨evaluate_of_leadsTo hq hv hs hlocal, ?_⟩
    rintro xs index i element rfl hindex hitem
    have found : Root.json element ∈ Template.elements (.json (.arr xs)) :=
      List.mem_map_of_mem (mem_of_itemAt? hitem)
    exact ⟨found, resolve_element hq hv hs hlocal hindex hitem⟩
  · intro hs hnone
    have dollar : IsPath .longest "$" [] := ⟨[], .here ['$'] [] rfl trivial, .nil []⟩
    exact ⟨evaluate_append_error hq hs hnone d, evaluate_append_error dollar hs hnone v⟩

/-- A row with a list of flags. -/
def flags : Json := .obj [("a", .arr [.obj [("b", .bool false)], .obj [("b", .bool true)]])]

-- The list in the second row is filtered alike from the document, from the rows and from the
-- row.
theorem evaluate_definite_prefix_row :
    evaluate (.obj [("rows", .arr [.null, flags])]) "$['rows'].a[?(@.b)]" =
      evaluate (.arr [.null, flags]) "$.a[?(@.b)]" ∧
    (Template.elementScope [] (.json flags)).resolve "$.a[?(@.b)]" =
      (Root.json (.obj [("rows", .arr [.null, flags])])).lookup "$['rows'][1].a[?(@.b)]" := by
  have a : IsPropertyName "a" := by decide
  have b : IsPropertyName "b" := by decide
  have expression : IsExpression .longest "@.b" (.isTruthy ⟨.current, [.child "b"]⟩) :=
    .isTruthy (.mk (.here ['@'] _ rfl trivial) (.cons (b.child true rfl) (.nil _)))
      (.here [')'] [] rfl trivial)
  have steps : IsSteps .longest ".a[?(@.b)]" [.select (.child "a"),
      .filter (.isTruthy ⟨.current, [.child "b"]⟩)] := by
    simpa using (isSteps_child a).append (isSteps_filter expression)
  have unquoted : '\'' ∉ "rows".toList := by decide
  have rows : IsPath .longest "$['rows']" ([.names ["rows"]].map .select) := by
    exact (isSteps_quoted unquoted).isPath (by simp)
  have one : IsInteger "1" 1 := @IsInteger.plain ['1'] ⟨nofun, List.all_eq_true.1 (by decide)⟩
  have leads : LeadsTo [.names ["rows"]] (.obj [("rows", .arr [.null, flags])])
      (.arr [.null, flags]) :=
    .quoted (by simp [Entries.find?]) (.here _)
  have steps_local : ∀ step ∈ [PathStep.select (.child "a"),
      .filter (.isTruthy ⟨.current, [.child "b"]⟩)], step.IsLocal := by
    simp [PathStep.IsLocal, Condition.IsLocal, Reference.IsLocal]
  obtain ⟨same, -⟩ := evaluate_definite_prefix rows leads ".a[?(@.b)]"
  obtain ⟨cut, elements⟩ := same _ steps steps_local
  obtain ⟨-, row⟩ := elements _ "1" 1 flags rfl one rfl
  have below : (Scope.base []).resolve "$.a[?(@.b)]" = .ok .undefined := rfl
  refine ⟨by simpa using cut, ?_⟩
  simpa [below, Parameter.undefined_later] using row []

end Stencil.Path
