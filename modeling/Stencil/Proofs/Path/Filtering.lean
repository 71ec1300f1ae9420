import Stencil.Proofs.Path.Composing

/-!
# Filters over objects

The first filter behind an array of objects tests its items, each further one the objects that are
left, one by one. Either way an expression says the same of an object, so filters pick the objects
of which all their expressions hold, in their order.
-/

namespace Stencil.Path

/-- A document that is an array of objects. -/
def ofObjects (objects : List Json.Members) : Json := .arr (objects.map .obj)

/-- All of the expressions hold of the value. -/
def allHold (root : Json) (cs : List Condition) (x : Json) : Bool :=
  cs.all fun c => c.holds root (some x)

/-- The objects of the document of which all of the expressions hold, in their order. -/
def satisfying (objects : List Json.Members) (cs : List Condition) : List Json :=
  (objects.map .obj).filter (allHold (ofObjects objects) cs)

section

variable (root : Json)

theorem run_filters_undefined (cs : List Condition) :
    run (PathStep.apply root) (cs.map .filter) .undefined = .undefined := by
  induction cs with
  | nil => rfl
  | cons c cs ih => exact ih

theorem run_filters_object (cs : List Condition) (ms : Json.Members) :
    run (PathStep.apply root) (cs.map .filter) (.single (.obj ms)) =
      if allHold root cs (.obj ms) then .single (.obj ms) else .undefined := by
  induction cs with
  | nil => rfl
  | cons c cs ih =>
    have step : run (PathStep.apply root) ((c :: cs).map .filter) (.single (.obj ms)) =
        run (PathStep.apply root) (cs.map .filter)
          (if c.holds root (some (.obj ms)) then .single (.obj ms) else .undefined) := rfl
    rw [step]
    by_cases h : c.holds root (some (.obj ms)) = true
    · rw [if_pos h, ih]
      simp [allHold, h]
    · rw [if_neg h, run_filters_undefined]
      simp [allHold, h]

theorem flatMap_filters (cs : List Condition) (objects : List Json.Members) :
    ((objects.map Json.obj).flatMap fun x =>
        (run (PathStep.apply root) (cs.map .filter) (.single x)).flat) =
      (objects.map .obj).filter (allHold root cs) := by
  induction objects with
  | nil => rfl
  | cons ms objects ih =>
    rw [List.map_cons, List.flatMap_cons, List.filter_cons, ih, run_filters_object]
    by_cases h : allHold root cs (.obj ms) = true
    · rw [if_pos h, if_pos h]
      rfl
    · rw [if_neg h, if_neg h]
      rfl

theorem run_filters_objects (cs : List Condition) (objects : List Json.Members) :
    run (PathStep.apply root) (cs.map .filter) (.multi (objects.map .obj)) =
      .multi ((objects.map .obj).filter (allHold root cs)) := by
  cases cs with
  | nil =>
    have all : (objects.map Json.obj).filter (allHold root []) = objects.map .obj :=
      List.filter_eq_self.2 fun _ _ => rfl
    rw [all]
    rfl
  | cons c cs =>
    rw [← flatMap_filters]
    rfl

end

section

variable (objects : List Json.Members)

theorem pickFrom_filters (c : Condition) (cs : List Condition) :
    pickFrom (ofObjects objects) ((c :: cs).map .filter) =
      .multi (satisfying objects (c :: cs)) := by
  have first : pickFrom (ofObjects objects) ((c :: cs).map .filter) =
      run (PathStep.apply (ofObjects objects)) (cs.map .filter)
        (.multi ((objects.map .obj).filter fun x => c.holds (ofObjects objects) (some x))) := rfl
  have both : satisfying objects (c :: cs) =
      ((objects.map .obj).filter fun x => c.holds (ofObjects objects) (some x)).filter
        (allHold (ofObjects objects) cs) := by
    rw [List.filter_filter]
    exact List.filter_congr fun x _ => Bool.and_comm _ _
  rw [first, both, List.filter_map]
  exact run_filters_objects _ cs _

theorem pickFrom_all_filters (cs : List Condition) :
    pickFrom (ofObjects objects) (.select .children :: cs.map .filter) =
      .multi (satisfying objects cs) :=
  run_filters_objects (ofObjects objects) cs objects

theorem satisfying_swap (c d : Condition) :
    satisfying objects [c, d] = satisfying objects [d, c] := by
  refine List.filter_congr fun x _ => ?_
  simp [allHold, Bool.and_comm]

theorem satisfying_twice (c : Condition) : satisfying objects [c, c] = satisfying objects [c] := by
  refine List.filter_congr fun x _ => ?_
  simp [allHold]

theorem compiles_filters {cs : List Condition} (h : ∀ c ∈ cs, c.Compiles) :
    ∀ s ∈ cs.map PathStep.filter, s.Compiles := by
  intro s hs
  obtain ⟨c, hc, rfl⟩ := List.mem_map.1 hs
  exact h c hc

theorem evaluate_filter_row {path text : String} {c : Condition} {cs : List Condition}
    (hpath : path.toList = '$' :: text.toList)
    (h : IsSteps .longest text ((c :: cs).map .filter)) (hc : ∀ b ∈ c :: cs, b.Compiles) :
    evaluate (ofObjects objects) path = .ok (some (.arr (satisfying objects (c :: cs)))) := by
  rw [evaluate_steps hpath h (compiles_filters hc), pickFrom_filters]
  rfl

end

/-- Filters on an array of objects pick the objects of which their expressions hold, whether or not
all items are asked for first. So filters may trade places, and one that stands twice does no more
than once. -/
theorem evaluate_filters {e f : String} {c d : Condition} (he : IsExpression .longest e c)
    (hf : IsExpression .longest f d) (hc : c.Compiles) (hd : d.Compiles)
    (objects : List Json.Members) :
    evaluate (ofObjects objects) ("$[?(" ++ e ++ ")]") =
      .ok (some (.arr (satisfying objects [c]))) ∧
    evaluate (ofObjects objects) ("$[*][?(" ++ e ++ ")]") =
      .ok (some (.arr (satisfying objects [c]))) ∧
    evaluate (ofObjects objects) ("$[?(" ++ e ++ ")][?(" ++ f ++ ")]") =
      .ok (some (.arr (satisfying objects [c, d]))) ∧
    evaluate (ofObjects objects) ("$[?(" ++ e ++ ")][?(" ++ f ++ ")]") =
      evaluate (ofObjects objects) ("$[?(" ++ f ++ ")][?(" ++ e ++ ")]") ∧
    evaluate (ofObjects objects) ("$[?(" ++ e ++ ")][?(" ++ e ++ ")]") =
      evaluate (ofObjects objects) ("$[?(" ++ e ++ ")]") := by
  have one : evaluate (ofObjects objects) ("$[?(" ++ e ++ ")]") =
      .ok (some (.arr (satisfying objects [c]))) :=
    evaluate_filter_row objects (by simp) (isSteps_filter he) (by simpa using hc)
  have two {a b : String} {x y : Condition} (ha : IsExpression .longest a x)
      (hb : IsExpression .longest b y) (hx : x.Compiles) (hy : y.Compiles) :
      evaluate (ofObjects objects) ("$[?(" ++ a ++ ")][?(" ++ b ++ ")]") =
        .ok (some (.arr (satisfying objects [x, y]))) :=
    evaluate_filter_row objects (by simp) ((isSteps_filter ha).append (isSteps_filter hb))
      (by simp [hx, hy])
  refine ⟨one, ?_, two he hf hc hd, ?_, ?_⟩
  · have steps : IsSteps .longest ("[*]" ++ ("[?(" ++ e ++ ")]"))
        (.select .children :: [c].map .filter) := isSteps_all.append (isSteps_filter he)
    have compiles : ∀ s ∈ PathStep.select .children :: [c].map .filter, s.Compiles :=
      List.forall_mem_cons.2 ⟨trivial, compiles_filters (by simpa using hc)⟩
    rw [evaluate_steps (by simp) steps compiles, pickFrom_all_filters]
    rfl
  · rw [two he hf hc hd, two hf he hd hc, satisfying_swap]
  · rw [two he he hc hc, satisfying_twice, one]

/-- Three records, the first and the last of the same kind, the last without a mark. -/
def kinds : List Json.Members :=
  [[("kind", .str "x"), ("mark", .bool true)], [("kind", .str "y"), ("mark", .bool true)],
    [("kind", .str "x")]]

-- The first record alone has a mark and is of the kind of the first record of the document.
theorem evaluate_filters_kinds :
    evaluate (ofObjects kinds) "$[?(@.mark)][?(@.kind == $[0].kind)]" =
        .ok (some (.arr [.obj [("kind", .str "x"), ("mark", .bool true)]])) ∧
      evaluate (ofObjects kinds) "$[?(@.mark)][?(@.kind == $[0].kind)]" =
        evaluate (ofObjects kinds) "$[?(@.kind == $[0].kind)][?(@.mark)]" := by
  have mark : IsPropertyName "mark" := by decide
  have kind : IsPropertyName "kind" := by decide
  have marked : IsExpression .longest "@.mark" (.isTruthy ⟨.current, [.child "mark"]⟩) :=
    .isTruthy (.mk (.here ['@'] _ rfl trivial) (.cons (mark.child true rfl) (.nil _)))
      (.here [')'] [] rfl trivial)
  have digit : IsDigits ['0'] := ⟨nofun, List.all_eq_true.1 (by decide)⟩
  have zero : IsIndex .longest 0 "0].kind)".toList "].kind)".toList :=
    ⟨['0'], .here ['0'] _ (.number (.whole (.inl rfl : IsSign []) digit)) trivial, rfl⟩
  have left : IsReference .longest ⟨.current, [.child "kind"]⟩ "@.kind == $[0].kind)".toList
      " == $[0].kind)".toList :=
    .mk (.here ['@'] _ rfl trivial) (.cons (kind.child true rfl) (.nil _))
  have right : IsReference .longest ⟨.document, [.index 0, .child "kind"]⟩
      " $[0].kind)".toList [')'] :=
    .mk (.behind_space ['$'] _ rfl trivial)
      (.cons (.bracket (.here ['['] _ rfl trivial) (.index zero (.here [']'] _ rfl trivial)))
        (.cons (kind.child true rfl) (.nil _)))
  have same : IsExpression .longest "@.kind == $[0].kind"
      (.compare ⟨.current, [.child "kind"]⟩ .equal
      (.reference ⟨.document, [.index 0, .child "kind"]⟩)) :=
    .compare left nofun (.behind_space ['=', '='] _ rfl nofun) (.reference right)
      (.here [')'] [] rfl trivial)
  have selected : satisfying kinds [.isTruthy ⟨.current, [.child "mark"]⟩,
      .compare ⟨.current, [.child "kind"]⟩ .equal
        (.reference ⟨.document, [.index 0, .child "kind"]⟩)] =
      [.obj [("kind", .str "x"), ("mark", .bool true)]] := rfl
  obtain ⟨-, -, both, swapped, -⟩ := evaluate_filters marked same trivial trivial kinds
  rw [selected] at both
  exact ⟨by simpa using both, by simpa using swapped⟩

end Stencil.Path
