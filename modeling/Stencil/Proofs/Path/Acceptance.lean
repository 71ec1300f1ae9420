import Stencil.Proofs.Path.Faults
import Stencil.Proofs.Path.Language

/-!
# Evaluating the paths of the grammar

Evaluation accepts the paths of the grammar, but for regular expressions that cannot be compiled,
and picks from a document what their steps pick.
-/

namespace Stencil.Path

/-- A path whose regular expressions can be compiled picks what running its steps picks. -/
theorem evaluate_eq_pickFrom {path : String} {steps : List PathStep}
    (hpath : IsPath .longest path steps) (hcompiles : ∀ s ∈ steps, s.Compiles) (root : Json) :
    evaluate root path = .ok (pickFrom root steps).toJson? := by
  refine (evaluate_of_readPath_ok (readPath_eq_ok_iff.2 hpath) root).resolve_right ?_
  rintro ⟨e, -, -, -, hn⟩
  exact hn hcompiles

theorem isPath_matching : IsPath .longest "$.a[?(@ =~ /b/)]"
    [.select (.child "a"),
      .filter (.compare ⟨.current, []⟩ .resembles (.literal (.regex "/b/")))] := by
  have name : Written .longest .propertyName ['a'] ['a'] := .name rfl nofun
  have pattern : IsPattern .longest ['b'] := .plain (by decide) (fun _ => by decide) .nil
  have left : IsReference .longest ⟨.current, []⟩ "@ =~ /b/)]".toList " =~ /b/)]".toList :=
    .mk (.here ['@'] _ rfl trivial) (.nil _)
  have regex : IsSide .longest (.literal (.regex "/b/")) " /b/)]".toList ")]".toList :=
    .regex (.behind_space "/b/".toList _ (.regex pattern nofun) trivial)
  have compared : IsCondition .longest
      (.compare ⟨.current, []⟩ .resembles (.literal (.regex "/b/"))) "@ =~ /b/)]".toList [']'] :=
    .compare left nofun (.behind_space ['=', '~'] _ rfl nofun) regex (.here [')'] _ rfl trivial)
  exact ⟨_, .here ['$'] _ rfl trivial,
    .cons (.select (.child (.here ['.'] _ rfl trivial) (.here ['a'] _ name fun _ => rfl)))
      (.cons (.filter (.here ['['] _ rfl trivial) (.here ['?', '('] _ rfl trivial) compared
        (.here [']'] _ rfl trivial)) (.nil _))⟩

theorem evaluate_eq_pickFrom_matching :
    (∀ s ∈ [PathStep.select (.child "a"),
      .filter (.compare ⟨.current, []⟩ .resembles (.literal (.regex "/b/")))], s.Compiles) ∧
    evaluate (.obj [("a", .arr [.str "b", .str "c"])]) "$.a[?(@ =~ /b/)]" =
      .ok (pickFrom (.obj [("a", .arr [.str "b", .str "c"])]) [.select (.child "a"),
        .filter (.compare ⟨.current, []⟩ .resembles (.literal (.regex "/b/")))]).toJson? := by
  have compiles : ∀ s ∈ [PathStep.select (.child "a"),
      .filter (.compare ⟨.current, []⟩ .resembles (.literal (.regex "/b/")))], s.Compiles := by
    have regex : (Regex.compileLiteral "/b/").isOk = true := by decide +kernel
    rintro s (_ | ⟨_, _ | ⟨_, ⟨⟩⟩⟩)
    · trivial
    · exact regex
  exact ⟨compiles, evaluate_eq_pickFrom isPath_matching compiles _⟩

/-- Evaluation accepts exactly the paths of the grammar in which every token goes as far as it can,
or stops at a regular expression. None of them is outside the literal grammar. -/
theorem evaluate_accepts (path : String) (root : Json) :
    ((∃ steps, IsPath .longest path steps) →
      (∃ v, evaluate root path = .ok v) ∨ ∃ e, evaluate root path = .error e ∧ e.OnRegex) ∧
    ((¬ ∃ steps, IsPath .longest path steps) → ∃ e, evaluate root path = .error e) ∧
    ∀ steps, IsPath .longest path steps → IsPath .literal path steps := by
  refine ⟨?_, fun hpath => ?_, fun steps => IsPath.literal⟩
  · rintro ⟨steps, hpath⟩
    rcases evaluate_of_readPath_ok (readPath_eq_ok_iff.2 hpath) root with hok | ⟨e, he, hr, -⟩
    · exact .inl ⟨_, hok⟩
    · exact .inr ⟨e, he, hr⟩
  · rcases hread : readPath path with e | steps
    · rcases evaluate_of_readPath_error hread root with he | ⟨f, hf, -⟩
      · exact ⟨e, he⟩
      · exact ⟨f, hf⟩
    · exact absurd ⟨steps, readPath_eq_ok_iff.1 hread⟩ hpath

/-! ## The literal grammar -/

theorem isPath_name_before_operator : IsPath .literal "$[?(@.ain 5)]"
    [.filter (.compare ⟨.current, [.child "a"]⟩ .isIn (.literal (.number ⟨false, 5, 0⟩)))] := by
  have name : Written .literal .propertyName ['a'] ['a'] := .name rfl nofun
  have left : IsReference .literal ⟨.current, [.child "a"]⟩ "@.ain 5)]".toList "in 5)]".toList :=
    .mk (.here ['@'] _ rfl trivial)
      (.cons (.child (.here ['.'] _ rfl trivial) (.here ['a'] _ name nofun)) (.nil _))
  have digit : IsDigits ['5'] := ⟨nofun, List.forall_mem_singleton.2 rfl⟩
  have five : IsDecimal .literal ⟨false, 5, 0⟩ " 5)]".toList ")]".toList :=
    ⟨['5'], .behind_space ['5'] _ (.number (.whole (.inl rfl : IsSign []) digit)) trivial,
      by decide +kernel⟩
  have compared : IsCondition .literal
      (.compare ⟨.current, [.child "a"]⟩ .isIn (.literal (.number ⟨false, 5, 0⟩)))
      "@.ain 5)]".toList [']'] :=
    .compare left nofun (.here ['i', 'n'] _ rfl fun _ => rfl) (.number five)
      (.here [')'] _ rfl trivial)
  exact ⟨_, .here ['$'] _ rfl trivial, .cons (.filter (.here ['['] _ rfl trivial)
    (.here ['?', '('] _ rfl trivial) compared (.here [']'] _ rfl trivial)) (.nil _)⟩

theorem isPath_lone_backslash : IsPath .literal "$[?(@ =~ /a\\/)]"
    [.filter (.compare ⟨.current, []⟩ .resembles (.literal (.regex "/a\\/")))] := by
  have pattern : IsPattern .literal ['a', '\\'] :=
    .plain (by decide) nofun (.plain (by decide) nofun .nil)
  have left : IsReference .literal ⟨.current, []⟩ "@ =~ /a\\/)]".toList " =~ /a\\/)]".toList :=
    .mk (.here ['@'] _ rfl trivial) (.nil _)
  have regex : IsSide .literal (.literal (.regex "/a\\/")) " /a\\/)]".toList ")]".toList :=
    .regex (.behind_space "/a\\/".toList _ (.regex pattern nofun) trivial)
  have compared : IsCondition .literal
      (.compare ⟨.current, []⟩ .resembles (.literal (.regex "/a\\/")))
      "@ =~ /a\\/)]".toList [']'] :=
    .compare left nofun (.behind_space ['=', '~'] _ rfl nofun) regex (.here [')'] _ rfl trivial)
  exact ⟨_, .here ['$'] _ rfl trivial, .cons (.filter (.here ['['] _ rfl trivial)
    (.here ['?', '('] _ rfl trivial) compared (.here [']'] _ rfl trivial)) (.nil _)⟩

theorem not_accepted_of_refused {x : Except PathError (Option Json)}
    (h : (match x with | .ok _ | .error (.invalidRegex _) => true | _ => false) = false) :
    ¬ ((∃ v, x = .ok v) ∨ ∃ e, x = .error e ∧ e.OnRegex) := by
  rintro (⟨v, rfl⟩ | ⟨e, rfl, pattern, rfl⟩) <;> cases h

/-- Neither of them is accepted. -/
theorem evaluate_refuses_literal :
    (∃ steps, IsPath .literal "$[?(@.ain 5)]" steps) ∧
    ¬ ((∃ v, evaluate .null "$[?(@.ain 5)]" = .ok v) ∨
      ∃ e, evaluate .null "$[?(@.ain 5)]" = .error e ∧ e.OnRegex) ∧
    (∃ steps, IsPath .literal "$[?(@ =~ /a\\/)]" steps) ∧
    ¬ ((∃ v, evaluate .null "$[?(@ =~ /a\\/)]" = .ok v) ∨
      ∃ e, evaluate .null "$[?(@ =~ /a\\/)]" = .error e ∧ e.OnRegex) :=
  ⟨⟨_, isPath_name_before_operator⟩, not_accepted_of_refused (by decide +kernel),
    ⟨_, isPath_lone_backslash⟩, not_accepted_of_refused (by decide +kernel)⟩

end Stencil.Path
