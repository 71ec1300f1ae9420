import Stencil.Proofs.Path.Prefixes
import Stencil.Proofs.Slot.Lexing

/-!
# References to a document

A reference that starts with a dollar sign is cut out of the text of a slot as the path that stands
there, so that it can be read to its end wherever it is evaluated.
-/

namespace Stencil.Slot

open Stencil.Path (Complete Continues)
open Text (byteLength)

namespace Lexer

variable {l m : Lexer} {key : String}

/-! Only where a reference is expected one is read. -/

theorem readText_ne_reference : l.readText ≠ (.ok (some (.reference key)), m) := by
  unfold readText
  split
  case h_4 =>
    split
    · split <;> simp [emit]
    · simp [emit]
  all_goals simp [emit]

theorem readModifier_ne_reference : l.readModifier ≠ (.ok (some (.reference key)), m) := by
  unfold readModifier
  dsimp only
  split
  case h_4 => unfold readMatch; split <;> simp [emit]
  case h_5 => unfold readSubstring; dsimp only; split <;> simp [emit]
  case h_6 => unfold readFormat; dsimp only; split <;> simp [emit]
  case h_7 =>
    split
    · unfold readOperator
      split <;> simp [emit, fail]
    · simp [fail]
  all_goals simp [emit, fail]

theorem readLiteral_ne_reference : l.readLiteral ≠ (.ok (some (.reference key)), m) := by
  unfold readLiteral
  dsimp only
  split
  case h_2 => split <;> simp [emit, fail]
  all_goals simp [fail]

theorem readAfterLiteral_ne_reference :
    l.readAfterLiteral ≠ (.ok (some (.reference key)), m) := by
  unfold readAfterLiteral
  split
  · simp [fail]
  · dsimp only
    split <;> simp [emit, fail]

theorem readReference_of_next (h : l.next = (.ok (some (.reference key)), m)) :
    l.readReference = (.ok (some (.reference key)), m) := by
  unfold next at h
  split at h
  case h_4 => exact h
  all_goals first
    | exact absurd h readText_ne_reference
    | exact absurd h readModifier_ne_reference
    | exact absurd h readLiteral_ne_reference
    | exact absurd h readAfterLiteral_ne_reference

/-- A reference that starts with a dollar sign is the path that stands behind the spaces. -/
theorem readReference_path (h : l.readReference = (.ok (some (.reference key)), m))
    (hkey : key.toList.head? = some '$') :
    l.rest.dropWhile isSpace = key.toList ++ m.rest ∧ Complete key.toList ∧
      ¬ Continues key.toList m.rest := by
  unfold readReference at h
  have behind : l.skipSpaces.rest = l.rest.dropWhile isSpace := rfl
  dsimp only at h
  rw [behind] at h
  generalize l.rest.dropWhile isSpace = text at h
  split at h
  · next cs =>
    split at h
    · cases h
    · next n hn =>
      obtain ⟨path, rest, hpath, rfl, complete, ends⟩ := Path.embeddedLength_eq_ok_iff.1 hn
      obtain ⟨path, k, rfl, -⟩ := Path.complete_iff.1 complete
      obtain rfl : cs = path ++ rest := (List.cons.inj hpath).2
      have one : '$'.utf8Size = 1 := rfl
      rw [Text.byteLength_cons, one, Nat.add_sub_cancel_left, splitBytes_front] at h
      cases h
      rw [String.toList_ofList]
      exact ⟨rfl, complete, ends⟩
  · next cs =>
    split at h
    · next closed =>
      obtain ⟨path, rest, hp, -⟩ := htmlPath_closed closed
      rw [hp] at h
      cases h
      rw [String.toList_ofList] at hkey
      cases hkey
    · cases h
  · next c cs hdollar _ =>
    split at h
    · cases h
      rw [String.toList_ofList] at hkey
      exact absurd (Option.some.inj hkey) hdollar
    · cases h
  · cases h

end Lexer

/-- A path stands at the start of a text if the text does not continue it. -/
def PathAt (path : List Char) (text : String) : Prop :=
  ∃ rest, text.toList = path ++ rest ∧ Complete path ∧ ¬ Continues path rest

/-- The path embedded in a text is the longest complete path that the text starts with. Its length
is found exactly if there is one, its tokens are read as in a text of its own, and every reference
to a document is such a path. -/
theorem reference_longest_path (text : String) (n : Nat) :
    (Path.embeddedLength text = .ok n ↔ ∃ path, PathAt path text ∧ byteLength path = n) ∧
    (∀ path, PathAt path text →
      (∀ other, PathAt other text → other = path) ∧
      (∀ longer, path <+: longer → longer <+: text.toList → Complete longer → longer = path) ∧
      (Path.Reader.startEmbedded text).deliveries =
        (Path.Reader.start (String.ofList path)).deliveries) ∧
    ∀ l m key, Lexer.next l = (.ok (some (.reference key)), m) → key.toList.head? = some '$' →
      Complete key.toList ∧ PathAt key.toList (String.ofList (l.rest.dropWhile isSpace)) := by
  have only {path longer : List Char} (h : PathAt path text) (hpath : path <+: longer)
      (hlonger : longer <+: text.toList) (hcomplete : Complete longer) : longer = path := by
    obtain ⟨rest, htext, complete, ends⟩ := h
    rw [htext] at hlonger
    exact complete.longest ends hpath hlonger hcomplete
  refine ⟨?_, fun path hpath => ⟨fun other hother => ?_, fun longer => only hpath, ?_⟩, ?_⟩
  · have length : Path.embeddedLength (String.ofList text.toList) = .ok n ↔ _ :=
      Path.embeddedLength_eq_ok_iff
    rw [String.ofList_toList] at length
    rw [length]
    constructor
    · rintro ⟨path, rest, htext, hn, complete, ends⟩
      exact ⟨path, ⟨rest, htext, complete, ends⟩, hn⟩
    · rintro ⟨path, ⟨rest, htext, complete, ends⟩, hn⟩
      exact ⟨path, rest, htext, hn, complete, ends⟩
  · -- Both start the text, so one starts the other, and neither goes further.
    have starts {p : List Char} (h : PathAt p text) : p <+: text.toList := by
      obtain ⟨rest, htext, -⟩ := h
      exact ⟨rest, htext.symm⟩
    have complete {p : List Char} (h : PathAt p text) : Complete p := by
      obtain ⟨rest, -, hp, -⟩ := h
      exact hp
    rcases List.prefix_or_prefix_of_prefix (starts hpath) (starts hother) with hp | hp
    · exact only hpath hp (starts hother) (complete hother)
    · exact (only hother hp (starts hpath) (complete hpath)).symm
  · obtain ⟨rest, htext, complete, ends⟩ := hpath
    have same := complete.deliveries_embedded ends
    rw [← htext, String.ofList_toList] at same
    exact same
  · intro l m key hnext hkey
    have hread := Lexer.readReference_of_next hnext
    obtain ⟨hrest, complete, ends⟩ := Lexer.readReference_path hread hkey
    refine ⟨complete, m.rest, ?_, complete, ends⟩
    rw [String.toList_ofList, hrest]

theorem pathAt_name : PathAt "$.a".toList "$.a b" := by
  have complete : (Path.Reader.start "$.a").readToEnd = .ok 3 := by
    apply Path.Reader.eq_ok_of
    decide +kernel
  refine ⟨" b".toList, rfl, ⟨3, complete⟩, ?_⟩
  rintro ((h | h) | ⟨-, h⟩) <;> cases h

theorem reference_longest_path_name :
    PathAt "$.a".toList "$.a b" ∧ Path.embeddedLength "$.a b" = .ok 3 ∧
    ¬ Complete "$.a b".toList ∧
    (Path.Reader.startEmbedded "$.a b").deliveries = (Path.Reader.start "$.a").deliveries ∧
    Lexer.next ⟨"$.a b".toList, 1, some .start, false⟩ =
      (.ok (some (.reference "$.a")), ⟨" b".toList, 4, some (.reference "$.a"), false⟩) ∧
    Complete "$.a".toList := by
  obtain ⟨length, stands, cut⟩ := reference_longest_path "$.a b" 3
  obtain ⟨-, longest, same⟩ := stands _ pathAt_name
  have next : Lexer.next ⟨"$.a b".toList, 1, some .start, false⟩ =
      (.ok (some (.reference "$.a")), ⟨" b".toList, 4, some (.reference "$.a"), false⟩) := by
    refine Prod.ext (Path.Reader.eq_ok_of ?_) ?_ <;> decide +kernel
  refine ⟨pathAt_name, length.2 ⟨_, pathAt_name, rfl⟩, fun whole => ?_, same, next,
    (cut _ _ _ next rfl).1⟩
  have same := longest "$.a b".toList ⟨" b".toList, rfl⟩ (List.prefix_refl _) whole
  exact absurd same (by decide)

end Stencil.Slot
