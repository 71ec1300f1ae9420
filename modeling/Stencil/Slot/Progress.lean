import Stencil.Path.Progress
import Stencil.Slot.Lexer

/-!
# Reading slot text makes progress

Every token read makes the rest of the text shorter, and a quoted text is shorter than the text that
it stands in.
-/

namespace Stencil.Slot.Lexer

open Stencil.Path.Reader (length_dropWhile_le length_dropWhile_lt)

/-- If a token was read, fewer than `n` characters are left, and fewer stand in quotes. -/
def ReadsWithin (n : Nat) : Except SlotError (Option Token) × Lexer → Prop
  | (.ok (some t), next) =>
    next.rest.length < n ∧ ∀ body, t = .literal body → body.toList.length < n
  | _ => True

theorem ReadsWithin.mono {m n : Nat} (h : m ≤ n) {x : Except SlotError (Option Token) × Lexer}
    (hx : ReadsWithin m x) : ReadsWithin n x := by
  unfold ReadsWithin at *
  split
  · next t next =>
    simp only at hx
    exact ⟨by omega, fun body hb => by have := hx.2 body hb; omega⟩
  · trivial

theorem emit_within {l : Lexer} {t : Token} {cs rest : List Char} {n : Nat}
    (short : rest.length < n) (plain : ∀ body, t ≠ .literal body) :
    ReadsWithin n (l.emit t cs rest) :=
  ⟨short, fun body h => absurd h (plain body)⟩

theorem fail_within (l : Lexer) (fault : Fault) (n : Nat) : ReadsWithin n (l.fail fault) := trivial

theorem skipSpaces_le (l : Lexer) : l.skipSpaces.rest.length ≤ l.rest.length :=
  length_dropWhile_le _ _

theorem readText_within (l : Lexer) : ReadsWithin l.rest.length l.readText := by
  unfold readText
  split
  · trivial
  · next h => exact emit_within (by rw [h]; simp only [List.length_cons]; omega) (by simp)
  · next h => exact emit_within (by rw [h]; simp only [List.length_cons]; omega) (by simp)
  · next h =>
    split
    · split <;> exact emit_within (by simp [h]) (by simp)
    · exact emit_within (by simp [h]) (by simp)
  · next h => exact emit_within (by simp [h]) (by simp)
  · next cs h1 h2 h3 h4 h5 =>
    refine emit_within ?_ (by simp)
    apply length_dropWhile_lt
    cases hc : l.rest with
    | nil => exact absurd hc h1
    | cons c rest =>
      have a : c ≠ '\x7b' := fun e => h4 rest (by rw [hc, e])
      have b : c ≠ '\x7d' := fun e => h5 rest (by rw [hc, e])
      simp [a, b]

theorem splitBytes_le (n : Nat) (cs : List Char) : (splitBytes n cs).2.length ≤ cs.length := by
  fun_induction splitBytes n cs with
  | case1 => simp
  | case2 => simp
  | case3 n c cs _ front rest h ih =>
    rw [h] at ih
    simp at ih ⊢
    omega

theorem htmlPath_le (depth : Nat) (quote : Option Char) (cs : List Char) :
    (htmlPath depth quote cs).2.1.length ≤ cs.length := by
  induction cs generalizing depth quote with
  | nil => simp [htmlPath]
  | cons c cs ih =>
    have step (d : Nat) (q : Option Char) :
        (htmlPath d q cs).2.1.length ≤ (c :: cs).length :=
      Nat.le_trans (ih d q) (by simp)
    unfold htmlPath
    simp only
    split
    · exact step _ _
    · split
      · exact step _ _
      · split
        · exact step _ _
        · split
          · exact step _ _
          · split
            · exact Nat.le_refl _
            · exact step _ _

theorem readReference_within (l : Lexer) : ReadsWithin l.rest.length l.readReference := by
  refine ReadsWithin.mono (skipSpaces_le l) ?_
  unfold readReference
  generalize l.skipSpaces = s
  simp only
  split
  · next cs h =>
    split
    · trivial
    · next n _ =>
      have := splitBytes_le (n - 1) cs
      exact emit_within (by rw [h]; simp only [List.length_cons]; omega) (by simp)
  · next cs h =>
    have first : (htmlPath 0 none s.rest).2.1 = (htmlPath 0 none cs).2.1 := by
      rw [h, htmlPath.eq_def]
      simp [endsHtmlPath, endsFormat]
    have := htmlPath_le 0 none cs
    split
    · exact emit_within (by rw [first, h]; simp; omega) (by simp)
    · trivial
  · next c cs _ _ h =>
    split
    · have := length_dropWhile_le isNameChar cs
      exact emit_within (by rw [h]; simp only [List.length_cons]; omega) (by simp)
    · trivial
  · trivial

theorem readOperator_within (l : Lexer) : ReadsWithin l.rest.length l.readOperator := by
  unfold readOperator
  split
  all_goals first
    | exact fail_within _ _ _
    | (next h => exact emit_within (by simp [h]; try omega) (by simp))

theorem cutLiteral?_lt {cs literal rest : List Char}
    (h : Regex.cutLiteral? cs = some (literal, rest)) : rest.length < cs.length := by
  unfold Regex.cutLiteral? at h
  split at h
  · obtain ⟨⟨body, t⟩, hb, he⟩ := Option.map_eq_some_iff.1 h
    have := Path.Reader.patternBody?_le hb
    have := length_dropWhile_le Regex.isFlag t
    simp at he
    simp [← he.2]
    omega
  · simp at h

theorem readModifier_within (l : Lexer) : ReadsWithin l.rest.length l.readModifier := by
  refine ReadsWithin.mono (skipSpaces_le l) ?_
  unfold readModifier
  generalize l.skipSpaces = s
  simp only
  split
  · trivial
  · next h => exact emit_within (by simp [h]) (by simp)
  · next h => exact emit_within (by simp [h]) (by simp)
  · next cs h =>
    unfold readMatch
    split
    · next hc =>
      have := cutLiteral?_lt hc
      exact emit_within (by simp [h] at this ⊢; omega) (by simp)
    · trivial
  · next cs h =>
    unfold readSubstring
    split
    · next hc =>
      have := length_dropWhile_le (· != ']') cs
      rw [hc] at this
      exact emit_within (by simp [h] at this ⊢; omega) (by simp)
    · trivial
  · next cs _ _ h =>
    unfold readFormat
    simp only
    split
    · trivial
    · have := length_dropWhile_le (fun c => !endsFormat c) cs
      exact emit_within (by rw [h]; simp only [List.length_cons]; omega) (by simp)
  · split
    · exact readOperator_within s
    · trivial

theorem readLiteral_within (l : Lexer) : ReadsWithin l.rest.length l.readLiteral := by
  refine ReadsWithin.mono (skipSpaces_le l) ?_
  unfold readLiteral
  generalize l.skipSpaces = s
  simp only
  split
  · trivial
  · next cs h =>
    split
    · next c rest hc =>
      have all : (cs.takeWhile (· != '\'')).length + (cs.dropWhile (· != '\'')).length =
          cs.length := by
        rw [← List.length_append, List.takeWhile_append_dropWhile]
      rw [hc] at all
      simp at all
      refine ⟨?_, ?_⟩
      · simp [skip, h]
        omega
      · intro body hb
        simp at hb
        simp [← hb, h]
        omega
    · trivial
  · trivial

theorem readAfterLiteral_within (l : Lexer) : ReadsWithin l.rest.length l.readAfterLiteral := by
  unfold readAfterLiteral
  split
  · trivial
  · refine ReadsWithin.mono (skipSpaces_le l) ?_
    generalize l.skipSpaces = s
    simp only
    split
    · trivial
    · next h => exact emit_within (by simp [h]) (by simp)
    · next h => exact emit_within (by simp [h]) (by simp)
    · next h => exact emit_within (by simp [h]) (by simp)
    · trivial

theorem next_within (l : Lexer) : ReadsWithin l.rest.length l.next := by
  unfold next
  split
  all_goals first
    | exact readText_within l
    | exact readReference_within l
    | exact readModifier_within l
    | exact readLiteral_within l
    | exact readAfterLiteral_within l

theorem next_lt {l m : Lexer} {t : Token} (h : l.next = (.ok (some t), m)) :
    m.rest.length < l.rest.length := by
  have := next_within l
  rw [h] at this
  exact this.1

theorem literal_lt {l m : Lexer} {body : String} (h : l.next = (.ok (some (.literal body)), m)) :
    body.toList.length < l.rest.length := by
  have := next_within l
  rw [h] at this
  exact this.2 body rfl

end Stencil.Slot.Lexer
