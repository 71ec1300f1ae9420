import Stencil.Proofs.Path.Lexing
import Stencil.Proofs.Slot.Grammar

/-!
# HTML paths in slots

An HTML path is cut where the grammar ends it. Brackets nest, and quotes in them hide brackets, so
the characters are followed with the number of open brackets and the open quote.
-/

namespace Stencil.Slot

open Stencil.Path (Stops)

/-- The characters close as many predicates as are open, and go on as a path. -/
inductive Closes : Nat → List Char → Prop where
  | path {cs : List Char} : IsHtmlPath cs → Closes 0 cs
  | predicate {depth : Nat} {inner rest : List Char} :
    IsPredicate inner → Closes depth rest → Closes (depth + 1) (inner ++ rest)

/-- The same within a quote, if there is one. -/
def ClosesQuoted (depth : Nat) : Option Char → List Char → Prop
  | none, cs => Closes depth cs
  | some q, cs => ∃ body rest, cs = body ++ q :: rest ∧ q ∉ body ∧ Closes depth rest

theorem Closes.within {depth : Nat} {rest : List Char} (h : Closes (depth + 1) rest)
    (front : List Char) (hfront : ∀ inner, IsPredicate inner → IsPredicate (front ++ inner)) :
    Closes (depth + 1) (front ++ rest) := by
  cases h with
  | @predicate _ inner more hinner hmore =>
    rw [← List.append_assoc]
    exact .predicate (hfront inner hinner) hmore

section

variable {depth : Nat} {c : Char} {cs : List Char}

theorem ClosesQuoted.cons {q : Char}
    (h : ClosesQuoted depth (if c = q then none else some q) cs) :
    ClosesQuoted depth (some q) (c :: cs) := by
  by_cases hc : c = q
  · rw [if_pos hc] at h
    exact ⟨[], cs, by rw [hc]; rfl, nofun, h⟩
  · rw [if_neg hc] at h
    obtain ⟨body, more, rfl, hbody, hmore⟩ := h
    refine ⟨c :: body, more, rfl, ?_, hmore⟩
    simp only [List.mem_cons, not_or]
    exact ⟨fun hq => hc hq.symm, hbody⟩

theorem Closes.quote (hquote : (c = '\'' ∨ c = '"') ∧ 0 < depth)
    (h : ClosesQuoted depth (some c) cs) : Closes depth (c :: cs) := by
  obtain ⟨body, more, rfl, hbody, hmore⟩ := h
  obtain ⟨depth, rfl⟩ := Nat.exists_eq_succ_of_ne_zero (Nat.ne_of_gt hquote.2)
  have closed := hmore.within (c :: (body ++ [c])) fun inner hinner => by
    have := IsPredicate.quoted hquote.1 hbody hinner
    simpa using this
  simpa using closed

theorem Closes.opening (h : Closes (depth + 1) cs) : Closes depth ('[' :: cs) := by
  cases h with
  | @predicate _ inner more hinner hmore =>
    cases hmore with
    | path hmore => exact .path (.predicate hinner hmore)
    | @predicate _ inner' more hinner' hmore =>
      have := Closes.predicate (.nested hinner hinner') hmore
      simpa using this

theorem Closes.closing (h : Closes (depth - 1) cs) : Closes depth (']' :: cs) := by
  cases depth with
  | zero =>
    cases h with
    | path h => exact .path (.plain (by decide) (by decide) h)
  | succ depth => exact .predicate .close h

theorem Closes.plain (hquote : ¬((c = '\'' ∨ c = '"') ∧ 0 < depth)) (hopen : c ≠ '[')
    (hclose : c ≠ ']') (hends : ¬(depth = 0 ∧ endsHtmlPath c = true)) (h : Closes depth cs) :
    Closes depth (c :: cs) := by
  cases depth with
  | zero =>
    cases h with
    | path h => exact .path (.plain hopen (by simpa using hends) h)
  | succ depth =>
    apply h.within [c]
    intro inner hinner
    simp only [Nat.zero_lt_succ, and_true, not_or] at hquote
    exact .plain hquote.1 hquote.2 hopen hclose hinner

end

theorem htmlPath_cons {depth : Nat} {quote : Option Char} {c : Char} {cs path rest : List Char}
    (h : (c :: (htmlPath depth quote cs).1, (htmlPath depth quote cs).2) = (path, rest, true)) :
    ∃ p, path = c :: p ∧ htmlPath depth quote cs = (p, rest, true) := by
  rcases hp : htmlPath depth quote cs with ⟨p, r, closed⟩
  rw [hp] at h
  cases h
  exact ⟨p, rfl, rfl⟩

-- By induction on the characters. A quote runs up to the same character again, and behind it as
-- many predicates are open as in front of it.
theorem htmlPath_sound {cs path rest : List Char} {depth : Nat} {quote : Option Char}
    (h : htmlPath depth quote cs = (path, rest, true)) :
    cs = path ++ rest ∧ Stops (fun c => !endsHtmlPath c) rest ∧ ClosesQuoted depth quote path := by
  induction cs generalizing depth quote path with
  | nil =>
    unfold htmlPath at h
    simp only [Prod.mk.injEq, Bool.and_eq_true, beq_iff_eq, Option.isNone_iff_eq_none] at h
    obtain ⟨rfl, rfl, rfl, rfl⟩ := h
    exact ⟨rfl, by simp [Stops], .path .nil⟩
  | cons c cs ih =>
    unfold htmlPath at h
    dsimp only at h
    cases quote with
    | some q =>
      obtain ⟨p, rfl, hp⟩ := htmlPath_cons h
      obtain ⟨rfl, stops, inner⟩ := ih hp
      exact ⟨rfl, stops, inner.cons⟩
    | none =>
      dsimp only [ClosesQuoted] at h ⊢
      split at h
      · next hquote =>
        obtain ⟨p, rfl, hp⟩ := htmlPath_cons h
        obtain ⟨rfl, stops, inner⟩ := ih hp
        exact ⟨rfl, stops, .quote hquote inner⟩
      split at h
      · next hc =>
        obtain ⟨p, rfl, hp⟩ := htmlPath_cons h
        obtain ⟨rfl, stops, inner⟩ := ih hp
        exact ⟨rfl, stops, hc ▸ .opening inner⟩
      split at h
      · next hc =>
        obtain ⟨p, rfl, hp⟩ := htmlPath_cons h
        obtain ⟨rfl, stops, inner⟩ := ih hp
        exact ⟨rfl, stops, hc ▸ .closing inner⟩
      split at h
      · next hends =>
        cases h
        refine ⟨rfl, ?_, ?_⟩
        · rintro d ⟨⟩
          simp [hends.2]
        · rw [hends.1]
          exact .path .nil
      · next hquote hopen hclose hends =>
        obtain ⟨p, rfl, hp⟩ := htmlPath_cons h
        obtain ⟨rfl, stops, inner⟩ := ih hp
        exact ⟨rfl, stops, .plain hquote hopen hclose hends inner⟩

/-- A path that starts with a slash and is closed. -/
theorem htmlPath_closed {cs : List Char} (h : (htmlPath 0 none ('/' :: cs)).2.2 = true) :
    ∃ path rest, htmlPath 0 none ('/' :: cs) = ('/' :: path, rest, true) ∧ cs = path ++ rest ∧
      IsHtmlPath ('/' :: path) ∧ Stops (fun c => !endsHtmlPath c) rest := by
  rcases hp : htmlPath 0 none ('/' :: cs) with ⟨path, rest, closed⟩
  rw [hp] at h
  cases h
  obtain ⟨hcs, stops, closes⟩ := htmlPath_sound hp
  rcases path with _ | ⟨c, path⟩
  · subst hcs
    exact absurd (stops '/' rfl) (by decide)
  · cases hcs
    cases closes with
    | path hpath => exact ⟨path, rest, rfl, rfl, hpath, stops⟩

/-- The characters are put in front of the path. -/
def prepend (front : List Char) : List Char × List Char × Bool → List Char × List Char × Bool
  | (path, rest, closed) => (front ++ path, rest, closed)

theorem htmlPath_quoted {q : Char} {body : List Char} (h : q ∉ body) (depth : Nat)
    (cs : List Char) : htmlPath depth (some q) (body ++ q :: cs) =
      prepend (body ++ [q]) (htmlPath depth none cs) := by
  induction body with
  | nil => simp [htmlPath, prepend]
  | cons c body ih =>
    simp only [List.mem_cons, not_or] at h
    rw [List.cons_append, htmlPath]
    simp only [if_neg (fun hc : c = q => h.1 hc.symm), ih h.2, prepend, List.cons_append]

theorem htmlPath_predicate {inner : List Char} (h : IsPredicate inner) (depth : Nat)
    (cs : List Char) : htmlPath (depth + 1) none (inner ++ cs) =
      prepend inner (htmlPath depth none cs) := by
  induction h generalizing depth cs with
  | close => simp [htmlPath, prepend]
  | @quoted q body rest hq hbody _ ih =>
    have quote := htmlPath_quoted hbody (depth + 1) (rest ++ cs)
    rw [ih] at quote
    simp only [List.cons_append, List.append_assoc]
    rw [htmlPath]
    simp only [hq, Nat.zero_lt_succ, and_self, if_true]
    rw [quote]
    simp [prepend]
  | @nested inner rest _ _ ihInner ih =>
    simp only [List.cons_append, List.append_assoc]
    rw [htmlPath]
    simp only [ihInner, ih, prepend]
    simp
  | @plain c rest hsingle hdouble hopen hclose _ ih =>
    rw [List.cons_append, htmlPath]
    simp [hsingle, hdouble, hopen, hclose, ih, prepend]

theorem htmlPath_complete {path rest : List Char} (h : IsHtmlPath path)
    (hrest : Stops (fun c => !endsHtmlPath c) rest) :
    htmlPath 0 none (path ++ rest) = (path, rest, true) := by
  induction h with
  | nil =>
    cases rest with
    | nil => rfl
    | cons c rest =>
      have hends : endsHtmlPath c = true := by simpa using hrest c rfl
      have hopen : c ≠ '[' := by
        rintro rfl
        exact absurd hends (by decide)
      have hclose : c ≠ ']' := by
        rintro rfl
        exact absurd hends (by decide)
      simp [htmlPath, hends, hopen, hclose]
  | @predicate inner more hinner _ ih =>
    simp only [List.cons_append, List.append_assoc]
    rw [htmlPath]
    simp [htmlPath_predicate hinner, ih, prepend]
  | @plain c more hopen hends _ ih =>
    rw [List.cons_append, htmlPath]
    simp [hopen, hends, ih]

end Stencil.Slot
