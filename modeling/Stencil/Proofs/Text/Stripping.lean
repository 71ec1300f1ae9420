import Stencil.Proofs.Path.Lexing
import Stencil.Text.Blank

/-!
# Texts between blanks

A text is stripped to what stands between the characters of a kind around it.
-/

namespace Stencil.Text

open Stencil.Path (IsDigits Stops stops_cons stops_dropWhile dropWhile_run mem_takeWhile)

/-- A text with characters of a kind in front of it and behind it. -/
def Padded (p : Char → Bool) (core cs : List Char) : Prop :=
  ∃ before after, cs = before ++ (core ++ after) ∧ (∀ c ∈ before, p c = true) ∧
    ∀ c ∈ after, p c = true

/-- A text that neither starts nor ends with a character of a kind. -/
def Tight (p : Char → Bool) (cs : List Char) : Prop := Stops p cs ∧ Stops p cs.reverse

section

variable {p : Char → Bool} {cs core : List Char}

theorem Padded.trans {text more : List Char} (h : Padded p core text) (hmore : Padded p text more) :
    Padded p core more := by
  obtain ⟨before, after, rfl, hb, ha⟩ := h
  obtain ⟨before', after', rfl, hb', ha'⟩ := hmore
  refine ⟨before' ++ before, after ++ after', by simp, fun c hc => ?_, fun c hc => ?_⟩
  · exact (List.mem_append.1 hc).elim (hb' c) (hb c)
  · exact (List.mem_append.1 hc).elim (ha c) (ha' c)

theorem Padded.subset {text : List Char} (h : Padded p core text) : core ⊆ text := by
  obtain ⟨before, after, rfl, -⟩ := h
  exact fun c hc => List.mem_append_right _ (List.mem_append_left _ hc)

theorem tight_nil : Tight p [] := ⟨nofun, nofun⟩

theorem strip_append (hb : ∀ c ∈ cs, p c = true) (more : List Char) :
    strip p (cs ++ more) = strip p more := by
  rw [strip, List.dropWhile_append_of_pos hb, strip]

theorem strip_tight (ht : Tight p cs) : strip p cs = cs := by
  rw [strip, ht.1.dropWhile, ht.2.dropWhile, List.reverse_reverse]

theorem strip_append_right {after : List Char} (ha : ∀ c ∈ after, p c = true) :
    strip p (cs ++ after) = strip p cs := by
  by_cases hall : ∀ c ∈ cs, p c = true
  · have all : ∀ c ∈ cs ++ after, p c = true := by
      intro c hc
      exact (List.mem_append.1 hc).elim (hall c) (ha c)
    have first := strip_append all []
    have second := strip_append hall []
    rw [List.append_nil] at first second
    rw [first, second]
  · have stays : (cs ++ after).dropWhile p = cs.dropWhile p ++ after := by
      rw [List.dropWhile_append, if_neg]
      intro hempty
      have run := List.takeWhile_append_dropWhile (p := p) (l := cs)
      rw [List.isEmpty_iff.1 hempty, List.append_nil] at run
      exact hall fun c hc => mem_takeWhile (run ▸ hc)
    have blank : ∀ c ∈ after.reverse, p c = true := fun c hc => ha c (List.mem_reverse.1 hc)
    rw [strip, stays, List.reverse_append, List.dropWhile_append_of_pos blank, strip]

/-- The text without the characters of a kind at its end. -/
def stripEnd (p : Char → Bool) (cs : List Char) : List Char := (cs.reverse.dropWhile p).reverse

theorem stripEnd_append (p : Char → Bool) (cs : List Char) :
    ∃ after, stripEnd p cs ++ after = cs ∧ ∀ c ∈ after, p c = true := by
  refine ⟨(cs.reverse.takeWhile p).reverse, ?_, fun c hc => mem_takeWhile (List.mem_reverse.1 hc)⟩
  rw [stripEnd, ← List.reverse_append, List.takeWhile_append_dropWhile, List.reverse_reverse]

theorem strip_eq_stripEnd (p : Char → Bool) (cs : List Char) :
    strip p cs = stripEnd p (cs.dropWhile p) := by
  rw [strip, stripEnd]

theorem tight_strip (p : Char → Bool) (cs : List Char) : Tight p (strip p cs) := by
  obtain ⟨after, whole, -⟩ := stripEnd_append p (cs.dropWhile p)
  rw [strip_eq_stripEnd]
  constructor
  · intro c hc
    refine stops_dropWhile p cs c ?_
    rw [← whole, List.head?_append, hc, Option.some_or]
  · rw [stripEnd, List.reverse_reverse]
    exact stops_dropWhile p _

theorem padded_strip (p : Char → Bool) (cs : List Char) : Padded p (strip p cs) cs := by
  obtain ⟨after, whole, blank⟩ := stripEnd_append p (cs.dropWhile p)
  refine ⟨cs.takeWhile p, after, ?_, fun c => mem_takeWhile, blank⟩
  rw [strip_eq_stripEnd, whole, List.takeWhile_append_dropWhile]

/-- Stripping finds what stands between the blanks. -/
theorem strip_eq_iff (ht : Tight p core) : strip p cs = core ↔ Padded p core cs := by
  constructor
  · rintro rfl
    exact padded_strip p cs
  · rintro ⟨before, after, rfl, hb, ha⟩
    rw [strip_append hb, strip_append_right ha, strip_tight ht]

theorem strip_eq_nil_iff : strip p cs = [] ↔ ∀ c ∈ cs, p c = true := by
  rw [strip_eq_iff tight_nil]
  constructor
  · rintro ⟨before, after, rfl, hb, ha⟩ c hc
    exact (List.mem_append.1 hc).elim (hb c) (ha c)
  · exact fun h => ⟨cs, [], by simp, h, nofun⟩

theorem strip_strip (p : Char → Bool) (cs : List Char) : strip p (strip p cs) = strip p cs :=
  strip_tight (tight_strip p cs)

theorem dropWhile_append_stops {rest : List Char} (h : Stops p rest) (cs : List Char) :
    (cs ++ rest).dropWhile p = cs.dropWhile p ++ rest := by
  rw [List.dropWhile_append]
  split
  · next hempty => rw [h.dropWhile, List.isEmpty_iff.1 hempty, List.nil_append]
  · rfl

theorem strip_dropWhile (p : Char → Bool) (cs : List Char) :
    strip p (cs.dropWhile p) = strip p cs := by
  have run : ∀ c ∈ cs.takeWhile p, p c = true := fun c => mem_takeWhile
  rw [← strip_append run, List.takeWhile_append_dropWhile]

theorem strip_stripEnd (p : Char → Bool) (cs : List Char) :
    strip p (stripEnd p cs) = strip p cs := by
  obtain ⟨after, whole, blank⟩ := stripEnd_append p cs
  rw [← strip_append_right blank, whole]

theorem strip_between {mid : List Char} (hmid : Tight p mid) (hne : mid ≠ []) (a b : List Char) :
    strip p (a ++ (mid ++ b)) = a.dropWhile p ++ (mid ++ stripEnd p b) := by
  have first : Stops p (mid ++ b) := by
    obtain ⟨c, tail, rfl⟩ := List.exists_cons_of_ne_nil hne
    exact stops_cons (hmid.1 c rfl)
  have last : Stops p (mid.reverse ++ (a.dropWhile p).reverse) := by
    obtain ⟨c, tail, hlast⟩ := List.exists_cons_of_ne_nil (List.reverse_ne_nil_iff.2 hne)
    rw [hlast]
    exact stops_cons (hmid.2 c (by rw [hlast]; rfl))
  have turned : (a.dropWhile p ++ (mid ++ b)).reverse =
      b.reverse ++ (mid.reverse ++ (a.dropWhile p).reverse) := by simp
  rw [strip, dropWhile_append_stops first, turned, dropWhile_append_stops last]
  simp [stripEnd]

end

/-! ## Blanks -/

theorem isBlank_of_isDigit {c : Char} (h : c.isDigit = true) : isBlank c = false := by
  have range : 48 ≤ c.toNat ∧ c.toNat ≤ 57 := by
    simp only [Char.isDigit, Bool.and_eq_true, decide_eq_true_eq] at h
    exact h
  rw [Bool.eq_false_iff]
  intro h
  simp only [isBlank, Bool.or_eq_true, Bool.and_eq_true, decide_eq_true_eq, beq_iff_eq] at h
  omega

end Stencil.Text
