import Stencil.Path.Evaluate

/-!
# The tokens of a path

`tokens` are all tokens that a path has up to its end or up to where it breaks off. A reader reaches
the readers behind the tokens that follow it, and each reading of a step or a list stops at one that
it reaches.
-/

namespace Stencil.Path

namespace Reader

/-! ## Reading -/

theorem next_eq_ok {r s : Reader} {what : String} :
    r.next what = .ok s ↔ r.read = (.ok true, s) := by
  unfold next
  constructor
  · intro h
    split at h
    · next hr =>
      cases h
      exact hr
    · cases h
    · cases h
  · intro h
    rw [h]

theorem nextToken_eq_ok {r s : Reader} {t : Token} :
    r.nextToken t = .ok s ↔ r.read = (.ok true, s) ∧ s.token = some t := by
  unfold nextToken
  constructor
  · intro h
    obtain ⟨u, hu, h⟩ := bind_eq_ok h
    split at h
    · next ht =>
      cases h
      exact ⟨next_eq_ok.1 hu, ht⟩
    · cases h
  · rintro ⟨hr, ht⟩
    rw [next_eq_ok.2 hr]
    show (if s.token = some t then pure s else throw s.unexpected) = _
    rw [if_pos ht]
    rfl

theorem read_done {r : Reader} (h : r.done = true) : r.read = (.ok false, r) := by
  rw [read, if_pos h]

theorem read_end {r s : Reader} (h : r.read = (.ok false, s)) :
    s.done = true ∧ s.token = r.token := by
  by_cases hd : r.done = true
  · rw [read_done hd] at h
    cases h
    exact ⟨hd, rfl⟩
  rw [read, if_neg hd] at h
  have ht : (if r.mode = .path then r else r.skipSpaces).token = r.token := by split <;> rfl
  generalize (if r.mode = .path then r else r.skipSpaces) = u at h ht
  simp only at h
  split at h
  · simp only [Prod.mk.injEq] at h
    exact ⟨by rw [← h.2], by rw [← h.2, ← ht]⟩
  · split at h
    · cases h
    · cases h
    · split at h
      · cases h
        exact ⟨rfl, ht⟩
      · cases h

/-! ## Readers further on -/

/-- `s` stands behind some of the tokens that follow `r`. -/
inductive Reaches : Reader → Reader → Prop where
  | refl (r : Reader) : Reaches r r
  | read {r s t : Reader} : r.read = (.ok true, s) → Reaches s t → Reaches r t

theorem Reaches.trans {r s t : Reader} (h : Reaches r s) (ht : Reaches s t) : Reaches r t := by
  induction h with
  | refl => exact ht
  | read hr _ ih => exact .read hr (ih ht)

theorem reaches_of_read {r s : Reader} (h : r.read = (.ok true, s)) : Reaches r s :=
  .read h (.refl s)

theorem next_reaches {r s : Reader} {what : String} (h : r.next what = .ok s) : Reaches r s :=
  reaches_of_read (next_eq_ok.1 h)

theorem nextToken_reaches {r s : Reader} {t : Token} (h : r.nextToken t = .ok s) : Reaches r s :=
  reaches_of_read (nextToken_eq_ok.1 h).1

/-! ## Tokens -/

/-- The tokens from a reader on, up to the end of the path or to what is no token. -/
def tokens (r : Reader) : List Token :=
  match _h : r.read with
  | (.ok true, s) => s.token.toList ++ s.tokens
  | _ => []
termination_by r.rest.length
decreasing_by exact read_lt _h

theorem tokens_eq (r : Reader) :
    r.tokens = match r.read with
      | (.ok true, s) => s.token.toList ++ s.tokens
      | _ => [] := by
  rw [tokens]
  split <;> next h => simp [h]

theorem tokens_done {r : Reader} (h : r.done = true) : r.tokens = [] := by
  rw [tokens_eq, read_done h]

theorem read_token_mem {r s : Reader} {t : Token} (h : r.read = (.ok true, s))
    (ht : s.token = some t) : t ∈ r.tokens := by
  rw [tokens_eq, h]
  simp [ht]

/-- What `s` has read or will read is what `r` has read or will read. -/
def Leads (r s : Reader) : Prop :=
  s.tokens ⊆ r.tokens ∧ ∀ t, s.token = some t → r.token = some t ∨ t ∈ r.tokens

theorem Leads.refl (r : Reader) : r.Leads r := ⟨fun _ => id, fun _ => .inl⟩

theorem Leads.trans {r s t : Reader} (hs : r.Leads s) (ht : s.Leads t) : r.Leads t := by
  refine ⟨fun _ h => hs.1 (ht.1 h), fun u hu => ?_⟩
  rcases ht.2 u hu with h | h
  · exact hs.2 u h
  · exact .inr (hs.1 h)

theorem Reaches.leads {r s : Reader} (h : Reaches r s) : r.Leads s := by
  induction h with
  | refl r => exact .refl r
  | @read r s t hr _ ih =>
    refine Leads.trans ⟨?_, fun u hu => .inr (read_token_mem hr hu)⟩ ih
    rw [tokens_eq r, hr]
    exact List.subset_append_right _ _

theorem leads_of_read_end {r s : Reader} (h : r.read = (.ok false, s)) : r.Leads s := by
  obtain ⟨hd, ht⟩ := read_end h
  refine ⟨?_, fun t hs => .inl (ht ▸ hs)⟩
  rw [tokens_done hd]
  exact List.nil_subset _

end Reader

/-- The tokens of a path. -/
def tokens (path : String) : List Token := (Reader.start path).tokens

/-! ## Steps and lists -/

open Reader (Reaches)

theorem readNames_reaches {names : List String} {r s : Reader} {sel : Selector}
    (h : readNames names r = .ok (sel, s)) : Reaches r s := by
  fun_induction readNames names r with
  | case1 => cases h
  | case2 _ _ _ hr _ ih => exact (Reader.next_reaches hr).trans (ih h)
  | case3 _ _ _ hr => cases h; exact Reader.next_reaches hr
  | case4 => cases h

theorem readIndexList_reaches {is : List Int} {r s : Reader} {sel : Selector}
    (h : readIndexList is r = .ok (sel, s)) : Reaches r s := by
  fun_induction readIndexList is r with
  | case1 => cases h
  | case2 _ _ _ hr _ ih => exact (Reader.next_reaches hr).trans (ih h)
  | case3 _ _ _ hr => cases h; exact Reader.next_reaches hr
  | case4 => cases h

theorem readSlice_reaches {start : Option Int} {r s : Reader} {sel : Selector}
    (h : readSlice start r = .ok (sel, s)) : Reaches r s := by
  unfold readSlice at h
  obtain ⟨a, ha, h⟩ := Reader.bind_eq_ok h
  have first := Reader.next_reaches ha
  split at h
  · cases h
    exact first
  · obtain ⟨b, hb, h⟩ := Reader.bind_eq_ok h
    cases h
    exact first.trans (Reader.nextToken_reaches hb)
  · cases h

theorem readIndices_reaches {r s : Reader} {sel : Selector} (h : readIndices r = .ok (sel, s)) :
    Reaches r s := by
  unfold readIndices at h
  split at h
  · exact readSlice_reaches h
  · obtain ⟨a, ha, h⟩ := Reader.bind_eq_ok h
    have first := Reader.next_reaches ha
    split at h
    · cases h
      exact first
    · exact first.trans (readIndexList_reaches h)
    · exact first.trans (readSlice_reaches h)
    · cases h

theorem readMember_reaches {r s : Reader} {named : String → Selector} {all : Selector}
    {step : Step} (h : readMember r named all = .ok (step, s)) : Reaches r s := by
  unfold readMember at h
  obtain ⟨a, ha, h⟩ := Reader.bind_eq_ok h
  have first := Reader.next_reaches ha
  split at h
  · cases h
    exact first
  · cases h
    exact first
  · cases h

theorem readStep_reaches {r s : Reader} {step : Step} (h : readStep r = .ok (step, s)) :
    Reaches r s := by
  unfold readStep at h
  split at h
  · exact readMember_reaches h
  · exact readMember_reaches h
  · obtain ⟨a, ha, h⟩ := Reader.bind_eq_ok h
    refine (Reader.next_reaches ha).trans ?_
    split at h
    · obtain ⟨⟨sel, b⟩, hb, h⟩ := Reader.bind_eq_ok h
      cases h
      exact readNames_reaches hb
    · obtain ⟨⟨sel, b⟩, hb, h⟩ := Reader.bind_eq_ok h
      cases h
      exact readIndices_reaches hb
    · obtain ⟨⟨sel, b⟩, hb, h⟩ := Reader.bind_eq_ok h
      cases h
      exact readIndices_reaches hb
    · obtain ⟨b, hb, h⟩ := Reader.bind_eq_ok h
      cases h
      exact Reader.nextToken_reaches hb
    · cases h
      exact .refl _
    · cases h
  · cases h

theorem readList_reaches {strings : List String} {numbers : List Decimal} {r s : Reader}
    {o : Operand} (h : readList strings numbers r = .ok (o, s)) : Reaches r s := by
  fun_induction readList strings numbers r with
  | case1 => cases h
  | case2 _ _ _ _ hr _ ih => exact (Reader.next_reaches hr).trans (ih h)
  | case3 => cases h
  | case4 _ _ _ _ hr _ _ _ ih => exact (Reader.next_reaches hr).trans (ih h)
  | case5 _ _ _ _ hr => cases h; exact Reader.next_reaches hr
  | case6 _ _ _ _ hr => cases h; exact Reader.next_reaches hr
  | case7 => cases h
  | case8 => cases h

end Stencil.Path
