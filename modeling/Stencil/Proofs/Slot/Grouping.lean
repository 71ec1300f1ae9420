import Stencil.Proofs.Slot.Currency

/-!
# Groups of digits

The number format only adds commas to the fixed format: one in front of every third digit of the
whole part, counted from its end, and none in the fraction.
-/

namespace Stencil

open Stencil.Path (IsDigits IsSign Stops stops_cons takeWhile_run dropWhile_run)

theorem Path.IsSign.no_point {cs : List Char} (h : IsSign cs) : ∀ c ∈ cs, (c != '.') = true := by
  rcases h with rfl | rfl
  · exact nofun
  · intro c hc
    rw [List.mem_singleton.1 hc]
    rfl

theorem Path.IsSign.filter_comma {cs : List Char} (h : IsSign cs) : cs.filter (· != ',') = cs := by
  rcases h with rfl | rfl <;> rfl

namespace Decimal

theorem placed_parts (m s places : ℕ) :
    ∃ fraction, placed m s places =
        wholeText m s ++ (if places = 0 then [] else '.' :: fraction) ∧
      ∀ c ∈ fraction, c.isDigit = true := by
  refine ⟨(fractionText m s).take places ++
    List.replicate (places - (fractionText m s).length) '0', rfl, fun c hc => ?_⟩
  rcases List.mem_append.1 hc with hc | hc
  · exact isDigit_fractionText m s c (List.mem_of_mem_take hc)
  · rw [List.eq_of_mem_replicate hc]
    rfl

end Decimal

namespace Slot

open Decimal (wholeText isDigits_wholeText placed_parts textTo_toList)

/-- One to three digits, and behind them any number of groups of a comma and three digits. -/
def InGroups (cs : List Char) : Prop :=
  ∃ (first : List Char) (groups : List (List Char)), cs = first ++ groups.flatMap (',' :: ·) ∧
    IsDigits first ∧ first.length ≤ 3 ∧ ∀ g ∈ groups, IsDigits g ∧ g.length = 3

section

variable {ds cs : List Char} {c : Char}

theorem comma_ne_of_isDigit (hc : c.isDigit = true) : (c != ',') = true := ne_of_isDigit hc rfl

theorem filter_groupDigits (h : ∀ c ∈ ds, c.isDigit = true) :
    (groupDigits ds).filter (· != ',') = ds := by
  induction ds with
  | nil => rfl
  | cons c cs ih =>
    have kept := comma_ne_of_isDigit (h c List.mem_cons_self)
    have rest := ih fun d hd => h d (List.mem_cons_of_mem c hd)
    rw [groupDigits]
    split <;> simp [kept, rest]

theorem groupDigits_groups (hds : IsDigits ds) :
    ∃ (first : List Char) (groups : List (List Char)),
      groupDigits ds = first ++ groups.flatMap (',' :: ·) ∧ IsDigits first ∧ first.length ≤ 3 ∧
      first.length % 3 = ds.length % 3 ∧ ∀ g ∈ groups, IsDigits g ∧ g.length = 3 := by
  obtain ⟨nonempty, digits⟩ := hds
  induction ds with
  | nil => exact absurd rfl nonempty
  | cons c cs ih =>
    have digit := digits c List.mem_cons_self
    have single : IsDigits [c] := ⟨List.cons_ne_nil c [], fun d hd => by
      rwa [List.mem_singleton.1 hd]⟩
    by_cases hcs : cs = []
    · subst hcs
      exact ⟨[c], [], rfl, single, Nat.one_le_ofNat, rfl, nofun⟩
    obtain ⟨first, groups, hgroups, hfirst, hlength, hmod, hall⟩ :=
      ih hcs fun d hd => digits d (List.mem_cons_of_mem c hd)
    have some : 0 < first.length := List.length_pos_iff.2 hfirst.1
    rw [groupDigits, hgroups, List.length_cons]
    split
    · next full =>
      -- The group behind is full, so that the digit starts another one.
      refine ⟨[c], first :: groups, rfl, single, Nat.one_le_ofNat, ?_, ?_⟩
      · rw [List.length_singleton]
        omega
      · intro g hg
        rcases List.mem_cons.1 hg with rfl | hg
        · exact ⟨hfirst, by omega⟩
        · exact hall g hg
    · next open_ =>
      have short : cs.length % 3 ≠ 0 := fun h => open_ ⟨h, hcs⟩
      refine ⟨c :: first, groups, rfl, ⟨List.cons_ne_nil c first, ?_⟩, ?_, ?_, hall⟩
      · intro d hd
        rcases List.mem_cons.1 hd with rfl | hd
        · exact digit
        · exact hfirst.2 d hd
      · rw [List.length_cons]
        omega
      · rw [List.length_cons]
        omega

theorem inGroups_groupDigits (hds : IsDigits ds) : InGroups (groupDigits ds) := by
  obtain ⟨first, groups, hgroups, hfirst, hlength, -, hall⟩ := groupDigits_groups hds
  exact ⟨first, groups, hgroups, hfirst, hlength, hall⟩

theorem InGroups.no_point (h : InGroups cs) : ∀ c ∈ cs, (c != '.') = true := by
  obtain ⟨first, groups, rfl, hfirst, -, hall⟩ := h
  intro c hc
  rcases List.mem_append.1 hc with hc | hc
  · exact ne_of_isDigit (hfirst.2 c hc) rfl
  · obtain ⟨g, hg, hc⟩ := List.mem_flatMap.1 hc
    rcases List.mem_cons.1 hc with rfl | hc
    · decide
    · exact ne_of_isDigit ((hall g hg).1.2 c hc) rfl

theorem grouped_parts (d : Decimal) (places : ℕ) :
    ∃ sign whole tail, (fixed d places).toList = sign ++ (whole ++ tail) ∧
      (grouped d places).toList = sign ++ (groupDigits whole ++ tail) ∧
      IsSign sign ∧ IsDigits whole ∧ Stops (· != '.') tail ∧ ',' ∉ tail := by
  obtain ⟨fraction, hplaced, digits⟩ :=
    placed_parts (d.roundTo places).mantissa (d.roundTo places).scale places
  have whole := isDigits_wholeText (d.roundTo places).mantissa (d.roundTo places).scale
  have plain : ∀ c ∈ wholeText (d.roundTo places).mantissa (d.roundTo places).scale,
      (c != '.') = true := fun c hc => ne_of_isDigit (whole.2 c hc) rfl
  have stops : Stops (· != '.') (if places = 0 then [] else '.' :: fraction) := by
    split
    · exact nofun
    · exact stops_cons rfl
  refine ⟨_, _, _, ?_, ?_, (d.roundTo places).isSign_signText, whole, stops, ?_⟩
  · rw [fixed, textTo_toList, hplaced]
  · rw [grouped_toList, groupedBody, hplaced, takeWhile_run plain stops, dropWhile_run plain stops]
  · split
    · exact List.not_mem_nil
    · intro hcomma
      rcases List.mem_cons.1 hcomma with hcomma | hcomma
      · cases hcomma
      · cases digits ',' hcomma

/-- The number with grouped digits is the number with ungrouped ones, but for the commas. These
stand in the whole part alone, a group of three digits behind each. -/
theorem grouped_faithful (d : Decimal) (places : ℕ) :
    let text := (grouped d places).toList
    text.filter (· != ',') = (fixed d places).toList ∧
      (∃ sign whole, text.takeWhile (· != '.') = sign ++ whole ∧ IsSign sign ∧ InGroups whole) ∧
      ',' ∉ text.dropWhile (· != '.') := by
  obtain ⟨sign, whole, tail, hfixed, hgrouped, hsign, hwhole, stops, hcomma⟩ :=
    grouped_parts d places
  have groups := inGroups_groupDigits hwhole
  have front : ∀ c ∈ sign ++ groupDigits whole, (c != '.') = true := by
    intro c hc
    rcases List.mem_append.1 hc with hc | hc
    · exact hsign.no_point c hc
    · exact groups.no_point c hc
  have tail_kept : tail.filter (· != ',') = tail := by
    refine List.filter_eq_self.2 fun c hc => bne_iff_ne.2 ?_
    rintro rfl
    exact hcomma hc
  dsimp only
  rw [hgrouped, hfixed]
  refine ⟨?_, ⟨sign, groupDigits whole, ?_, hsign, groups⟩, ?_⟩
  · rw [List.filter_append, List.filter_append, hsign.filter_comma, filter_groupDigits hwhole.2,
      tail_kept]
  · rw [← List.append_assoc, takeWhile_run front stops]
  · rwa [← List.append_assoc, dropWhile_run front stops]

example : grouped ⟨true, 123456789, 2⟩ 1 = "-1,234,567.9" := by decide +kernel

end

end Slot

end Stencil
