import Stencil.Proofs.Positions
import Stencil.Proofs.Text.Digits
import Stencil.Proofs.Text.Stripping
import Stencil.Slot.Range

/-!
# What ranges pick

A range picks the characters between two integers, which may have any number of digits. Bounds are
computed in 64 bits, where they come to the nearest integer; but that one lies on the same side of
the text, so that the same characters are picked.
-/

namespace Stencil.Slot

open Stencil.Path (IsDigits Stops stops_cons)
open Stencil.Path.Reader (bind_eq_ok)
open Text (Padded Tight isBlank isDigits_of_all strip stripEnd strip_eq_iff)

/-! ## What a range means -/

/-- What a bound says of a text of `length` characters. Blanks may stand around it and behind
`^`. -/
inductive IsBound (length : Nat) (text : List Char) : Int → Prop where
  | plain {ds : List Char} :
    Padded isBlank ds text → IsDigits ds → IsBound length text (Text.natOfDigits ds)
  | minus {ds : List Char} :
    Padded isBlank ('-' :: ds) text → IsDigits ds →
      IsBound length text (-(Text.natOfDigits ds : Int))
  | fromEnd {gap ds : List Char} :
    Padded isBlank ('^' :: (gap ++ ds)) text → (∀ c ∈ gap, isBlank c = true) → IsDigits ds →
      IsBound length text (length - Text.natOfDigits ds)

/-- A bound, or a blank text that stands for the end of the text. -/
inductive IsSide (length : Nat) (default : Int) (text : List Char) : Int → Prop where
  | blank : (∀ c ∈ text, isBlank c = true) → IsSide length default text default
  | bound {i : Int} : IsBound length text i → IsSide length default text i

def characterAt (cs : List Char) (i : Int) : List Char :=
  if 0 ≤ i ∧ i < cs.length then (cs[i.toNat]?).toList else []

/-- The characters at the positions from one on and in front of another. -/
def charactersBetween (cs : List Char) (first past : Int) : List Char :=
  (cs.zipIdx.filter fun e => max 0 first ≤ e.2 ∧ e.2 < min past cs.length).map Prod.fst

/-- What a range picks from a text. -/
inductive Picks (cs range : List Char) : List Char → Prop where
  | whole : Padded isBlank [] range ∨ Padded isBlank ['.', '.'] range → Picks cs range cs
  | single {i : Int} : IsBound cs.length range i → Picks cs range (characterAt cs i)
  | between {start stop : List Char} {first past : Int} :
    range = start ++ '.' :: '.' :: stop → IsSide cs.length 0 start first →
      IsSide cs.length cs.length stop past → Picks cs range (charactersBetween cs first past)

/-! ## Bounds in 64 bits -/

section

variable {length : Nat} {text : List Char} {i : Int} {b : Int64}

/-- A position in 64 bits and an integer: both the same place of the text, or both in front of it,
or both behind it. -/
def SamePlace (length : Nat) (b : Int64) (i : Int) : Prop :=
  max (-1) (min b.toInt length) = max (-1) (min i length)

theorem samePlace_clamp (h : length + 1 < 2 ^ 63) (i : Int) :
    SamePlace length (.ofIntClamp i) i := by
  unfold SamePlace
  rw [toInt_ofIntClamp_eq]
  omega

theorem toInt_length (h : length + 1 < 2 ^ 63) : (Int64.ofNat length).toInt = length :=
  Int64.toInt_ofNat_of_lt (by omega)

theorem samePlace_zero : SamePlace length 0 0 := rfl

theorem samePlace_length (h : length + 1 < 2 ^ 63) : SamePlace length (.ofNat length) length := by
  unfold SamePlace
  rw [toInt_length h]

theorem samePlace_fromEnd (h : length + 1 < 2 ^ 63) (n : Nat) :
    SamePlace length (saturatingSub (.ofNat length) (.ofIntClamp n)) (length - n) := by
  unfold SamePlace saturatingSub
  rw [toInt_ofIntClamp_eq, toInt_ofIntClamp_eq, toInt_length h]
  omega

/-! ## Bounds and their texts -/

theorem tight_append_digits {front ds : List Char} (hd : IsDigits ds)
    (first : Stops isBlank (front ++ ds)) : Tight isBlank (front ++ ds) := by
  refine ⟨first, ?_⟩
  have turned : IsDigits ds.reverse :=
    ⟨List.reverse_ne_nil_iff.2 hd.1, fun c hc => hd.2 c (List.mem_reverse.1 hc)⟩
  obtain ⟨d, tail, hlast, digit⟩ := turned.head
  rw [List.reverse_append, hlast]
  exact stops_cons (Text.isBlank_of_isDigit digit)

theorem tight_of_isDigits {ds : List Char} (hd : IsDigits ds) : Tight isBlank ds := by
  refine @tight_append_digits [] ds hd ?_
  obtain ⟨d, tail, rfl, digit⟩ := hd.head
  exact stops_cons (Text.isBlank_of_isDigit digit)

theorem tight_dots : Tight isBlank ['.', '.'] := ⟨stops_cons rfl, stops_cons rfl⟩

theorem bound?_of_isBound (h : length + 1 < 2 ^ 63) (hb : IsBound length text i) :
    ∃ b, bound? (.ofNat length) text = some b ∧ SamePlace length b i := by
  cases hb with
  | @plain ds hp hd =>
    refine ⟨_, ?_, samePlace_clamp h _⟩
    have value := Text.nat?_of_isDigits hd
    obtain ⟨d, tail, rfl, digit⟩ := hd.head
    rw [bound?, (strip_eq_iff (tight_of_isDigits hd)).2 hp]
    split
    · next he =>
      cases he
      exact absurd digit (by decide)
    · next he =>
      cases he
      exact absurd digit (by decide)
    · rw [value]
      rfl
  | @minus ds hp hd =>
    refine ⟨_, ?_, samePlace_clamp h _⟩
    have tight : Tight isBlank ('-' :: ds) := @tight_append_digits ['-'] ds hd (stops_cons rfl)
    rw [bound?, (strip_eq_iff tight).2 hp]
    show ((Text.nat? ds).map _) = _
    rw [Text.nat?_of_isDigits hd]
    rfl
  | @fromEnd gap ds hp hgap hd =>
    refine ⟨_, ?_, samePlace_fromEnd h _⟩
    have tight : Tight isBlank ('^' :: (gap ++ ds)) :=
      @tight_append_digits ('^' :: gap) ds hd (stops_cons rfl)
    rw [bound?, (strip_eq_iff tight).2 hp]
    show ((Text.nat? (strip isBlank (gap ++ ds))).map _) = _
    rw [Text.strip_append hgap, Text.strip_tight (tight_of_isDigits hd), Text.nat?_of_isDigits hd]
    rfl

theorem isBound_of_bound? (hb : bound? (.ofNat length) text = some b) :
    ∃ i, IsBound length text i := by
  have padded := Text.padded_strip isBlank text
  unfold bound? at hb
  split at hb
  · next rest hs =>
    rw [hs] at padded
    obtain ⟨n, hn, -⟩ := Option.map_eq_some_iff.1 hb
    obtain ⟨hd, -⟩ := Text.nat?_eq_some_iff.1 hn
    obtain ⟨gap, after, hrest, hgap, hafter⟩ := Text.padded_strip isBlank rest
    obtain ⟨before, behind, htext, hbefore, hbehind⟩ := padded
    refine ⟨_, .fromEnd ⟨before, after ++ behind, ?_, hbefore, ?_⟩ hgap hd⟩
    · calc text = before ++ ('^' :: rest ++ behind) := htext
        _ = before ++ ('^' :: (gap ++ (strip isBlank rest ++ after)) ++ behind) := by rw [← hrest]
        _ = _ := by simp
    · intro c hc
      exact (List.mem_append.1 hc).elim (hafter c) (hbehind c)
  · next rest hs =>
    rw [hs] at padded
    obtain ⟨n, hn, -⟩ := Option.map_eq_some_iff.1 hb
    exact ⟨_, .minus padded (Text.nat?_eq_some_iff.1 hn).1⟩
  · obtain ⟨n, hn, -⟩ := Option.map_eq_some_iff.1 hb
    exact ⟨_, .plain padded (Text.nat?_eq_some_iff.1 hn).1⟩

theorem bound?_strip (length : Int64) (text : List Char) :
    bound? length (strip isBlank text) = bound? length text := by
  rw [bound?, Text.strip_strip, bound?]

theorem boundOr_of_isSide (h : length + 1 < 2 ^ 63) {default : Int64} {d : Int}
    (hd : SamePlace length default d) (hs : IsSide length d text i) :
    ∃ b, boundOr (.ofNat length) default text = .ok b ∧ SamePlace length b i := by
  unfold boundOr
  cases hs with
  | blank hblank =>
    refine ⟨default, ?_, hd⟩
    rw [Text.strip_eq_nil_iff.2 hblank]
    rfl
  | bound hb =>
    obtain ⟨b, hbound, same⟩ := bound?_of_isBound h hb
    refine ⟨b, ?_, same⟩
    have there : strip isBlank text ≠ [] := by
      intro hnil
      rw [bound?, hnil] at hbound
      cases hbound
    rw [if_neg (by simpa using there), bound?_strip, hbound]

theorem boundOr_congr {other : List Char} (h : strip isBlank text = strip isBlank other)
    (length default : Int64) : boundOr length default text = boundOr length default other := by
  rw [boundOr, h, boundOr]

theorem isSide_of_boundOr {default : Int64} (d : Int)
    (h : boundOr (.ofNat length) default text = .ok b) : ∃ i, IsSide length d text i := by
  unfold boundOr at h
  dsimp only at h
  rw [bound?_strip] at h
  split at h
  · next hempty => exact ⟨d, .blank (Text.strip_eq_nil_iff.1 (List.isEmpty_iff.1 hempty))⟩
  · split at h
    · next hbound =>
      obtain ⟨i, hi⟩ := isBound_of_bound? hbound
      exact ⟨i, .bound hi⟩
    · cases h

theorem IsBound.padded {more : List Char} (h : IsBound length text i)
    (hmore : Padded isBlank text more) : IsBound length more i := by
  cases h with
  | plain hp hd => exact .plain (hp.trans hmore) hd
  | minus hp hd => exact .minus (hp.trans hmore) hd
  | fromEnd hp hgap hd => exact .fromEnd (hp.trans hmore) hgap hd

theorem IsSide.padded {d : Int} {more : List Char} (h : IsSide length d text i)
    (hmore : Padded isBlank text more) : IsSide length d more i := by
  cases h with
  | blank hblank =>
    obtain ⟨before, after, rfl, hb, ha⟩ := hmore
    refine .blank fun c hc => ?_
    rcases List.mem_append.1 hc with hc | hc
    · exact hb c hc
    · exact (List.mem_append.1 hc).elim (hblank c) (ha c)
  | bound hb => exact .bound (hb.padded hmore)

theorem not_dot_of_isBound (h : IsBound length text i) : '.' ∉ text := by
  have apart {core : List Char} (hp : Padded isBlank core text) (hcore : '.' ∉ core) :
      '.' ∉ text := by
    obtain ⟨before, after, rfl, hb, ha⟩ := hp
    intro hdot
    rcases List.mem_append.1 hdot with hdot | hdot
    · exact absurd (hb _ hdot) (by decide)
    · rcases List.mem_append.1 hdot with hdot | hdot
      · exact hcore hdot
      · exact absurd (ha _ hdot) (by decide)
  have digits {ds : List Char} (hd : IsDigits ds) : '.' ∉ ds := fun hdot =>
    absurd (hd.2 _ hdot) (by decide)
  cases h with
  | plain hp hd => exact apart hp (digits hd)
  | minus hp hd => exact apart hp (by simpa using digits hd)
  | @fromEnd gap ds hp hgap hd =>
    have blanks : '.' ∉ gap := fun hdot => absurd (hgap _ hdot) (by decide)
    exact apart hp (by simpa using ⟨blanks, digits hd⟩)

theorem not_dot_of_isSide {d : Int} (h : IsSide length d text i) : '.' ∉ text := by
  cases h with
  | blank hblank => exact fun hdot => absurd (hblank _ hdot) (by decide)
  | bound hb => exact not_dot_of_isBound hb

end

/-! ## Cutting a text -/

theorem splitRange_dots {start : List Char} (h : '.' ∉ start) (stop : List Char) :
    splitRange (start ++ '.' :: '.' :: stop) = some (start, stop) := by
  induction start with
  | nil => rfl
  | cons c start ih =>
    have hc : c ≠ '.' := fun he => h (he ▸ List.mem_cons_self)
    rw [List.cons_append, splitRange, ih fun hmem => h (List.mem_cons_of_mem c hmem)]
    · rfl
    · rintro rest rfl
      exact absurd rfl hc

theorem splitRange_eq_none {cs : List Char} (h : '.' ∉ cs) : splitRange cs = none := by
  induction cs with
  | nil => rfl
  | cons c cs ih =>
    have hc : c ≠ '.' := fun he => h (he ▸ List.mem_cons_self)
    rw [splitRange, ih fun hmem => h (List.mem_cons_of_mem c hmem)]
    · rfl
    · rintro rest rfl
      exact absurd rfl hc

theorem eq_of_splitRange {cs start stop : List Char} (h : splitRange cs = some (start, stop)) :
    cs = start ++ '.' :: '.' :: stop := by
  fun_induction splitRange cs generalizing start with
  | case1 rest =>
    cases h
    rfl
  | case2 c cs _ ih =>
    obtain ⟨⟨a, b⟩, hab, he⟩ := Option.map_eq_some_iff.1 h
    cases he
    rw [ih hab]
    rfl
  | case3 => cases h

section

variable {cs range : List Char}

theorem charactersBetween_eq (cs : List Char) (first past : Int) :
    charactersBetween cs first past =
      (cs.take (max 0 (min past cs.length)).toNat).drop (max 0 (min first cs.length)).toNat := by
  rw [← Nat.sub_zero (max 0 (min past _)).toNat, ← Nat.sub_zero (max 0 (min first _)).toNat,
    ← filter_positions, charactersBetween]
  congr 1
  refine List.filter_congr fun e he => ?_
  have inside := List.snd_lt_of_mem_zipIdx he
  simp only [decide_eq_decide]
  omega

theorem charactersBetween_halves (cs : List Char) (i : Int) :
    charactersBetween cs 0 i ++ charactersBetween cs i cs.length = cs := by
  have start : (max 0 (min 0 (cs.length : Int))).toNat = 0 := by omega
  have whole : (max 0 (min (cs.length : Int) cs.length)).toNat = cs.length := by omega
  rw [charactersBetween_eq, charactersBetween_eq, start, whole, List.drop_zero, List.take_length,
    List.take_append_drop]

theorem charactersBetween_whole (cs : List Char) : charactersBetween cs 0 cs.length = cs := by
  have whole := charactersBetween_halves cs 0
  have nothing : charactersBetween cs 0 0 = [] := by
    rw [charactersBetween_eq, List.drop_eq_nil_of_le]
    rw [List.length_take]
    omega
  rwa [nothing] at whole

theorem slice_eq (h : cs.length + 1 < 2 ^ 63) {first past : Int64} {i j : Int}
    (hi : SamePlace cs.length first i) (hj : SamePlace cs.length past j) :
    slice cs first past = charactersBetween cs i j := by
  have clamped {b : Int64} {i : Int} (same : SamePlace cs.length b i) :
      (max 0 (min b (.ofNat cs.length))).toInt = max 0 (min i cs.length) := by
    unfold SamePlace at same
    rw [max_toInt, min_toInt, toInt_length h, Int64.toInt_zero]
    omega
  have start := clamped hi
  have stop := clamped hj
  rw [charactersBetween_eq, ← start, ← stop]
  unfold slice
  dsimp only
  split
  · next hle =>
    have order := Int64.le_iff_toInt_le.1 hle
    rw [List.drop_eq_nil_of_le]
    rw [List.length_take]
    omega
  · rfl

theorem cut_between (h : cs.length + 1 < 2 ^ 63) {start stop : List Char}
    (hsplit : splitRange (strip isBlank range) = some (start, stop)) :
    cut cs range = do
      let first ← boundOr (.ofNat cs.length) 0 start
      let past ← boundOr (.ofNat cs.length) (.ofNat cs.length) stop
      return slice cs first past := by
  unfold cut
  have there : (strip isBlank range).isEmpty = false := by
    rw [eq_of_splitRange hsplit]
    cases start <;> rfl
  simp only [hsplit, there, Bool.false_eq_true, false_or]
  split
  · next hdots =>
    rw [hdots] at hsplit
    cases hsplit
    have whole := slice_eq h samePlace_zero (samePlace_length h)
    rw [charactersBetween_whole] at whole
    show _ = Except.ok (slice cs 0 (.ofNat cs.length))
    rw [whole]
  · rfl

theorem characterAt_eq (h : cs.length + 1 < 2 ^ 63) {b : Int64} {i : Int}
    (same : SamePlace cs.length b i) :
    (if 0 ≤ b ∧ b < .ofNat cs.length then (cs[b.toNatClampNeg]?).toList else []) =
      characterAt cs i := by
  have inside : 0 ≤ b ∧ b < .ofNat cs.length ↔ 0 ≤ b.toInt ∧ b.toInt < cs.length := by
    rw [Int64.le_iff_toInt_le, Int64.lt_iff_toInt_lt, toInt_length h, Int64.toInt_zero]
  unfold SamePlace at same
  unfold characterAt
  by_cases hb : 0 ≤ b.toInt ∧ b.toInt < cs.length
  · have there : b.toInt = i := by omega
    rw [if_pos (inside.2 hb), if_pos (by omega), ← there]
    rfl
  · rw [if_neg (fun hin => hb (inside.1 hin)), if_neg (by omega)]

theorem picks_of_cut (h : cs.length + 1 < 2 ^ 63) {out : List Char}
    (hcut : cut cs range = .ok out) : Picks cs range out := by
  by_cases hempty : strip isBlank range = []
  · rw [cut, hempty] at hcut
    cases hcut
    exact .whole (.inl ((strip_eq_iff Text.tight_nil).1 hempty))
  -- a text without dots is a single bound; with dots it has a side in front of them and one behind
  rcases hsplit : splitRange (strip isBlank range) with _ | ⟨start, stop⟩
  · have dots : strip isBlank range ≠ ['.', '.'] := by
      intro hdots
      rw [hdots] at hsplit
      cases hsplit
    unfold cut at hcut
    simp only [hsplit, bound?_strip] at hcut
    rw [if_neg (by simp [hempty, dots])] at hcut
    split at hcut
    · next b hbound =>
      obtain ⟨i, hi⟩ := isBound_of_bound? hbound
      obtain ⟨b', hb', same⟩ := bound?_of_isBound h hi
      cases hbound.symm.trans hb'
      cases hcut
      rw [characterAt_eq h same]
      exact .single hi
    · cases hcut
  · rw [cut_between h hsplit] at hcut
    obtain ⟨first, hfirst, hcut⟩ := bind_eq_ok hcut
    obtain ⟨past, hpast, hcut⟩ := bind_eq_ok hcut
    cases hcut
    obtain ⟨i, hi⟩ := isSide_of_boundOr 0 hfirst
    obtain ⟨j, hj⟩ := isSide_of_boundOr cs.length hpast
    obtain ⟨first', hfirst', sameI⟩ := boundOr_of_isSide h samePlace_zero hi
    obtain ⟨past', hpast', sameJ⟩ := boundOr_of_isSide h (samePlace_length h) hj
    cases hfirst.symm.trans hfirst'
    cases hpast.symm.trans hpast'
    rw [slice_eq h sameI sameJ]
    obtain ⟨before, after, hrange, hb, ha⟩ := Text.padded_strip isBlank range
    rw [eq_of_splitRange hsplit] at hrange
    have parts : range = (before ++ start) ++ '.' :: '.' :: (stop ++ after) := by simpa using hrange
    refine .between parts ?_ ?_
    · exact hi.padded ⟨before, [], by simp, hb, nofun⟩
    · exact hj.padded ⟨[], after, by simp, nofun, ha⟩

theorem cut_of_picks (h : cs.length + 1 < 2 ^ 63) {out : List Char} (hpicks : Picks cs range out) :
    cut cs range = .ok out := by
  cases hpicks with
  | whole hwhole =>
    unfold cut
    rcases hwhole with hblank | hdots
    · rw [(strip_eq_iff Text.tight_nil).2 hblank]
      rfl
    · rw [(strip_eq_iff tight_dots).2 hdots]
      rfl
  | @single i hi =>
    obtain ⟨b, hb, same⟩ := bound?_of_isBound h hi
    have noDot : '.' ∉ strip isBlank range := fun hdot =>
      not_dot_of_isBound hi ((Text.padded_strip isBlank range).subset hdot)
    have hempty : strip isBlank range ≠ [] := by
      intro hnil
      rw [bound?, hnil] at hb
      cases hb
    have dots : strip isBlank range ≠ ['.', '.'] := by
      intro hdots
      rw [hdots] at noDot
      exact noDot List.mem_cons_self
    unfold cut
    simp only [splitRange_eq_none noDot, bound?_strip, hb]
    rw [if_neg (by simp [hempty, dots]), characterAt_eq h same]
  | @between start stop first past hrange hfirst hpast =>
    subst hrange
    have middle : strip isBlank (start ++ '.' :: '.' :: stop) = _ :=
      Text.strip_between tight_dots nofun start stop
    -- the dots that are found are these, since no side has one
    have noDot : '.' ∉ start.dropWhile isBlank := fun hdot =>
      not_dot_of_isSide hfirst (List.dropWhile_subset _ hdot)
    have hsplit := middle ▸ splitRange_dots noDot (stripEnd isBlank stop)
    obtain ⟨b, hb, sameB⟩ := boundOr_of_isSide h samePlace_zero hfirst
    obtain ⟨c, hc, sameC⟩ := boundOr_of_isSide h (samePlace_length h) hpast
    rw [cut_between h hsplit,
      boundOr_congr (Text.strip_dropWhile isBlank start), hb,
      boundOr_congr (Text.strip_stripEnd isBlank stop), hc, ← slice_eq h sameB sameC]
    rfl

/-- Ranges are cut as the integers that they write say. -/
theorem cut_eq_ok_iff (h : cs.length + 1 < 2 ^ 63) {out : List Char} :
    cut cs range = .ok out ↔ Picks cs range out :=
  ⟨picks_of_cut h, cut_of_picks h⟩

end

/-! ## Substrings -/

theorem substring_eq_ok_iff {value range out : String} {position : Nat} :
    substring value range position = .ok out ↔ cut value.toList range.toList = .ok out.toList := by
  unfold substring
  cases cut value.toList range.toList with
  | error text => simp
  | ok part =>
    simp only [Except.ok.injEq]
    constructor
    · rintro rfl
      rw [String.toList_ofList]
    · rintro rfl
      rw [String.ofList_toList]

/-- A substring is what the range picks from the text, the bounds being integers of any size; what
is no range is refused at its place. So a text is cut in two at every bound. A text in memory is far
shorter than `2 ^ 63` characters. -/
theorem substring_picks {value : String} (h : value.length + 1 < 2 ^ 63) (range : String)
    (position : Nat) :
    (∀ out : String, substring value range position = .ok out ↔
      Picks value.toList range.toList out.toList) ∧
    ((∃ text, substring value range position = .error (.malformed position (.invalidBound text))) ↔
      ∀ out, ¬ Picks value.toList range.toList out) ∧
    ∀ (b : String) (i : Int), IsBound value.length b.toList i →
      ∃ front back, substring value (".." ++ b) position = .ok front ∧
        substring value (b ++ "..") position = .ok back ∧ front ++ back = value := by
  rw [← String.length_toList] at h
  have picks (range out : String) : substring value range position = .ok out ↔
      Picks value.toList range.toList out.toList :=
    substring_eq_ok_iff.trans (cut_eq_ok_iff h)
  refine ⟨picks range, ⟨?_, fun hnone => ?_⟩, fun b i hb => ?_⟩
  · rintro ⟨text, hrefused⟩ out hpicks
    have taken := (picks range (String.ofList out)).2 (by rwa [String.toList_ofList])
    cases hrefused.symm.trans taken
  · unfold substring
    rcases hcut : cut value.toList range.toList with text | out
    · exact ⟨_, rfl⟩
    · exact absurd (picks_of_cut h hcut) (hnone out)
  · rw [← String.length_toList] at hb
    have blank {d : Int} : IsSide value.toList.length d [] d := .blank nofun
    have front : Picks value.toList (".." ++ b).toList (charactersBetween value.toList 0 i) :=
      .between (by simp) blank (.bound hb)
    have back : Picks value.toList (b ++ "..").toList
        (charactersBetween value.toList i value.toList.length) :=
      .between (by simp) (.bound hb) blank
    refine ⟨String.ofList _, String.ofList _, (picks _ _).2 (by rwa [String.toList_ofList]),
      (picks _ _).2 (by rwa [String.toList_ofList]), ?_⟩
    rw [← String.ofList_append, charactersBetween_halves, String.ofList_toList]

-- A bound far in front of the text, counted from its end.
theorem substring_picks_beyond :
    "abc".length + 1 < 2 ^ 63 ∧ substring "abc" " ^ 99999999999999999999..2" 0 = .ok "ab" := by
  have size : "abc".length + 1 < 2 ^ 63 := by decide
  have gap : ∀ c ∈ [' '], isBlank c = true := List.forall_mem_singleton.2 rfl
  have first : IsBound 3 " ^ 99999999999999999999".toList (3 - 99999999999999999999) :=
    @IsBound.fromEnd 3 _ [' '] "99999999999999999999".toList ⟨[' '], [], rfl, gap, nofun⟩ gap
      (isDigits_of_all nofun (by decide))
  have past : IsBound 3 ['2'] 2 :=
    @IsBound.plain 3 _ ['2'] ⟨[], [], rfl, nofun, nofun⟩ (isDigits_of_all nofun rfl)
  refine ⟨size, ((substring_picks size _ 0).1 _).2 ?_⟩
  exact @Picks.between "abc".toList _ " ^ 99999999999999999999".toList ['2'] _ _ rfl (.bound first)
    (.bound past)

end Stencil.Slot
