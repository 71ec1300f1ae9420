import Stencil.Proofs.Path.Faults
import Stencil.Proofs.Path.Language
import Stencil.Proofs.Positions
import Stencil.Proofs.Text.Digits

/-!
# Indices and slices

Positions in an array are computed in 64 bits, and an index beyond them comes to the nearest one. In
an array of fewer than `2 ^ 63` items this is exact: no step leaves the 64 bits, and an index or a
bound of any number of digits picks what it picks as an integer.
-/

namespace Stencil.Path

/-! ## What an index means -/

/-- An index as a position, counted from the end of `length` items where it is below zero. -/
def positionOf (length : Nat) (i : Int) : Int := if i < 0 then length + i else i

/-- The element at an index from `0` on, or from the end where it is below zero. -/
def elementAt (xs : List Json) (i : Int) : Option Json :=
  if 0 ≤ i ∧ i < xs.length then xs[i.toNat]?
  else if -xs.length ≤ i ∧ i < 0 then xs[(xs.length + i).toNat]?
  else none

/-- The items at the positions from one to another, both included. -/
def itemsBetween (xs : List Json) (first last : Int) : List Json :=
  (xs.zipIdx.filter fun e => first ≤ e.2 ∧ e.2 ≤ last).map Prod.fst

/-- The elements between two bounds, each the end of the array where it is left out. -/
def elementsBetween (xs : List Json) (start stop : Option Int) : List Json :=
  let last : Int := xs.length - 1
  itemsBetween xs (max 0 ((start.map (positionOf xs.length)).getD 0))
    (min last ((stop.map (positionOf xs.length)).getD last))

/-! ## Arithmetic in 64 bits -/

/-- Every step on positions in an array of that length gives in 64 bits what it gives on
integers. -/
structure ExactIn64 (length : Nat) : Prop where
  length_eq : (Int64.ofNat length).toInt = length
  last_eq : (Int64.ofNat length - 1).toInt = length - 1
  fromEnd_eq : ∀ bound : Int64,
    (fromEnd (.ofNat length) bound).toInt = positionOf length bound.toInt

theorem exactIn64 {length : Nat} (h : length < 2 ^ 63) : ExactIn64 length := by
  have size : (Int64.ofNat length).toInt = length := Int64.toInt_ofNat_of_lt h
  refine ⟨size, ?_, fun bound => ?_⟩
  · rw [Int64.toInt_sub, size, Int64.toInt_one]
    exact Int.bmod_eq_of_le (by omega) (by omega)
  · have low := bound.le_toInt
    have high := bound.toInt_lt
    unfold fromEnd positionOf
    by_cases hneg : bound.toInt < 0
    · have below : bound < 0 := Int64.lt_iff_toInt_lt.2 hneg
      rw [if_pos below, if_pos hneg, Int64.toInt_add, size]
      exact Int.bmod_eq_of_le (by omega) (by omega)
    · have notBelow : ¬ bound < 0 := fun h => hneg (Int64.lt_iff_toInt_lt.1 h)
      rw [if_neg notBelow, if_neg hneg]

section

variable {length : Nat}

theorem ExactIn64.toPosition_eq (h : ExactIn64 length) (i : Int) :
    (toPosition length i).toInt = positionOf length (max (-2 ^ 63) (min i (2 ^ 63 - 1))) := by
  rw [toPosition, h.fromEnd_eq, toInt_ofIntClamp_eq]

theorem toPosition_le_iff {p : Nat} (h : length < 2 ^ 63) (hp : p < length) (i : Int) :
    (toPosition length i).toInt ≤ p ↔ positionOf length i ≤ p := by
  rw [(exactIn64 h).toPosition_eq]
  unfold positionOf
  omega

theorem le_toPosition_iff {p : Nat} (h : length < 2 ^ 63) (hp : p < length) (i : Int) :
    p ≤ (toPosition length i).toInt ↔ p ≤ positionOf length i := by
  rw [(exactIn64 h).toPosition_eq]
  unfold positionOf
  omega

end

/-! ## Picking by position -/

theorem elementAt_eq (xs : List Json) (i : Int) :
    elementAt xs i =
      if 0 ≤ positionOf xs.length i ∧ positionOf xs.length i < xs.length then
        xs[(positionOf xs.length i).toNat]?
      else none := by
  unfold elementAt positionOf
  by_cases hneg : i < 0
  · rw [if_neg (by omega), if_pos hneg]
    by_cases hin : -xs.length ≤ i
    · rw [if_pos ⟨hin, hneg⟩, if_pos (by omega)]
    · rw [if_neg (by omega), if_neg (by omega)]
  · rw [if_neg hneg]
    split
    · rfl
    · rw [if_neg (by omega)]

theorem itemAt?_eq_elementAt {xs : List Json} (h : xs.length < 2 ^ 63) (i : Int) :
    itemAt? xs i = elementAt xs i := by
  have hexact := exactIn64 h
  have position := hexact.toPosition_eq i
  rw [elementAt_eq, itemAt?, resolveIndex?]
  generalize toPosition xs.length i = p at position
  have inside : 0 ≤ p ∧ p < .ofNat xs.length ↔ 0 ≤ p.toInt ∧ p.toInt < xs.length := by
    rw [Int64.le_iff_toInt_le, Int64.lt_iff_toInt_lt, hexact.length_eq, Int64.toInt_zero]
  by_cases hp : 0 ≤ p.toInt ∧ p.toInt < xs.length
  · have same : p.toInt = positionOf xs.length i := by
      unfold positionOf at position ⊢
      omega
    rw [if_pos (inside.2 hp), if_pos (same ▸ hp), ← same]
    rfl
  · have beyond : ¬ (0 ≤ positionOf xs.length i ∧ positionOf xs.length i < xs.length) := by
      unfold positionOf at position ⊢
      omega
    rw [if_neg (fun hin => hp (inside.1 hin)), if_neg beyond]
    rfl

theorem itemsBetween_eq_cut {first last : Int} (hfirst : 0 ≤ first) (xs : List Json) :
    itemsBetween xs first last =
      if last < first then [] else (xs.take (last.toNat + 1)).drop first.toNat := by
  unfold itemsBetween
  split
  · have empty : (xs.zipIdx.filter fun e => first ≤ e.2 ∧ (e.2 : Int) ≤ last) = [] := by
      refine List.filter_eq_nil_iff.2 fun e _ => ?_
      simp only [decide_eq_true_eq]
      omega
    rw [empty]
    rfl
  · obtain ⟨a, rfl⟩ := Int.eq_ofNat_of_zero_le hfirst
    obtain ⟨b, rfl⟩ := Int.eq_ofNat_of_zero_le (show 0 ≤ last by omega)
    refine Eq.trans ?_ (filter_positions xs 0 a (b + 1))
    congr 2
    funext e
    simp only [decide_eq_decide]
    omega

theorem itemsBetween_congr {xs : List Json} {first last first' last' : Int}
    (hfirst : ∀ p : Nat, p < xs.length → (first ≤ p ↔ first' ≤ p))
    (hlast : ∀ p : Nat, p < xs.length → ((p : Int) ≤ last ↔ (p : Int) ≤ last')) :
    itemsBetween xs first last = itemsBetween xs first' last' := by
  unfold itemsBetween
  congr 1
  refine List.filter_congr fun e he => ?_
  have hp : e.2 < xs.length := by
    have := List.snd_lt_of_mem_zipIdx he
    omega
  simp only [hfirst e.2 hp, hlast e.2 hp]

theorem sliceItems_eq_itemsBetween (xs : List Json) (start stop : Option Int) :
    sliceItems xs start stop =
      itemsBetween xs (max ((start.map (toPosition xs.length)).getD 0) 0).toInt
        (min ((stop.map (toPosition xs.length)).getD (.ofNat xs.length - 1))
          (.ofNat xs.length - 1)).toInt := by
  rw [itemsBetween_eq_cut, sliceItems]
  · simp only [← Int64.lt_iff_toInt_lt]
    rfl
  · rw [max_toInt, Int64.toInt_zero]
    omega

theorem sliceItems_eq_elementsBetween {xs : List Json} (h : xs.length < 2 ^ 63)
    (start stop : Option Int) : sliceItems xs start stop = elementsBetween xs start stop := by
  have hlast := (exactIn64 h).last_eq
  rw [sliceItems_eq_itemsBetween, max_toInt, min_toInt, hlast]
  refine itemsBetween_congr (fun p hp => ?_) fun p hp => ?_
  · cases start with
    | none => simp
    | some i =>
      have bounded := toPosition_le_iff h hp i
      simp only [Option.map_some, Option.getD_some, Int64.toInt_zero]
      omega
  · cases stop with
    | none =>
      simp only [Option.map_none, Option.getD_none, hlast]
    | some i =>
      have bounded := le_toPosition_iff h hp i
      simp only [Option.map_some, Option.getD_some]
      omega

/-! ## Indices in paths -/

/-- The text writes an integer in decimal digits, as many as there are. -/
inductive IsInteger : String → Int → Prop where
  | plain {ds : List Char} : IsDigits ds → IsInteger (String.ofList ds) (Text.natOfDigits ds)
  | minus {ds : List Char} :
    IsDigits ds → IsInteger (String.ofList ('-' :: ds)) (-(Text.natOfDigits ds : Int))

/-- A bound of a slice, which may be left out. -/
inductive IsBound : String → Option Int → Prop where
  | absent : IsBound "" none
  | present {text : String} {i : Int} : IsInteger text i → IsBound text (some i)

theorem int?_of_isInteger {text : String} {i : Int} (h : IsInteger text i) :
    Text.int? text.toList = some i := by
  cases h with
  | minus hd =>
    rw [String.toList_ofList, Text.int?, Text.nat?_of_isDigits hd]
    rfl
  | @plain ds hd =>
    have digits := Text.nat?_of_isDigits hd
    obtain ⟨d, tail, rfl, digit⟩ := hd.head
    rw [String.toList_ofList]
    unfold Text.int?
    split
    · next he =>
      cases he
      exact absurd digit (by decide)
    · next he =>
      cases he
      exact absurd digit (by decide)
    · rw [digits]
      rfl

theorem isNumeral_of_isInteger {text : String} {i : Int} (h : IsInteger text i) :
    IsNumeral text.toList := by
  cases h with
  | plain hd =>
    rw [String.toList_ofList]
    exact .whole (.inl rfl : IsSign []) hd
  | minus hd =>
    rw [String.toList_ofList]
    exact .whole (.inr rfl : IsSign ['-']) hd

theorem isIndex_of_isInteger {text : String} {i : Int} (h : IsInteger text i) (rest : List Char) :
    IsIndex .longest i (text.toList ++ rest) rest :=
  ⟨_, .here _ rest (.number (isNumeral_of_isInteger h)) trivial, int?_of_isInteger h⟩

theorem maybe_isIndex_of_isBound {text : String} {bound : Option Int} (h : IsBound text bound)
    (rest : List Char) : Maybe (IsIndex .longest) bound (text.toList ++ rest) rest := by
  cases h with
  | absent => exact .none _
  | present hi => exact .some (isIndex_of_isInteger hi rest)

theorem listed_of_isInteger {e : String × Int} {items : List (String × Int)}
    (h : ∀ f ∈ e :: items, IsInteger f.1 f.2) (rest : List Char) :
    Listed (IsIndex .longest) ((e :: items).map Prod.snd)
      ((",".intercalate ((e :: items).map Prod.fst)).toList ++ rest) rest := by
  induction items generalizing e with
  | nil =>
    rw [List.map_singleton, List.map_singleton, String.intercalate_singleton]
    exact .mk (isIndex_of_isInteger (h e List.mem_cons_self) rest) (.nil rest)
  | cons f items ih =>
    have more := ih fun g hg => h g (List.mem_cons_of_mem e hg)
    have text : (",".intercalate ((e :: f :: items).map Prod.fst)).toList =
        e.1.toList ++ (',' :: (",".intercalate ((f :: items).map Prod.fst)).toList) := by
      simp [String.intercalate_cons_cons]
    rw [text, List.append_assoc, List.cons_append]
    generalize (",".intercalate ((f :: items).map Prod.fst)).toList ++ rest = behind at more
    have first := isIndex_of_isInteger (h e List.mem_cons_self) (',' :: behind)
    cases more with
    | mk hf hmore => exact .mk first (.cons ⟨behind, ⟨[], rfl, nofun⟩, hf⟩ hmore)

/-- A path of one bracket picks what the bracket says. -/
theorem evaluate_bracket {path : String} {cs : List Char} {s : Selector}
    (hpath : path.toList = '$' :: '[' :: cs) (h : IsBracket .longest s cs []) (root : Json) :
    evaluate root path = .ok (s.pick root).toJson? := by
  have steps : IsPath .longest path [.select s] := by
    refine ⟨'[' :: cs, ?_, .cons (.select (.bracket (.here ['['] cs rfl trivial) h)) (.nil [])⟩
    rw [hpath]
    exact .here ['$'] _ rfl trivial
  refine (evaluate_of_readPath_ok (readPath_eq_ok_iff.2 steps) root).resolve_right ?_
  rintro ⟨-, -, -, -, hregex⟩
  exact hregex (by simp [PathStep.Compiles])

/-- Indices and slices of any size pick what they pick as integers, and the arithmetic on positions
stays within 64 bits. -/
theorem evaluate_positions {xs : List Json} (h : xs.length < 2 ^ 63) :
    (∀ text i, IsInteger text i →
      evaluate (.arr xs) ("$[" ++ text ++ "]") = .ok (elementAt xs i)) ∧
    (∀ items : List (String × Int), 2 ≤ items.length → (∀ e ∈ items, IsInteger e.1 e.2) →
      evaluate (.arr xs) ("$[" ++ ",".intercalate (items.map Prod.fst) ++ "]") =
        .ok (some (.arr ((items.map Prod.snd).filterMap (elementAt xs))))) ∧
    (∀ first last start stop, IsBound first start → IsBound last stop →
      evaluate (.arr xs) ("$[" ++ first ++ ":" ++ last ++ "]") =
        .ok (some (.arr (elementsBetween xs start stop)))) ∧
    ExactIn64 xs.length ∧
    ∀ i, (Int64.ofIntClamp i).toInt = max (-2 ^ 63) (min i (2 ^ 63 - 1)) := by
  have close : Mark .longest true .endFilter [']'] [] := .here [']'] [] rfl trivial
  refine ⟨fun text i hi => ?_, fun items hlen hitems => ?_,
    fun first last start stop hfirst hlast => ?_, exactIn64 h, toInt_ofIntClamp_eq⟩
  · have bracket := IsBracket.index (isIndex_of_isInteger hi [']']) close
    rw [evaluate_bracket (by simp) bracket, Selector.pick, itemAt?_eq_elementAt h]
    cases elementAt xs i <;> rfl
  · obtain ⟨e, f, more, rfl⟩ : ∃ e f more, items = e :: f :: more := by
      match items, hlen with
      | e :: f :: more, _ => exact ⟨e, f, more, rfl⟩
    have bracket := IsBracket.indices (listed_of_isInteger hitems [']']) close
    have picked : itemAt? xs = elementAt xs := funext (itemAt?_eq_elementAt h)
    rw [evaluate_bracket (by simp) bracket, Selector.pick, picked]
    rfl
  · have colon (rest : List Char) : Mark .longest true .slice (':' :: rest) rest :=
      .here [':'] rest rfl trivial
    have bracket := IsBracket.slice (maybe_isIndex_of_isBound hfirst _) (colon _)
      (maybe_isIndex_of_isBound hlast [']']) close
    rw [evaluate_bracket (by simp) bracket, Selector.pick, sliceItems_eq_elementsBetween h]
    rfl

-- A slice from far below the array to its first item.
theorem evaluate_positions_beyond :
    [Json.null, .bool true].length < 2 ^ 63 ∧
      evaluate (.arr [.null, .bool true]) "$[-99999999999999999999:0]" =
        .ok (some (.arr [.null])) := by
  have size : [Json.null, .bool true].length < 2 ^ 63 := by decide
  have below : IsInteger "-99999999999999999999" (-99999999999999999999) :=
    @IsInteger.minus "99999999999999999999".toList ⟨nofun, List.all_eq_true.1 (by decide)⟩
  have zero : IsInteger "0" 0 := @IsInteger.plain ['0'] ⟨nofun, List.all_eq_true.1 (by decide)⟩
  exact ⟨size, (evaluate_positions size).2.2.1 _ _ _ _ (.present below) (.present zero)⟩

end Stencil.Path
