import Stencil.Proofs.Number.Printing
import Stencil.Proofs.Path.Comparing
import Stencil.Proofs.Path.Composing

/-!
# Filters by the order of numbers

A filter that compares the items of an array with a number keeps those whose values stand in the
relation, both as decimals hold them. Items that are out of reach of decimals are left out, and a
path with a number too large for them is refused.
-/

namespace Stencil

open Decimal (InReach)

/-- The value that the number is printed as. -/
def JsonNumber.exact (n : JsonNumber) : ℚ := textValue n.text.toList

theorem JsonNumber.toDecimal?_reads (n : JsonNumber) :
    Decimal.ReadsIf (InReach n.exact) n.toDecimal? n.exact := by
  have read := Decimal.parse?_printed (isPrinted_text n)
  rwa [String.ofList_toList] at read

end Stencil

namespace Stencil.Path

open Decimal (InReach IsHeld rounded)
open Text (isDigits_of_all)

/-- A document that is an array of numbers. -/
def ofNumbers (xs : List JsonNumber) : Json := .arr (xs.map .num)

section

variable {op : Operator} {relation : ℚ → ℚ → Prop} [DecidableRel relation] {w path : String}

/-- The item is in reach of decimals, and stands in the relation to the number. -/
def keeps (relation : ℚ → ℚ → Prop) [DecidableRel relation] (w : String) (x : JsonNumber) : Bool :=
  decide (InReach x.exact ∧ relation (rounded x.exact) (rounded (textValue w.toList)))

theorem ordered_number_iff {x : JsonNumber} {d : Decimal}
    (hd : d.value = rounded (textValue w.toList)) :
    Ordered relation (.json (.num x)) (.number d) ↔ keeps relation w x = true := by
  have reads := x.toDecimal?_reads
  rw [keeps, decide_eq_true_iff]
  constructor
  · rintro ⟨a, b, ⟨ha⟩, ⟨⟩, related⟩
    by_cases hx : InReach x.exact
    · obtain ⟨a', ha', hvalue⟩ := reads.1 hx
      cases ha.symm.trans ha'
      rw [hvalue, hd] at related
      exact ⟨hx, related⟩
    · cases ha.symm.trans (reads.2 hx)
  · rintro ⟨hx, related⟩
    obtain ⟨a, ha, hvalue⟩ := reads.1 hx
    rw [← hvalue, ← hd] at related
    exact ⟨a, d, .found ha, .written d, related⟩

theorem holds_iff_toOption (l r : Operand) :
    Holds l op r ↔ (l.compare op r).toOption.getD false = true := by
  unfold Holds
  rcases l.compare op r with e | b
  · simp [Except.toOption]
  · simp [Except.toOption]

theorem isExpression_comparison (hop : op ≠ .isEmpty) (hw : IsNumeral w.toList) {d : Decimal}
    (hd : Decimal.parse? w = some d) :
    IsExpression .longest ("@ " ++ op.symbol ++ " " ++ w)
      (.compare ⟨.current, []⟩ op (.literal (.number d))) := by
  have text : ("@ " ++ op.symbol ++ " " ++ w).toList ++ [')'] =
      ['@'] ++ (' ' :: (op.symbol.toList ++ (' ' :: (w.toList ++ [')'])))) := by simp
  unfold IsExpression
  rw [text]
  refine .compare (.mk (.here ['@'] _ rfl trivial) (.nil _)) hop
    (.behind_space op.symbol.toList _ rfl fun _ => rfl)
    (.number ⟨w.toList, .behind_space w.toList _ (.number hw) trivial, ?_⟩)
    (.here [')'] [] rfl trivial)
  rwa [String.ofList_toList]

theorem evaluate_comparison (meaning : ∀ l r, Holds l op r ↔ Ordered relation l r)
    (hop : op ≠ .isEmpty) (hw : IsNumeral w.toList) (fits : Decimal.Fits (textValue w.toList))
    (xs : List JsonNumber) :
    evaluate (ofNumbers xs) ("$[?(@ " ++ op.symbol ++ " " ++ w ++ ")]") =
      .ok (some (ofNumbers (xs.filter (keeps relation w)))) := by
  have read := Decimal.parse?_readsAs hw
  rw [String.ofList_toList] at read
  obtain ⟨d, hd, hvalue⟩ := read.1 fits
  have steps := isSteps_filter (isExpression_comparison hop hw hd)
  have holds (x : JsonNumber) : (Condition.compare ⟨.current, []⟩ op (.literal (.number d))).holds
      (ofNumbers xs) (some (.num x)) = keeps relation w x := by
    rw [Bool.eq_iff_iff, ← ordered_number_iff hvalue, ← meaning, holds_iff_toOption]
    rfl
  rw [evaluate_steps (by simp [String.toList_append]) steps (List.forall_mem_singleton.2 trivial)]
  have picked : pickFrom (ofNumbers xs)
      [.filter (.compare ⟨.current, []⟩ op (.literal (.number d)))] =
      .multi ((xs.map Json.num).filter fun v => (Condition.compare ⟨.current, []⟩ op
        (.literal (.number d))).holds (ofNumbers xs) (some v)) := rfl
  rw [picked, List.filter_map]
  simp only [Function.comp_def, holds]
  rfl

end

/-! ## Numbers that are too large -/

section

variable {op : Operator} {r : Reader} {lexeme a b rest : List Char}

theorem readSide_beyond (hr : r.Is (.operator op) .operand) (hop : op ≠ .isEmpty)
    (hword : Word .longest true .number lexeme r.rest b)
    (hend : Mark .longest true .endExpression b rest)
    (beyond : Decimal.parse? (String.ofList lexeme) = none) : ∃ e, readSide r = .error e := by
  obtain ⟨u, s, hread, hu, rfl, -⟩ :=
    reads_side hr hop (.inl (.inr rfl)) hword (hend.stops rfl rfl rfl) hend
  have hdecimal : ∃ e, u.decimal = .error e := by
    unfold Reader.decimal Reader.text
    rw [beyond]
    exact ⟨_, rfl⟩
  obtain ⟨e, he⟩ := hdecimal
  refine ⟨e, ?_⟩
  unfold readSide
  rw [hread]
  simp only [bind, Except.bind, hu, he]

theorem readCondition_beyond {left : Reference} (hr : r.Is .startExpression .operand)
    (hleft : IsReference .longest left r.rest a) (hop : op ≠ .isEmpty)
    (hmark : Mark .longest true (.operator op) a b)
    (hside : ∀ w : Reader, w.Is (.operator op) .operand → w.rest = b → ∃ e, readSide w = .error e)
    (stops : Stops (· == '=') b) : ∃ e, readCondition r = .error e := by
  obtain ⟨u, v, t, hu, hv, ht, rfl, hcomplete⟩ := readCondition_left hr hleft
  obtain ⟨w, hread, hw, hrest⟩ := reads_operator hv ht hmark stops
  obtain ⟨e, he⟩ := hside w hw hrest
  refine ⟨e, ?_⟩
  unfold readCondition
  rw [hu]
  simp only [bind, Except.bind, hcomplete w hread (.inr ⟨_, hw, hrest ▸ hmark⟩), hw.token]
  cases op
  case isEmpty => exact absurd rfl hop
  all_goals
    simp only [he]

theorem readPathStep_beyond (hr : r.AtNode .path)
    (hopen : Mark .longest false .startFilter r.rest a)
    (hexpr : Mark .longest true .startExpression a b)
    (hcond : ∀ v : Reader, v.Is .startExpression .operand → v.rest = b →
      ∃ e, readCondition v = .error e) :
    ∃ u e, r.read = (.ok true, u) ∧ u.token = some .startFilter ∧ readPathStep u = .error e := by
  obtain ⟨t, hr, ht, -⟩ := hr
  obtain ⟨u, hread, hu, rfl⟩ := reads_behind hr (.opening ht) hopen trivial nofun
  obtain ⟨v, hread', hv, hrest⟩ := reads_behind hu (.expression rfl) hexpr trivial nofun
  obtain ⟨e, he⟩ := hcond v hv hrest
  have hstep : readStep u = .ok (.expression, v) := by
    rw [readStep_filter hu.token hread', hv.token]
    rfl
  refine ⟨u, e, hread, hu.token, ?_⟩
  unfold readPathStep
  rw [hstep]
  simp only [he, bind, Except.bind]

end

theorem evaluate_beyond {op : Operator} {w : String} (hop : op ≠ .isEmpty)
    (hw : IsNumeral w.toList) (beyond : ¬Decimal.Fits (textValue w.toList)) (root : Json) :
    ∃ e, evaluate root ("$[?(@ " ++ op.symbol ++ " " ++ w ++ ")]") = .error e := by
  have none := (Decimal.parse?_readsAs hw).2 beyond
  obtain ⟨number, hnumber⟩ : ∃ cs, cs = ' ' :: (w.toList ++ ([')'] ++ [']'])) := ⟨_, rfl⟩
  obtain ⟨compared, hcompared⟩ : ∃ cs, cs = ' ' :: (op.symbol.toList ++ number) := ⟨_, rfl⟩
  have path : ("$[?(@ " ++ op.symbol ++ " " ++ w ++ ")]").toList =
      '$' :: (['['] ++ (['?', '('] ++ (['@'] ++ compared))) := by
    simp [String.toList_append, hcompared, hnumber]
  have side (u : Reader) (hu : u.Is (.operator op) .operand) (hrest : u.rest = number) :
      ∃ e, readSide u = .error e := by
    have word : Word .longest true .number w.toList u.rest ([')'] ++ [']']) := by
      rw [hrest, hnumber]
      exact .behind_space w.toList _ (.number hw) trivial
    exact readSide_beyond hu hop word (.here [')'] [']'] rfl trivial) none
  have condition (v : Reader) (hv : v.Is .startExpression .operand)
      (hrest : v.rest = ['@'] ++ compared) : ∃ e, readCondition v = .error e := by
    have left : IsReference .longest ⟨.current, []⟩ v.rest compared := by
      rw [hrest]
      exact .mk (.here ['@'] _ rfl trivial) (.nil _)
    have mark : Mark .longest true (.operator op) compared number := by
      rw [hcompared]
      refine .behind_space op.symbol.toList _ rfl fun _ => ?_
      rw [hnumber]
      rfl
    exact readCondition_beyond hv left hop mark side (hnumber ▸ stops_cons rfl)
  obtain ⟨r, hread, hr, hrest⟩ := reads_start path
  have opened : Mark .longest false .startFilter r.rest (['?', '('] ++ (['@'] ++ compared)) := by
    rw [hrest]
    exact .here ['['] _ rfl trivial
  obtain ⟨u, e, hnext, hu, he⟩ := readPathStep_beyond ⟨_, hr, rfl, nofun⟩ opened
    (.here ['?', '('] _ rfl trivial) condition
  have failed : readPath ("$[?(@ " ++ op.symbol ++ " " ++ w ++ ")]") = .error e := by
    unfold readPath
    rw [hread]
    dsimp only
    rw [if_pos hr.token, readSteps_step hnext (by rw [hu]; decide) (by rw [hu]; decide), he]
    rfl
  rcases evaluate_of_readPath_error failed root with he | ⟨f, hf, -⟩
  · exact ⟨e, he⟩
  · exact ⟨f, hf⟩

/-! ## The four orderings -/

theorem inReach_of_isHeld {q : ℚ} (h : IsHeld q) : InReach q ∧ rounded q = q := by
  have fits := Decimal.fits_of_isHeld h
  have same := Decimal.rounded_of_isHeld h
  obtain ⟨m, s, -, hs, hq⟩ := h
  exact ⟨(Decimal.inReach_of_places hq hs).2 fits, same⟩

/-- If decimals can hold the number without places, each ordering keeps the items in reach that
stand in its relation to the number, all values rounded to what decimals hold, which changes none
that they hold exactly. Otherwise the path is refused. -/
theorem evaluate_orderings {w : String} (hw : IsNumeral w.toList) (xs : List JsonNumber) :
    (Decimal.Fits (textValue w.toList) →
      evaluate (ofNumbers xs) ("$[?(@ < " ++ w ++ ")]") =
        .ok (some (ofNumbers (xs.filter fun x =>
          InReach x.exact ∧ rounded x.exact < rounded (textValue w.toList)))) ∧
      evaluate (ofNumbers xs) ("$[?(@ <= " ++ w ++ ")]") =
        .ok (some (ofNumbers (xs.filter fun x =>
          InReach x.exact ∧ rounded x.exact ≤ rounded (textValue w.toList)))) ∧
      evaluate (ofNumbers xs) ("$[?(@ > " ++ w ++ ")]") =
        .ok (some (ofNumbers (xs.filter fun x =>
          InReach x.exact ∧ rounded x.exact > rounded (textValue w.toList)))) ∧
      evaluate (ofNumbers xs) ("$[?(@ >= " ++ w ++ ")]") =
        .ok (some (ofNumbers (xs.filter fun x =>
          InReach x.exact ∧ rounded x.exact ≥ rounded (textValue w.toList))))) ∧
    (¬Decimal.Fits (textValue w.toList) →
      (∃ e, evaluate (ofNumbers xs) ("$[?(@ < " ++ w ++ ")]") = .error e) ∧
      (∃ e, evaluate (ofNumbers xs) ("$[?(@ <= " ++ w ++ ")]") = .error e) ∧
      (∃ e, evaluate (ofNumbers xs) ("$[?(@ > " ++ w ++ ")]") = .error e) ∧
      ∃ e, evaluate (ofNumbers xs) ("$[?(@ >= " ++ w ++ ")]") = .error e) ∧
    ∀ q, IsHeld q → InReach q ∧ rounded q = q := by
  refine ⟨fun fits => ⟨?_, ?_, ?_, ?_⟩, fun beyond => ⟨?_, ?_, ?_, ?_⟩, fun q => inReach_of_isHeld⟩
  · exact evaluate_comparison holds_less_iff nofun hw fits xs
  · exact evaluate_comparison holds_lessEq_iff nofun hw fits xs
  · exact evaluate_comparison holds_greater_iff nofun hw fits xs
  · exact evaluate_comparison holds_greaterEq_iff nofun hw fits xs
  · exact @evaluate_beyond .less w nofun hw beyond _
  · exact @evaluate_beyond .lessEq w nofun hw beyond _
  · exact @evaluate_beyond .greater w nofun hw beyond _
  · exact @evaluate_beyond .greaterEq w nofun hw beyond _

theorem isNumeral_whole {ds : List Char} (hne : ds ≠ []) (h : ds.all Char.isDigit = true) :
    IsNumeral ds :=
  .whole (.inl rfl : IsSign []) (isDigits_of_all hne h)

theorem isNumeral_fraction {ds fs : List Char} (hd : ds ≠ []) (hds : ds.all Char.isDigit = true)
    (hf : fs ≠ []) (hfs : fs.all Char.isDigit = true) : IsNumeral (ds ++ '.' :: fs) :=
  .fraction (.inl rfl : IsSign []) (isDigits_of_all hd hds) (isDigits_of_all hf hfs)

/-- A number that decimals do not reach, printed as `1e+30`. -/
def beyondReach : JsonNumber := .float ⟨false, 7105427357601002, 47⟩

-- Of one, two and a number out of reach, two alone is found to be more than one and a half.
theorem evaluate_orderings_three :
    IsNumeral "1.5".toList ∧
      evaluate (ofNumbers [.int 1, .int 2, beyondReach]) "$[?(@ > 1.5)]" =
        .ok (some (ofNumbers [.int 2])) := by
  have numeral : IsNumeral "1.5".toList := @isNumeral_fraction ['1'] ['5'] nofun rfl nofun rfl
  have fits : Decimal.Fits (textValue "1.5".toList) := by decide +kernel
  have kept := ((evaluate_orderings numeral [.int 1, .int 2, beyondReach]).1 fits).2.2.1
  have two : ([.int 1, .int 2, beyondReach].filter fun x : JsonNumber =>
      InReach x.exact ∧ rounded x.exact > rounded (textValue "1.5".toList)) = [.int 2] := by
    decide +kernel
  rw [two] at kept
  exact ⟨numeral, by simpa using kept⟩

/-- A number below the last place of decimals, printed as `1e-30`. -/
def belowPlaces : JsonNumber := .float ⟨false, 5708990770823840, -152⟩

/-- A number that is rounded at the last place of decimals, printed as `1.5e-28`. -/
def betweenPlaces : JsonNumber := .float ⟨false, 6690223559559187, -145⟩

/-- An item that stands in the relation to a number in exact arithmetic, and is not found. -/
def Missed (relation : ℚ → ℚ → Prop) (x : JsonNumber) (op w : String) : Prop :=
  relation x.exact (textValue w.toList) ∧
    evaluate (ofNumbers [x]) ("$[?(@ " ++ op ++ " " ++ w ++ ")]") = .ok (some (ofNumbers []))

theorem missed_of_not_keeps {op : Operator} {relation : ℚ → ℚ → Prop} [DecidableRel relation]
    {w : String} {x : JsonNumber} (meaning : ∀ l r, Holds l op r ↔ Ordered relation l r)
    (hop : op ≠ .isEmpty) (hw : IsNumeral w.toList) (fits : Decimal.Fits (textValue w.toList))
    (exactly : relation x.exact (textValue w.toList)) (h : keeps relation w x = false) :
    Missed relation x op.symbol w := by
  refine ⟨exactly, ?_⟩
  rw [evaluate_comparison meaning hop hw fits, List.filter_singleton, h]
  rfl

/-- The orderings of filters are not the exact ones: they leave out a number that is too large for
decimals and one that is too small, take two numbers for equal that differ behind the last place,
and refuse a number that is too large. -/
theorem evaluate_orderings_inexact :
    Missed (· > ·) beyondReach ">" "1" ∧
    Missed (· < ·) belowPlaces "<" "1" ∧
    Missed (· < ·) betweenPlaces "<" "0.0000000000000000000000000002" ∧
    ∃ e, evaluate (ofNumbers [.int 1]) "$[?(@ < 79228162514264337593543950336)]" = .error e := by
  have one : IsNumeral "1".toList := isNumeral_whole nofun rfl
  have fits : Decimal.Fits (textValue "1".toList) := by decide +kernel
  have small : IsNumeral "0.0000000000000000000000000002".toList :=
    @isNumeral_fraction ['0'] "0000000000000000000000000002".toList nofun rfl (by decide) rfl
  have large : IsNumeral "79228162514264337593543950336".toList :=
    isNumeral_whole (by decide) rfl
  refine ⟨?_, ?_, ?_, ?_⟩
  · have more : beyondReach.exact > textValue "1".toList := by decide +kernel
    have left : keeps (· > ·) "1" beyondReach = false := by decide +kernel
    exact @missed_of_not_keeps .greater _ _ _ _ holds_greater_iff nofun one fits more left
  · have less : belowPlaces.exact < textValue "1".toList := by decide +kernel
    have left : keeps (· < ·) "1" belowPlaces = false := by decide +kernel
    exact @missed_of_not_keeps .less _ _ _ _ holds_less_iff nofun one fits less left
  · have fits : Decimal.Fits (textValue "0.0000000000000000000000000002".toList) := by
      decide +kernel
    have less : betweenPlaces.exact < textValue "0.0000000000000000000000000002".toList := by
      decide +kernel
    have left : keeps (· < ·) "0.0000000000000000000000000002" betweenPlaces = false := by
      decide +kernel
    exact @missed_of_not_keeps .less _ _ _ _ holds_less_iff nofun small fits less left
  · have text : "$[?(@ < 79228162514264337593543950336)]" =
        "$[?(@ " ++ Operator.less.symbol ++ " " ++ "79228162514264337593543950336" ++ ")]" := by
      decide +kernel
    have beyond : ¬Decimal.Fits (textValue "79228162514264337593543950336".toList) := by
      decide +kernel
    rw [text]
    exact @evaluate_beyond .less _ nofun large beyond _

end Stencil.Path
