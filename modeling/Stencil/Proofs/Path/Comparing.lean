import Stencil.Path.Operand
import Stencil.Proofs.Json.Equality
import Stencil.Proofs.Number.Shortest

/-!
# The operators of filters

What the operators say of the two sides, by the laws between them: which are the negations of
which, that equality is an equivalence, that the orderings are the order of numbers, and that those
on lists come down to equality with a member.
-/

namespace Stencil.Path

/-- The operator says yes. -/
def Holds (l : Operand) (op : Operator) (r : Operand) : Prop := l.compare op r = .ok true

/-- A number within reach of decimals, found by a path or written. -/
inductive IsNumber : Operand → Decimal → Prop
  | found {n : JsonNumber} {d : Decimal} : n.toDecimal? = some d → IsNumber (.json (.num n)) d
  | written (d : Decimal) : IsNumber (.number d) d

/-- A number, a text or a truth value. -/
inductive IsScalar : Operand → Prop
  | number {l : Operand} {d : Decimal} : IsNumber l d → IsScalar l
  | found_text (s : String) : IsScalar (.json (.str s))
  | text (s : String) : IsScalar (.string s)
  | bool (b : Bool) : IsScalar (.json (.bool b))

/-- The second operand stands in the list that is the first. -/
inductive IsMember : Operand → Operand → Prop
  | item {xs : List Json} {x : Json} : x ∈ xs → IsMember (.json (.arr xs)) (.json x)
  | string {items : List String} {s : String} : s ∈ items → IsMember (.strings items) (.string s)
  | number {items : List Decimal} {d : Decimal} : d ∈ items → IsMember (.numbers items) (.number d)

/-- What can be equal to something: a value found by a path, a number or a text. -/
def IsPlain : Operand → Prop
  | .json v => Template.NamesDiffer v
  | .number _ | .string _ => True
  | .regex _ | .strings _ | .numbers _ | .undefined => False

/-! ## Scalars -/

theorem isNumber_iff (l : Operand) (d : Decimal) :
    IsNumber l d ↔ l.scalar? = some (.number d) := by
  constructor
  · rintro (h | _)
    · simp [Operand.scalar?, Scalar.ofJson?, h]
    · rfl
  · intro h
    cases l with
    | json v =>
      cases v with
      | num n =>
        obtain ⟨_, hd, ⟨⟩⟩ := Option.map_eq_some_iff.1 h
        exact .found hd
      | null | bool | str | arr | obj => cases h
    | number =>
      cases h
      exact .written d
    | string | regex | strings | numbers | undefined => cases h

theorem isScalar_iff (l : Operand) : IsScalar l ↔ ∃ s, l.scalar? = some s := by
  constructor
  · rintro (h | _ | _ | _)
    · exact ⟨_, (isNumber_iff _ _).1 h⟩
    all_goals exact ⟨_, rfl⟩
  · rintro ⟨s, h⟩
    cases s with
    | number d => exact .number ((isNumber_iff l d).2 h)
    | text s =>
      cases l with
      | json v =>
        cases v with
        | str s => exact .found_text s
        | num n => obtain ⟨_, _, ⟨⟩⟩ := Option.map_eq_some_iff.1 h
        | null | bool | arr | obj => cases h
      | string s => exact .text s
      | number | regex | strings | numbers | undefined => cases h
    | bool b =>
      cases l with
      | json v =>
        cases v with
        | bool b => exact .bool b
        | num n => obtain ⟨_, _, ⟨⟩⟩ := Option.map_eq_some_iff.1 h
        | null | str | arr | obj => cases h
      | string | number | regex | strings | numbers | undefined => cases h

namespace Scalar

theorem equal_refl (a : Scalar) : a.equal a = true := by
  cases a with
  | number d => exact (Decimal.equal_iff d d).2 rfl
  | text s | bool b => exact beq_self_eq_true _

theorem equal_symm {a b : Scalar} (h : a.equal b = true) : b.equal a = true := by
  cases a <;> cases b <;> first | cases h | skip
  case number.number d e => exact (Decimal.equal_iff e d).2 ((Decimal.equal_iff d e).1 h).symm
  case text.text s t => exact beq_iff_eq.2 (beq_iff_eq.1 h).symm
  case bool.bool s t => exact beq_iff_eq.2 (beq_iff_eq.1 h).symm

theorem equal_trans {a b c : Scalar} (hab : a.equal b = true) (hbc : b.equal c = true) :
    a.equal c = true := by
  cases a <;> cases b <;> cases c <;> first | cases hab | cases hbc | skip
  case number.number.number d e f =>
    exact (Decimal.equal_iff d f).2
      (((Decimal.equal_iff d e).1 hab).trans ((Decimal.equal_iff e f).1 hbc))
  case text.text.text s t u => exact beq_iff_eq.2 ((beq_iff_eq.1 hab).trans (beq_iff_eq.1 hbc))
  case bool.bool.bool s t u => exact beq_iff_eq.2 ((beq_iff_eq.1 hab).trans (beq_iff_eq.1 hbc))

theorem toDecimal?_isSome_of_equal {m n : JsonNumber} (h : m.equal n = true) :
    m.toDecimal?.isSome = n.toDecimal?.isSome := by
  cases m <;> cases n <;> first | cases h | skip
  case int.int a b => rw [beq_iff_eq.1 h]
  case float.float x y =>
    have zero {z : Binary64} (hz : z.isZero = true) :
        (JsonNumber.float z).toDecimal?.isSome = true := by
      have text : (JsonNumber.float z).text = (if z.negative then "-" else "") ++ "0.0" :=
        Binary64.text_of_isZero hz
      rw [JsonNumber.toDecimal?, text]
      cases z.negative <;> rfl
    rcases (Binary64.equal_iff x y).1 h with rfl | ⟨hx, hy⟩
    · rfl
    · rw [zero hx, zero hy]

theorem ofJson?_isSome_of_equal {v w : Json} (h : v.equal w = true) :
    (ofJson? v).isSome = (ofJson? w).isSome := by
  cases (Json.equal_iff v w).1 h with
  | num h => simpa [ofJson?] using toDecimal?_isSome_of_equal h
  | null | bool | str | arr | obj => rfl

end Scalar

/-! ## Equality -/

/-- Two operands are the same scalar, or the same value that is none. -/
inductive Same : Operand → Operand → Prop
  | scalar {l r : Operand} {a b : Scalar} : l.scalar? = some a → r.scalar? = some b →
      a.equal b = true → Same l r
  | value {v w : Json} : Scalar.ofJson? v = none → Scalar.ofJson? w = none → v.equal w = true →
      Same (.json v) (.json w)

theorem equal_iff (l r : Operand) : l.equal r = true ↔ Same l r := by
  constructor
  · intro h
    unfold Operand.equal at h
    split at h
    · next hl hr => exact .scalar hl hr h
    · next mixed =>
      -- where one side is no scalar values are compared whole, and are equal only if both are none
      split at h
      · next v w =>
        have alike := Scalar.ofJson?_isSome_of_equal h
        cases hv : Scalar.ofJson? v with
        | none =>
          rw [hv] at alike
          have hw := Option.isSome_eq_false_iff.1 alike.symm
          exact .value hv (Option.isNone_iff_eq_none.1 hw) h
        | some a =>
          rw [hv] at alike
          obtain ⟨b, hw⟩ := Option.isSome_iff_exists.1 alike.symm
          exact (mixed a b hv hw).elim
      · cases h
  · rintro (⟨hl, hr, h⟩ | ⟨hv, hw, h⟩)
    · simpa [Operand.equal, hl, hr] using h
    · simpa [Operand.equal, Operand.scalar?, hv, hw] using h

theorem Same.refl {l : Operand} (h : IsPlain l) : Same l l := by
  cases l with
  | json v =>
    cases hv : Scalar.ofJson? v with
    | none => exact .value hv hv (Json.equal_refl h)
    | some a => exact .scalar hv hv a.equal_refl
  | number d => exact .scalar rfl rfl (Scalar.equal_refl _)
  | string s => exact .scalar rfl rfl (Scalar.equal_refl _)
  | regex | strings | numbers | undefined => exact h.elim

theorem Same.symm {l r : Operand} (hl : IsPlain l) (hr : IsPlain r) (h : Same l r) : Same r l := by
  cases h with
  | scalar ha hb h => exact .scalar hb ha (Scalar.equal_symm h)
  | value hv hw h => exact .value hw hv (Json.equal_symm hl hr h)

theorem Same.trans {l m r : Operand} (hlm : Same l m) (hmr : Same m r) : Same l r := by
  cases hlm with
  | scalar hl hm hlm =>
    cases hmr with
    | scalar hm' hr hmr =>
      cases hm.symm.trans hm'
      exact .scalar hl hr (Scalar.equal_trans hlm hmr)
    | value hm' => cases hm.symm.trans hm'
  | value hl hm hlm =>
    cases hmr with
    | scalar hm' => cases hm.symm.trans hm'
    | value _ hr hmr => exact .value hl hr (Json.equal_trans hlm hmr)

/-! ## Lists -/

theorem contains_iff (list : Operand) (needle : Scalar) :
    list.contains needle = true ↔
      ∃ m a, IsMember list m ∧ m.scalar? = some a ∧ a.equal needle = true := by
  constructor
  · intro h
    cases list with
    | json v =>
      cases v with
      | arr xs =>
        obtain ⟨a, ha, heq⟩ := List.any_eq_true.1 h
        obtain ⟨x, hx, hxa⟩ := List.mem_filterMap.1 ha
        exact ⟨.json x, a, .item hx, hxa, heq⟩
      | null | bool | num | str | obj => cases h
    | strings items =>
      obtain ⟨a, ha, heq⟩ := List.any_eq_true.1 h
      obtain ⟨s, hs, rfl⟩ := List.mem_map.1 ha
      exact ⟨.string s, _, .string hs, rfl, heq⟩
    | numbers items =>
      obtain ⟨a, ha, heq⟩ := List.any_eq_true.1 h
      obtain ⟨d, hd, rfl⟩ := List.mem_map.1 ha
      exact ⟨.number d, _, .number hd, rfl, heq⟩
    | number | string | regex | undefined => cases h
  · rintro ⟨_, a, ⟨hx⟩ | ⟨hs⟩ | ⟨hd⟩, ha, heq⟩
    · exact List.any_eq_true.2 ⟨a, List.mem_filterMap.2 ⟨_, hx, ha⟩, heq⟩
    · cases ha
      exact List.any_eq_true.2 ⟨_, List.mem_map.2 ⟨_, hs, rfl⟩, heq⟩
    · cases ha
      exact List.any_eq_true.2 ⟨_, List.mem_map.2 ⟨_, hd, rfl⟩, heq⟩

theorem isIn_iff (l r : Operand) :
    l.isIn r = true ↔ IsScalar l ∧ ∃ m, IsMember r m ∧ IsScalar m ∧ Same m l := by
  rw [isScalar_iff]
  constructor
  · intro h
    cases hl : l.scalar? with
    | none => simp [Operand.isIn, hl] at h
    | some a =>
      have found : r.contains a = true := by simpa [Operand.isIn, hl] using h
      obtain ⟨m, b, hm, hb, heq⟩ := (contains_iff r a).1 found
      exact ⟨⟨a, rfl⟩, m, hm, (isScalar_iff m).2 ⟨b, hb⟩, .scalar hb hl heq⟩
  · rintro ⟨⟨a, hl⟩, m, hm, hscalar, hsame⟩
    have found : r.contains a = true := by
      cases hsame with
      | scalar hb hl' heq =>
        cases hl.symm.trans hl'
        exact (contains_iff r a).2 ⟨m, _, hm, hb, heq⟩
      | value _ hl' => cases hl.symm.trans hl'
    simpa [Operand.isIn, hl] using found

/-! ## Orderings -/

theorem order?_eq_some_iff (l r : Operand) (o : Ordering) :
    l.order? r = some o ↔ ∃ a b, IsNumber l a ∧ IsNumber r b ∧ a.compare b = o := by
  simp only [isNumber_iff]
  constructor
  · intro h
    unfold Operand.order? at h
    split at h
    · next a b hl hr => exact ⟨a, b, hl, hr, Option.some.inj h⟩
    · cases h
  · rintro ⟨a, b, hl, hr, rfl⟩
    simp [Operand.order?, hl, hr]

/-! ## Operators -/

theorem compare_returns (l : Operand) {op : Operator} (h : op ≠ .resembles) (r : Operand) :
    ∃ b, l.compare op r = .ok b := by
  unfold Operand.compare
  split
  · exact ⟨false, rfl⟩
  · cases op with
    | resembles => exact (h rfl).elim
    | _ => exact ⟨_, rfl⟩

theorem compare_undefined (op : Operator) (r : Operand) :
    Operand.undefined.compare op r = .ok false := rfl

theorem isUndefined_of_ne {l : Operand} (h : l ≠ .undefined) : l.isUndefined = false := by
  cases l with
  | undefined => exact (h rfl).elim
  | _ => rfl

theorem holds_iff_of_guard {l r : Operand} {op : Operator} {holds : Bool}
    (guarded : l.compare op r = if l.isUndefined then .ok false else .ok holds)
    (undefined : l = .undefined → holds = false) : Holds l op r ↔ holds = true := by
  by_cases h : l = .undefined
  · subst h
    rw [undefined rfl]
    exact iff_of_false nofun nofun
  · rw [Holds, guarded, isUndefined_of_ne h]
    exact Except.ok.injEq _ _ |>.to_iff

theorem holds_equal_iff (l r : Operand) : Holds l .equal r ↔ Same l r :=
  (holds_iff_of_guard rfl (by rintro rfl; rfl)).trans (equal_iff l r)

theorem holds_isIn_iff (l r : Operand) :
    Holds l .isIn r ↔ IsScalar l ∧ ∃ m, IsMember r m ∧ IsScalar m ∧ Same m l :=
  (holds_iff_of_guard rfl (by rintro rfl; rfl)).trans (isIn_iff l r)

theorem holds_notEqual_iff {l : Operand} (h : l ≠ .undefined) (r : Operand) :
    Holds l .notEqual r ↔ ¬ Holds l .equal r := by
  simp [Holds, Operand.compare, isUndefined_of_ne h]

theorem holds_notIn_iff {l : Operand} (h : l ≠ .undefined) (r : Operand) :
    Holds l .notIn r ↔ ¬ Holds l .isIn r := by
  simp [Holds, Operand.compare, isUndefined_of_ne h]

theorem holds_noneOf_iff {l : Operand} (h : l ≠ .undefined) (r : Operand) :
    Holds l .noneOf r ↔ ¬ Holds l .anyOf r := by
  simp [Holds, Operand.compare, isUndefined_of_ne h]

theorem holdsItem_iff (r : Operand) (x : Json) :
    r.holdsItem x = true ↔ Holds (.json x) .isIn r :=
  have guarded : Holds (.json x) .isIn r ↔ (Operand.json x).isIn r = true :=
    holds_iff_of_guard rfl nofun
  guarded.symm

theorem holds_subsetOf_iff (xs : List Json) (r : Operand) :
    Holds (.json (.arr xs)) .subsetOf r ↔ ∀ x ∈ xs, Holds (.json x) .isIn r := by
  have guarded : Holds (.json (.arr xs)) .subsetOf r ↔ xs.all r.holdsItem = true :=
    holds_iff_of_guard rfl nofun
  rw [guarded, List.all_eq_true]
  exact forall₂_congr fun x _ => holdsItem_iff r x

theorem holds_anyOf_iff (xs : List Json) (r : Operand) :
    Holds (.json (.arr xs)) .anyOf r ↔ ∃ x ∈ xs, Holds (.json x) .isIn r := by
  have guarded : Holds (.json (.arr xs)) .anyOf r ↔ xs.any r.holdsItem = true :=
    holds_iff_of_guard rfl nofun
  rw [guarded, List.any_eq_true]
  exact exists_congr fun x => and_congr_right fun _ => holdsItem_iff r x

/-- Both sides are numbers, and their values stand in the relation. -/
def Ordered (relation : ℚ → ℚ → Prop) (l r : Operand) : Prop :=
  ∃ a b, IsNumber l a ∧ IsNumber r b ∧ relation a.value b.value

theorem order?_eq_lt_iff (l r : Operand) : l.order? r = some .lt ↔ Ordered (· < ·) l r := by
  simp only [order?_eq_some_iff, Decimal.compare_eq_lt_iff, Ordered]

theorem order?_eq_gt_iff (l r : Operand) : l.order? r = some .gt ↔ Ordered (· > ·) l r := by
  simp only [order?_eq_some_iff, Decimal.compare_eq_gt_iff, Ordered, gt_iff_lt]

theorem order?_eq_eq_iff (l r : Operand) : l.order? r = some .eq ↔ Ordered (· = ·) l r := by
  simp only [order?_eq_some_iff, Decimal.compare_eq_eq_iff, Ordered]

theorem ordered_or (p q : ℚ → ℚ → Prop) (l r : Operand) :
    Ordered p l r ∨ Ordered q l r ↔ Ordered (fun x y => p x y ∨ q x y) l r := by
  simp only [Ordered, ← exists_or, ← and_or_left]

theorem holds_less_iff (l r : Operand) : Holds l .less r ↔ Ordered (· < ·) l r := by
  refine (holds_iff_of_guard rfl (by rintro rfl; rfl)).trans ?_
  rw [beq_iff_eq, order?_eq_lt_iff]

theorem holds_greater_iff (l r : Operand) : Holds l .greater r ↔ Ordered (· > ·) l r := by
  refine (holds_iff_of_guard rfl (by rintro rfl; rfl)).trans ?_
  rw [beq_iff_eq, order?_eq_gt_iff]

theorem holds_lessEq_iff (l r : Operand) : Holds l .lessEq r ↔ Ordered (· ≤ ·) l r := by
  refine (holds_iff_of_guard rfl (by rintro rfl; rfl)).trans ?_
  rw [Bool.or_eq_true, beq_iff_eq, beq_iff_eq, order?_eq_lt_iff, order?_eq_eq_iff, ordered_or]
  simp only [← le_iff_lt_or_eq]

theorem holds_greaterEq_iff (l r : Operand) : Holds l .greaterEq r ↔ Ordered (· ≥ ·) l r := by
  refine (holds_iff_of_guard rfl (by rintro rfl; rfl)).trans ?_
  rw [Bool.or_eq_true, beq_iff_eq, beq_iff_eq, order?_eq_gt_iff, order?_eq_eq_iff, ordered_or]
  simp only [ge_iff_le, gt_iff_lt, le_iff_lt_or_eq, eq_comm]

theorem holds_equal_of_isNumber {l r : Operand} {a b : Decimal} (hl : IsNumber l a)
    (hr : IsNumber r b) : Holds l .equal r ↔ a.value = b.value := by
  rw [isNumber_iff] at hl hr
  have guarded : Holds l .equal r ↔ l.equal r = true := holds_iff_of_guard rfl (by rintro rfl; rfl)
  have both : l.equal r = a.equal b := by simp [Operand.equal, hl, hr, Scalar.equal]
  rw [guarded, both, Decimal.equal_iff]

theorem IsNumber.unique {l : Operand} {a b : Decimal} (ha : IsNumber l a) (hb : IsNumber l b) :
    a = b := by
  rw [isNumber_iff] at ha hb
  cases ha.symm.trans hb
  rfl

theorem ordered_of_isNumber {relation : ℚ → ℚ → Prop} {l r : Operand} {a b : Decimal}
    (hl : IsNumber l a) (hr : IsNumber r b) : Ordered relation l r ↔ relation a.value b.value := by
  constructor
  · rintro ⟨a', b', hl', hr', h⟩
    rwa [hl.unique hl', hr.unique hr']
  · exact fun h => ⟨a, b, hl, hr, h⟩

/-- One and no more. -/
def ExactlyOne (p q r : Prop) : Prop := (p ∧ ¬q ∧ ¬r) ∨ (¬p ∧ q ∧ ¬r) ∨ (¬p ∧ ¬q ∧ r)

theorem exactlyOne_order (x y : ℚ) : ExactlyOne (x < y) (x = y) (y < x) := by
  rcases lt_trichotomy x y with h | h | h
  · exact .inl ⟨h, h.ne, h.asymm⟩
  · exact .inr (.inl ⟨h.not_lt, h, h.symm.not_lt⟩)
  · exact .inr (.inr ⟨h.asymm, h.ne', h⟩)

/-! ## The laws together -/

section

variable {l m r : Operand} {a b : Decimal}

theorem holds_equal_refl (h : IsPlain l) : Holds l .equal l := (holds_equal_iff l l).2 (.refl h)

theorem holds_equal_symm (hl : IsPlain l) (hr : IsPlain r) (h : Holds l .equal r) :
    Holds r .equal l :=
  (holds_equal_iff r l).2 (((holds_equal_iff l r).1 h).symm hl hr)

theorem holds_equal_trans (hlm : Holds l .equal m) (hmr : Holds m .equal r) : Holds l .equal r :=
  (holds_equal_iff l r).2 (((holds_equal_iff l m).1 hlm).trans ((holds_equal_iff m r).1 hmr))

theorem isNumber_of_holds {op : Operator}
    (hop : op ∈ [Operator.less, .lessEq, .greater, .greaterEq]) (h : Holds l op r) :
    (∃ a, IsNumber l a) ∧ ∃ b, IsNumber r b := by
  have numbers : ∃ relation, Ordered relation l r := by
    simp only [List.mem_cons, List.not_mem_nil, or_false] at hop
    rcases hop with rfl | rfl | rfl | rfl
    · exact ⟨_, (holds_less_iff l r).1 h⟩
    · exact ⟨_, (holds_lessEq_iff l r).1 h⟩
    · exact ⟨_, (holds_greater_iff l r).1 h⟩
    · exact ⟨_, (holds_greaterEq_iff l r).1 h⟩
  obtain ⟨_, a, b, hl, hr, -⟩ := numbers
  exact ⟨⟨a, hl⟩, b, hr⟩

theorem holds_less_of_isNumber (hl : IsNumber l a) (hr : IsNumber r b) :
    Holds l .less r ↔ a.value < b.value :=
  (holds_less_iff l r).trans (ordered_of_isNumber hl hr)

theorem exactlyOne_holds (hl : IsNumber l a) (hr : IsNumber r b) :
    ExactlyOne (Holds l .less r) (Holds l .equal r) (Holds r .less l) := by
  rw [holds_less_of_isNumber hl hr, holds_equal_of_isNumber hl hr, holds_less_of_isNumber hr hl]
  exact exactlyOne_order a.value b.value

theorem holds_lessEq_of_isNumber (hl : IsNumber l a) (hr : IsNumber r b) :
    Holds l .lessEq r ↔ Holds l .less r ∨ Holds l .equal r := by
  rw [holds_lessEq_iff, ordered_of_isNumber hl hr, holds_less_of_isNumber hl hr,
    holds_equal_of_isNumber hl hr, le_iff_lt_or_eq]

theorem holds_greaterEq_of_isNumber (hl : IsNumber l a) (hr : IsNumber r b) :
    Holds l .greaterEq r ↔ Holds l .greater r ∨ Holds l .equal r := by
  rw [holds_greaterEq_iff, holds_greater_iff, ordered_of_isNumber hl hr, ordered_of_isNumber hl hr,
    holds_equal_of_isNumber hl hr, ge_iff_le, le_iff_lt_or_eq, gt_iff_lt, eq_comm]

theorem holds_less_iff_greater (l r : Operand) : Holds l .less r ↔ Holds r .greater l := by
  rw [holds_less_iff, holds_greater_iff]
  constructor
  · rintro ⟨a, b, hl, hr, h⟩
    exact ⟨b, a, hr, hl, h⟩
  · rintro ⟨b, a, hr, hl, h⟩
    exact ⟨a, b, hl, hr, h⟩

end

/-- The laws of the operators of filters. Only the search in a text fails, and nothing holds of what
is undefined; of anything else three operators are the negations of three others. Equality is an
equivalence of values, numbers and texts. The orderings hold of numbers alone, and order them by
their values. A scalar is in a list that has a scalar equal to it, and the operators on lists ask
this of every item or of one. -/
theorem compare_laws (l m r : Operand) :
    (∀ op, op ≠ .resembles → ∃ b, l.compare op r = .ok b) ∧
    (∀ op, Operand.undefined.compare op r = .ok false) ∧
    (l ≠ .undefined →
      (Holds l .notEqual r ↔ ¬ Holds l .equal r) ∧
      (Holds l .notIn r ↔ ¬ Holds l .isIn r) ∧
      (Holds l .noneOf r ↔ ¬ Holds l .anyOf r)) ∧
    (IsPlain l → Holds l .equal l) ∧
    (IsPlain l → IsPlain r → Holds l .equal r → Holds r .equal l) ∧
    (Holds l .equal m → Holds m .equal r → Holds l .equal r) ∧
    (∀ op ∈ [Operator.less, .lessEq, .greater, .greaterEq], Holds l op r →
      (∃ a, IsNumber l a) ∧ ∃ b, IsNumber r b) ∧
    (∀ a b, IsNumber l a → IsNumber r b →
      (Holds l .less r ↔ a.value < b.value) ∧
      (Holds l .equal r ↔ a.value = b.value) ∧
      ExactlyOne (Holds l .less r) (Holds l .equal r) (Holds r .less l) ∧
      (Holds l .lessEq r ↔ Holds l .less r ∨ Holds l .equal r) ∧
      (Holds l .greaterEq r ↔ Holds l .greater r ∨ Holds l .equal r)) ∧
    (Holds l .less r ↔ Holds r .greater l) ∧
    (Holds l .isIn r ↔ IsScalar l ∧ ∃ x, IsMember r x ∧ IsScalar x ∧ Holds x .equal l) ∧
    (∀ xs, Holds (.json (.arr xs)) .subsetOf r ↔ ∀ x ∈ xs, Holds (.json x) .isIn r) ∧
    (∀ xs, Holds (.json (.arr xs)) .anyOf r ↔ ∃ x ∈ xs, Holds (.json x) .isIn r) := by
  refine ⟨fun _ hop => compare_returns l hop r, fun op => compare_undefined op r,
    fun h => ⟨holds_notEqual_iff h r, holds_notIn_iff h r, holds_noneOf_iff h r⟩,
    holds_equal_refl, holds_equal_symm, holds_equal_trans, fun _ => isNumber_of_holds,
    fun _ _ => ?_, holds_less_iff_greater l r, ?_, fun xs => holds_subsetOf_iff xs r,
    fun xs => holds_anyOf_iff xs r⟩
  · intro hl hr
    exact ⟨holds_less_of_isNumber hl hr, holds_equal_of_isNumber hl hr, exactlyOne_holds hl hr,
      holds_lessEq_of_isNumber hl hr, holds_greaterEq_of_isNumber hl hr⟩
  · simp only [holds_isIn_iff, holds_equal_iff]

/-- A whole number is equal to a floating point number of the same value. -/
example : (Operand.json (.int 5)).equal
    (.json (.num (.float ⟨false, 5629499534213120, -50⟩))) = true := by
  decide +kernel

end Stencil.Path
