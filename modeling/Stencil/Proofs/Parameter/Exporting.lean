import Stencil.Proofs.Json.Decimals
import Stencil.Proofs.Parameter.Fields
import Stencil.Proofs.Path.Ordering

/-!
# Objects written back from named values

The fields of an object that are added to a store are written back as they were, but for the numbers
that decimals or the reading of their texts round. A store that is changed again and again holds the
last value under every name.
-/

namespace Stencil

open Decimal (InReach rounded)
open Json (ReadsExactly number?_near number?_exact number?_ofParts parse?_number)

/-! ## Numbers on their way through decimals -/

namespace JsonNumber

/-- The numbers that JSON values hold: integers of 64 bits and finite floating point numbers. -/
inductive WellFormed : JsonNumber → Prop
  | int {z : ℤ} : -(2 : ℤ) ^ 63 ≤ z → z < 2 ^ 64 → WellFormed (.int z)
  | float {x : Binary64} : x.Canonical → WellFormed (.float x)
  | zero (negative : Bool) : WellFormed (.float (Binary64.zero negative))

/-- What a number is written back as: an integer as itself, and so is what is out of reach of
decimals. Any other number is rounded to a decimal, and written back near to it, with the same value
where the decimal is exact and its text is read exactly. -/
structure WrittenBack (n w : JsonNumber) : Prop where
  whole : ∀ z, n = .int z → w = n
  beyond : ¬InReach n.exact → w = n
  near : InReach n.exact → |w.exact - rounded n.exact| ≤ |rounded n.exact| / 10 ^ 15
  same : ∀ d, n.toDecimal? = some d → d.value = n.exact → ReadsExactly d → w.exact = n.exact

variable {n : JsonNumber} {d : Decimal}

theorem toDecimal?_bounded (h : n.toDecimal? = some d) : d.Bounded := Decimal.parse?_bounded h

theorem inReach_of_toDecimal? (h : n.toDecimal? = some d) :
    InReach n.exact ∧ d.value = rounded n.exact := by
  have reads := n.toDecimal?_reads
  by_cases reach : InReach n.exact
  · obtain ⟨e, he, hvalue⟩ := reads.1 reach
    cases he.symm.trans h
    exact ⟨reach, hvalue⟩
  · cases (reads.2 reach).symm.trans h

theorem float_same {x : Binary64} (hx : x.Canonical) (hd : d.value = (float x).exact)
    (h : ReadsExactly d) {w : JsonNumber} (hw : Json.number? d.text.toList = some (w, [])) :
    w.exact = (float x).exact := by
  obtain ⟨q, htext, rounds⟩ := Binary64.textValue_text hx
  have pos := rounds.pos hx
  have value : d.value = x.factor * q := hd.trans htext
  have magnitude : |d.value| = q := by
    rw [value, abs_mul, abs_of_pos pos, Binary64.factor]
    split <;> simp
  have sign : d.negative = x.negative := by
    have signed := Decimal.value_eq_abs d
    rw [magnitude, value, Binary64.factor] at signed
    have factors := mul_right_cancel₀ pos.ne' signed
    revert factors
    cases d.negative <;> cases x.negative <;> norm_num
  obtain ⟨v, hv, kept⟩ := number?_exact hx (magnitude ▸ rounds) sign h
  cases hw.symm.trans hv
  rcases kept with rfl | kept
  · rfl
  · exact kept.trans hd

theorem exact_zero (negative : Bool) : (float (Binary64.zero negative)).exact = 0 :=
  Binary64.textValue_zero negative

theorem toJson_eq {w : JsonNumber} (h : Json.number? d.text.toList = some (w, [])) :
    d.toJson = .num w := by
  rw [Decimal.toJson, parse?_number h, Option.getD_some]

theorem writtenBack_decimal (hn : n.WellFormed) (h : n.toDecimal? = some d) :
    ∃ w, d.toJson = .num w ∧ n.WrittenBack w := by
  obtain ⟨reach, rounds⟩ := inReach_of_toDecimal? h
  obtain ⟨w, hw, near⟩ := number?_near (toDecimal?_bounded h)
  have whole : ∀ z, n = .int z → w = n := by
    rintro z rfl
    cases hn with
    | int low high =>
      have fits : z.natAbs < Decimal.mantissaBound := by
        have width : Decimal.mantissaBound = 2 ^ 96 := rfl
        omega
      have read : (int z).toDecimal? = some (Decimal.ofParts (decide (z < 0)) z.natAbs 0) :=
        Decimal.parse?_intText fits
      cases h.symm.trans read
      cases hw.symm.trans (number?_ofParts low high)
      rfl
  refine ⟨w, toJson_eq hw, whole, fun beyond => absurd reach beyond, fun _ => ?_, ?_⟩
  · rw [← rounds]
    exact near
  · intro e he hvalue hexact
    cases h.symm.trans he
    cases hn with
    | int low high => rw [whole _ rfl]
    | float hx => exact float_same hx hvalue hexact hw
    | zero negative =>
      have none : d.value = 0 := hvalue.trans (exact_zero negative)
      rw [none, sub_zero, abs_zero, zero_div] at near
      rw [exact_zero]
      exact abs_eq_zero.1 (le_antisymm near (abs_nonneg _))

theorem writtenBack_self (h : n.toDecimal? = none) : n.WrittenBack n := by
  have reads := n.toDecimal?_reads
  refine ⟨fun _ _ => rfl, fun _ => rfl, fun reach => ?_, fun _ _ _ _ => rfl⟩
  obtain ⟨d, hd, -⟩ := reads.1 reach
  cases h.symm.trans hd

end JsonNumber

/-! ## Objects written back -/

/-- The value is there: null stands for none. -/
def Json.isPresent : Json → Bool
  | .null => false
  | _ => true

/-- What a value is written back as: only numbers may change. -/
inductive Json.WrittenBack : Json → Json → Prop
  | number {n w : JsonNumber} : n.WrittenBack w → WrittenBack (.num n) (.num w)
  | other {v : Json} : (∀ n, v ≠ .num n) → WrittenBack v v

namespace Store

open Template (entries_foldl_insert foldl_insert_of_nodup names_ofList find?_ofList)

/-- The numbers among the fields are numbers that JSON values hold. -/
def WellFormedNumbers (ms : Json.Members) : Prop := ∀ m ∈ ms, ∀ n, m.2 = .num n → n.WellFormed

theorem ofField_writtenBack {v : Json} (present : v.isPresent = true)
    (hn : ∀ n, v = .num n → n.WellFormed) :
    ∃ value, ofField v = some value ∧ v.WrittenBack value.toJson := by
  cases v with
  | null => cases present
  | bool b => exact ⟨_, rfl, .other nofun⟩
  | str s => exact ⟨_, rfl, .other nofun⟩
  | arr xs => exact ⟨_, rfl, .other nofun⟩
  | obj ms => exact ⟨_, rfl, .other nofun⟩
  | num n =>
    rw [ofField]
    cases hd : n.toDecimal? with
    | none => exact ⟨_, rfl, .number (JsonNumber.writtenBack_self hd)⟩
    | some d =>
      obtain ⟨w, hw, back⟩ := JsonNumber.writtenBack_decimal (hn n rfl) hd
      refine ⟨_, rfl, ?_⟩
      rw [Value.toJson, hw]
      exact .number back

theorem fieldValues_writtenBack {ms : Json.Members} (h : WellFormedNumbers ms) :
    List.Forall₂ (fun m w => w.1 = m.1 ∧ m.2.WrittenBack w.2)
      (ms.filter fun m => m.2.isPresent)
      ((fieldValues ms).map fun e => (e.1, e.2.toJson)) := by
  induction ms with
  | nil => exact .nil
  | cons m ms ih =>
    obtain ⟨name, v⟩ := m
    have rest := ih fun m hm => h m (List.mem_cons_of_mem _ hm)
    rw [fieldValues_cons]
    by_cases present : v.isPresent = true
    · obtain ⟨value, hvalue, back⟩ := ofField_writtenBack present (h _ List.mem_cons_self)
      have kept : ((name, v) :: ms).filter (fun m => m.2.isPresent) =
          (name, v) :: ms.filter fun m => m.2.isPresent := List.filter_cons_of_pos present
      rw [kept, hvalue]
      exact .cons ⟨rfl, back⟩ rest
    · have absent : v = .null := by
        cases v <;> first | rfl | exact absurd rfl present
      subst absent
      exact rest

/-! ## Changes of a store -/

/-- The calls that change a store. -/
inductive Change where
  | add (name : String) (value : Value)
  | extend (v : Json)

/-- The values that a call puts into a store, in their order. -/
def Change.assigned : Change → Entries Value
  | add name value => [(name, value)]
  | extend (.obj ms) => fieldValues ms
  | extend _ => []

/-- The store behind a call. One that is refused leaves the store as it was. -/
def after (s : Store) : Change → Store
  | .add name value => s.add name value
  | .extend v => (s.extend? v).getD s

/-- The store behind calls one after the other. -/
def run (s : Store) (changes : List Change) : Store := changes.foldl after s

theorem after_entries (s : Store) (c : Change) :
    (s.after c).values.entries =
      c.assigned.foldl (fun es e => Entries.insert es e.1 e.2) s.values.entries := by
  cases c with
  | add name value => rfl
  | extend v =>
    cases v with
    | obj ms => exact addFields_entries s ms
    | _ => rfl

theorem run_entries (s : Store) (changes : List Change) :
    (s.run changes).values.entries =
      (changes.flatMap Change.assigned).foldl (fun es e => Entries.insert es e.1 e.2)
        s.values.entries := by
  unfold run
  induction changes generalizing s with
  | nil => rfl
  | cons c changes ih =>
    rw [List.foldl_cons, ih, after_entries, List.flatMap_cons, List.foldl_append]

theorem run_eq_ofList (s : Store) (changes : List Change) :
    (s.run changes).values.entries =
      (Dictionary.ofList (s.values.entries ++ changes.flatMap Change.assigned)).entries := by
  have start : s.values.entries.foldl (fun es e => Entries.insert es e.1 e.2)
      (Dictionary.empty : Dictionary Value).entries = s.values.entries :=
    @foldl_insert_of_nodup Value s.values.entries [] s.values.nodup
  rw [run_entries, Dictionary.ofList, List.foldl_append, entries_foldl_insert,
    entries_foldl_insert, start]

theorem extend?_of_not_object {v : Json} (h : ∀ ms, v ≠ .obj ms) (s : Store) :
    s.extend? v = none := by
  cases v with
  | obj ms => exact absurd rfl (h ms)
  | _ => rfl

/-- The store of an object is written back as the fields that have values, in their order and with
nothing changed but numbers. Whatever calls change a store, its names differ and stand in the order
in which they were first set, and under every name stands the value that was set last; a call with
anything but an object changes nothing. -/
theorem fields_written_back (s : Store) (changes : List Change) {ms : Json.Members}
    (names : (Entries.names ms).Nodup) (numbers : WellFormedNumbers ms) :
    (∃ t out, empty.extend? (.obj ms) = some t ∧ t.toJson = .obj out ∧
      List.Forall₂ (fun m w => w.1 = m.1 ∧ m.2.WrittenBack w.2)
        (ms.filter fun m => m.2.isPresent) out) ∧
    (s.run changes).values.names.Nodup ∧
    (s.run changes).values.names =
      (s.values.names ++ Entries.names (changes.flatMap Change.assigned)).eraseDups ∧
    (∀ name, (s.run changes).get? name =
      Entries.find? (s.values.entries ++ changes.flatMap Change.assigned).reverse name) ∧
    ∀ v, (∀ ms, v ≠ .obj ms) → s.extend? v = none ∧ s.after (.extend v) = s := by
  refine ⟨?_, (s.run changes).values.nodup, ?_, fun name => ?_, fun v hv => ?_⟩
  · obtain ⟨t, ht, hentries⟩ := extend?_obj names
    refine ⟨t, _, ht, rfl, ?_⟩
    rw [hentries]
    exact fieldValues_writtenBack numbers
  · rw [Dictionary.names, run_eq_ofList, names_ofList, Entries.names, List.map_append]
    rfl
  · rw [get?, Dictionary.find?, run_eq_ofList, find?_ofList]
  · have refused := extend?_of_not_object hv s
    refine ⟨refused, ?_⟩
    rw [after, refused, Option.getD_none]

/-- A whole number, and a field without a value. -/
def listing : Json.Members := [("page", .int 2), ("skip", .null)]

-- The whole number is written back, and its name is kept in its place when it is set again.
theorem fields_written_back_listing :
    (Entries.names listing).Nodup ∧ WellFormedNumbers listing ∧
    (∃ t, empty.extend? (.obj listing) = some t ∧ t.toJson = .obj [("page", .int 2)]) ∧
    (empty.run [.add "page" (.bool true), .extend (.obj listing), .extend .null]).values.names =
      ["page"] := by
  have names : (Entries.names listing).Nodup := by decide
  have numbers : WellFormedNumbers listing := by
    intro m hm n hn
    rcases List.mem_cons.1 hm with rfl | hm
    · cases hn
      exact .int (by decide) (by decide)
    · obtain rfl := List.mem_singleton.1 hm
      cases hn
  obtain ⟨⟨t, out, ht, hout, back⟩, -, hnames, -, -⟩ := fields_written_back empty
    [.add "page" (.bool true), .extend (.obj listing), .extend .null] names numbers
  have present : listing.filter (fun m => m.2.isPresent) = [("page", .int 2)] := rfl
  rw [present] at back
  refine ⟨names, numbers, ⟨t, ht, ?_⟩, ?_⟩
  · cases back with
    | @cons _ w _ ws pair none_left =>
      cases none_left
      obtain ⟨name, v⟩ := w
      obtain ⟨rfl, first⟩ := pair
      cases first with
      | number kept => rw [hout, kept.whole 2 rfl]; rfl
      | other distinct => exact absurd rfl (distinct (.int 2))
  · rw [hnames]
    decide +kernel

/-- A number that is printed as `6.62607015e-27`. -/
def manyPlaces : JsonNumber := .float ⟨false, 4617696940085612, -139⟩

/-- A number that is printed as `3.333333333333333e-10`. -/
def third : JsonNumber := .float ⟨false, 6447604371278022, -84⟩

theorem ofField_decimal {n : JsonNumber} {d : Decimal} (h : n.toDecimal? = some d) :
    ofField (.num n) = some (.number d) := by
  rw [ofField, h]

/-- Numbers do not keep their values: the first loses the digits that decimals have no places for,
and the text of the second, whose decimal is exact, is read as another number. -/
theorem fields_change_values : manyPlaces.WellFormed ∧ third.WellFormed ∧
    ∃ t v w, empty.extend? (.obj [("h", .num manyPlaces), ("t", .num third)]) = some t ∧
      t.toJson = .obj [("h", .num v), ("t", .num w)] ∧
      v.exact ≠ manyPlaces.exact ∧ w.exact ≠ third.exact := by
  have lost : manyPlaces.toDecimal? = some ⟨false, 66, 28⟩ := by decide +kernel
  have exactly : third.toDecimal? = some ⟨false, 3333333333333333, 25⟩ := by decide +kernel
  have read : Json.number? (Decimal.text ⟨false, 66, 28⟩).toList =
      some (.float ⟨false, 4599528697196941, -139⟩, []) := by decide +kernel
  have read' : Json.number? (Decimal.text ⟨false, 3333333333333333, 25⟩).toList =
      some (.float ⟨false, 6447604371278021, -84⟩, []) := by decide +kernel
  refine ⟨.float ⟨by decide, by decide, by decide, by decide, .inl (by decide)⟩,
    .float ⟨by decide, by decide, by decide, by decide, .inl (by decide)⟩, ?_⟩
  have fields : fieldValues [("h", .num manyPlaces), ("t", .num third)] =
      [("h", .number ⟨false, 66, 28⟩), ("t", .number ⟨false, 3333333333333333, 25⟩)] := by
    rw [fieldValues_cons, fieldValues_cons, ofField_decimal lost, ofField_decimal exactly]
    rfl
  obtain ⟨t, ht, hentries⟩ := @extend?_obj [("h", .num manyPlaces), ("t", .num third)] (by decide)
  refine ⟨t, .float ⟨false, 4599528697196941, -139⟩, .float ⟨false, 6447604371278021, -84⟩, ht,
    ?_, by decide +kernel, by decide +kernel⟩
  rw [toJson, hentries, fields]
  show Json.obj [("h", Decimal.toJson _), ("t", Decimal.toJson _)] = _
  rw [JsonNumber.toJson_eq read, JsonNumber.toJson_eq read']

end Store

end Stencil
