import Mathlib.Data.List.Perm.Subperm
import Stencil.Proofs.Path.Subtrees
import Stencil.Proofs.Template.Documents

/-!
# Equality of JSON values

Where the names within every object differ, equality of values is an equivalence, whatever order the
members of objects stand in.
-/

namespace Stencil

open Template (NamesDiffer NamesDifferItems NamesDifferMembers)

/-! ## Looking up members -/

namespace Entries

variable {α : Type} {es : Entries α} {name : String} {value : α}

theorem mem_of_find?_eq_some (h : find? es name = some value) : (name, value) ∈ es := by
  induction es with
  | nil => cases h
  | cons e es ih =>
    obtain ⟨k, v⟩ := e
    rw [find?] at h
    split at h
    · next hk =>
      cases h
      rw [hk]
      exact List.mem_cons_self
    · exact List.mem_cons_of_mem _ (ih h)

theorem find?_of_mem (hn : (names es).Nodup) (h : (name, value) ∈ es) :
    find? es name = some value := by
  induction es with
  | nil => cases h
  | cons e es ih =>
    obtain ⟨k, v⟩ := e
    obtain ⟨hnew, hn⟩ := List.nodup_cons.1 hn
    rw [find?]
    rcases List.mem_cons.1 h with heq | hmem
    · cases heq
      rw [if_pos rfl]
    · have differs : k ≠ name := by
        rintro rfl
        exact hnew (List.mem_map.2 ⟨_, hmem, rfl⟩)
      rw [if_neg differs]
      exact ih hn hmem

end Entries

/-! ## Values -/

namespace Json

theorem namesDifferItems_iff (xs : List Json) : NamesDifferItems xs ↔ ∀ x ∈ xs, NamesDiffer x := by
  induction xs with
  | nil => simp [NamesDifferItems]
  | cons x xs ih => simp [NamesDifferItems, ih]

theorem namesDifferMembers_iff (ms : Members) :
    NamesDifferMembers ms ↔ ∀ x ∈ ms.map Prod.snd, NamesDiffer x := by
  induction ms with
  | nil => simp [NamesDifferMembers]
  | cons m ms ih => simp [NamesDifferMembers, ih]

theorem namesDiffer_parts {v x : Json} (h : NamesDiffer v) (hx : x ∈ v.parts) : NamesDiffer x := by
  cases v with
  | arr xs =>
    rw [NamesDiffer, namesDifferItems_iff] at h
    exact h x hx
  | obj ms =>
    rw [NamesDiffer, namesDifferMembers_iff] at h
    exact h.2 x hx
  | null | bool | num | str => cases hx

theorem equalMembers_iff (ms ns : Members) :
    equalMembers ms ns = true ↔
      ∀ k v, (k, v) ∈ ms → ∃ w, Entries.find? ns k = some w ∧ v.equal w = true := by
  induction ms with
  | nil => simp [equalMembers]
  | cons m ms ih =>
    obtain ⟨k, v⟩ := m
    rw [equalMembers, Bool.and_eq_true, ih]
    constructor
    · rintro ⟨first, more⟩ k' v' hmem
      rcases List.mem_cons.1 hmem with heq | hmem
      · cases heq
        split at first
        · next w hw => exact ⟨w, hw, first⟩
        · cases first
      · exact more k' v' hmem
    · intro h
      refine ⟨?_, fun k' v' hmem => h k' v' (List.mem_cons_of_mem _ hmem)⟩
      obtain ⟨w, hw, heq⟩ := h k v List.mem_cons_self
      rw [hw]
      exact heq

/-- Two values of one kind, equal one level down. -/
inductive Corresponds : Json → Json → Prop
  | null : Corresponds null null
  | bool (b : Bool) : Corresponds (bool b) (bool b)
  | num {m n : JsonNumber} : m.equal n = true → Corresponds (num m) (num n)
  | str (s : String) : Corresponds (str s) (str s)
  | arr {xs ys : List Json} : equalItems xs ys = true → Corresponds (arr xs) (arr ys)
  | obj {ms ns : Members} : ms.length = ns.length → equalMembers ms ns = true →
      Corresponds (obj ms) (obj ns)

theorem equal_iff (v w : Json) : v.equal w = true ↔ Corresponds v w := by
  constructor
  · intro h
    -- values of two kinds are never equal, which leaves the cases of one kind
    cases v <;> cases w <;> simp only [equal, Bool.false_eq_true, Bool.and_eq_true, beq_iff_eq] at h
    case null.null => exact .null
    case bool.bool => exact h ▸ .bool _
    case num.num => exact .num h
    case str.str => exact h ▸ .str _
    case arr.arr => exact .arr h
    case obj.obj => exact .obj h.1 h.2
  · intro h
    cases h with
    | null => rw [equal]
    | bool b | str s => rw [equal, beq_self_eq_true]
    | num h | arr h => rwa [equal]
    | obj length h => rw [equal, beq_iff_eq.2 length, h, Bool.and_self]

end Json

namespace Binary64

theorem equal_iff (x y : Binary64) :
    x.equal y = true ↔ x = y ∨ (x.isZero = true ∧ y.isZero = true) := by
  simp [equal]

end Binary64

namespace JsonNumber

theorem equal_refl (n : JsonNumber) : n.equal n = true := by
  cases n <;> simp [equal, Binary64.equal]

theorem equal_symm {m n : JsonNumber} (h : m.equal n = true) : n.equal m = true := by
  cases m <;> cases n <;> first | cases h | skip
  case int.int a b =>
    rw [equal, beq_iff_eq] at h ⊢
    exact h.symm
  case float.float x y =>
    rw [equal, Binary64.equal_iff] at h ⊢
    exact h.imp Eq.symm And.symm

theorem equal_trans {l m n : JsonNumber} (hlm : l.equal m = true) (hmn : m.equal n = true) :
    l.equal n = true := by
  cases l <;> cases m <;> cases n <;> first | cases hlm | cases hmn | skip
  case int.int.int a b c =>
    rw [equal, beq_iff_eq] at hlm hmn ⊢
    exact hlm.trans hmn
  case float.float.float x y z =>
    rw [equal, Binary64.equal_iff] at hlm hmn ⊢
    grind

end JsonNumber

namespace Json

/-! ### An equivalence -/

theorem equalItems_refl {xs : List Json} (h : ∀ x ∈ xs, x.equal x = true) :
    equalItems xs xs = true := by
  induction xs with
  | nil => rw [equalItems]
  | cons x xs ih =>
    rw [List.forall_mem_cons] at h
    rw [equalItems, h.1, ih h.2, Bool.and_self]

theorem equalItems_symm {xs ys : List Json}
    (inside : ∀ x ∈ xs, ∀ y ∈ ys, x.equal y = true → y.equal x = true)
    (h : equalItems xs ys = true) : equalItems ys xs = true := by
  induction xs generalizing ys with
  | nil =>
    cases ys with
    | nil => exact h
    | cons y ys => cases h
  | cons x xs ih =>
    cases ys with
    | nil => cases h
    | cons y ys =>
      rw [equalItems, Bool.and_eq_true] at h ⊢
      refine ⟨inside x List.mem_cons_self y List.mem_cons_self h.1, ih ?_ h.2⟩
      exact fun x' hx y' hy => inside x' (List.mem_cons_of_mem _ hx) y' (List.mem_cons_of_mem _ hy)

theorem equalItems_trans {xs ys zs : List Json}
    (inside : ∀ x ∈ xs, ∀ y z, x.equal y = true → y.equal z = true → x.equal z = true)
    (hxy : equalItems xs ys = true) (hyz : equalItems ys zs = true) : equalItems xs zs = true := by
  induction xs generalizing ys zs with
  | nil =>
    cases ys with
    | nil => exact hyz
    | cons y ys => cases hxy
  | cons x xs ih =>
    rw [List.forall_mem_cons] at inside
    cases ys with
    | nil => cases hxy
    | cons y ys =>
      cases zs with
      | nil => cases hyz
      | cons z zs =>
        rw [equalItems, Bool.and_eq_true] at hxy hyz ⊢
        exact ⟨inside.1 y z hxy.1 hyz.1, ih inside.2 hxy.2 hyz.2⟩

theorem equalMembers_refl {ms : Members} (hn : (Entries.names ms).Nodup)
    (h : ∀ x ∈ ms.map Prod.snd, x.equal x = true) : equalMembers ms ms = true := by
  rw [equalMembers_iff]
  exact fun k v hmem => ⟨v, Entries.find?_of_mem hn hmem, h v (List.mem_map.2 ⟨_, hmem, rfl⟩)⟩

theorem names_subset_of_equalMembers {ms ns : Members} (hm : (Entries.names ms).Nodup)
    (length : ms.length = ns.length) (h : equalMembers ms ns = true) :
    Entries.names ns ⊆ Entries.names ms := by
  rw [equalMembers_iff] at h
  have found : Entries.names ms ⊆ Entries.names ns := by
    intro k hk
    obtain ⟨⟨_, v⟩, hmem, rfl⟩ := List.mem_map.1 hk
    obtain ⟨w, hw, -⟩ := h _ v hmem
    exact List.mem_map.2 ⟨_, Entries.mem_of_find?_eq_some hw, rfl⟩
  have shorter : (Entries.names ns).length ≤ (Entries.names ms).length := by
    simp [Entries.names, length]
  exact ((List.subperm_of_subset hm found).perm_of_length_le shorter).symm.subset

theorem equalMembers_symm {ms ns : Members} (hm : (Entries.names ms).Nodup)
    (hn : (Entries.names ns).Nodup) (length : ms.length = ns.length)
    (inside : ∀ x ∈ ms.map Prod.snd, ∀ y ∈ ns.map Prod.snd, x.equal y = true → y.equal x = true)
    (h : equalMembers ms ns = true) : equalMembers ns ms = true := by
  have back := names_subset_of_equalMembers hm length h
  rw [equalMembers_iff] at h ⊢
  intro k y hy
  obtain ⟨⟨_, x⟩, hx, rfl⟩ := List.mem_map.1 (back (List.mem_map.2 ⟨_, hy, rfl⟩))
  obtain ⟨y', hfind, hxy⟩ := h _ x hx
  cases hfind.symm.trans (Entries.find?_of_mem hn hy)
  refine ⟨x, Entries.find?_of_mem hm hx, inside x ?_ y ?_ hxy⟩
  · exact List.mem_map.2 ⟨_, hx, rfl⟩
  · exact List.mem_map.2 ⟨_, hy, rfl⟩

theorem equalMembers_trans {ls ms ns : Members}
    (inside : ∀ x ∈ ls.map Prod.snd, ∀ y z, x.equal y = true → y.equal z = true → x.equal z = true)
    (hlm : equalMembers ls ms = true) (hmn : equalMembers ms ns = true) :
    equalMembers ls ns = true := by
  rw [equalMembers_iff] at hlm hmn ⊢
  intro k x hx
  obtain ⟨y, hy, hxy⟩ := hlm k x hx
  obtain ⟨z, hz, hyz⟩ := hmn k y (Entries.mem_of_find?_eq_some hy)
  exact ⟨z, hz, inside x (List.mem_map.2 ⟨_, hx, rfl⟩) y z hxy hyz⟩

theorem equal_refl {v : Json} (h : NamesDiffer v) : v.equal v = true := by
  induction v using parts_induction with
  | step v ih =>
    have inside (x : Json) (hx : x ∈ v.parts) : x.equal x = true := ih x hx (namesDiffer_parts h hx)
    rw [equal_iff]
    cases v with
    | null => exact .null
    | bool b => exact .bool b
    | num n => exact .num n.equal_refl
    | str s => exact .str s
    | arr xs => exact .arr (equalItems_refl inside)
    | obj ms =>
      rw [NamesDiffer] at h
      exact .obj rfl (equalMembers_refl h.1 inside)

theorem equal_symm {v w : Json} (hv : NamesDiffer v) (hw : NamesDiffer w) (h : v.equal w = true) :
    w.equal v = true := by
  induction v using parts_induction generalizing w with
  | step v ih =>
    have inside (x : Json) (hx : x ∈ v.parts) (y : Json) (hy : y ∈ w.parts) :
        x.equal y = true → y.equal x = true :=
      ih x hx (namesDiffer_parts hv hx) (namesDiffer_parts hw hy)
    rw [equal_iff] at h ⊢
    cases h with
    | null => exact .null
    | bool b => exact .bool b
    | num h => exact .num (JsonNumber.equal_symm h)
    | str s => exact .str s
    | arr h => exact .arr (equalItems_symm inside h)
    | obj length h =>
      rw [NamesDiffer] at hv hw
      exact .obj length.symm (equalMembers_symm hv.1 hw.1 length inside h)

theorem equal_trans {u v w : Json} (huv : u.equal v = true) (hvw : v.equal w = true) :
    u.equal w = true := by
  induction u using parts_induction generalizing v w with
  | step u ih =>
    have inside (x : Json) (hx : x ∈ u.parts) (y z : Json) :
        x.equal y = true → y.equal z = true → x.equal z = true := ih x hx
    rw [equal_iff] at huv hvw ⊢
    cases huv with
    | null => exact hvw
    | bool b => exact hvw
    | str s => exact hvw
    | num h =>
      cases hvw with
      | num h' => exact .num (JsonNumber.equal_trans h h')
    | arr h =>
      cases hvw with
      | arr h' => exact .arr (equalItems_trans inside h h')
    | obj length h =>
      cases hvw with
      | obj length' h' => exact .obj (length.trans length') (equalMembers_trans inside h h')

end Json

end Stencil
