import Stencil.Json.Parser
import Stencil.Proofs.Json.Equality

/-!
# Names once in every object

Documents are read with every name once in each of their objects, and so are all values that stand
in them. A value that is like this already stays as it is.
-/

namespace Stencil.Json

open Template (NamesDiffer NamesDifferItems NamesDifferMembers)

theorem namesDiffer_within {v doc : Json} (h : NamesDiffer doc) (hv : v.Within doc) :
    NamesDiffer v := by
  induction hv with
  | refl => exact h
  | part _ hx ih => exact ih (namesDiffer_parts h hx)

theorem namesDifferMembers_insert {ms : Members} (h : NamesDifferMembers ms) {v : Json}
    (hv : NamesDiffer v) (name : String) : NamesDifferMembers (Entries.insert ms name v) := by
  induction ms with
  | nil => exact ⟨hv, trivial⟩
  | cons m ms ih =>
    obtain ⟨k, w⟩ := m
    rw [NamesDifferMembers] at h
    rw [Entries.insert]
    split
    · exact ⟨hv, h.2⟩
    · exact ⟨h.1, ih h.2⟩

mutual

theorem namesDiffer_merged (v : Json) : NamesDiffer v.merged := by
  match v with
  | .null | .bool _ | .num _ | .str _ =>
    simp only [merged]
    trivial
  | .arr vs =>
    rw [merged, NamesDiffer]
    exact namesDifferItems_merged vs
  | .obj ms =>
    rw [merged, NamesDiffer]
    exact namesDiffer_mergedMembers ms List.nodup_nil trivial

theorem namesDifferItems_merged (vs : List Json) : NamesDifferItems (mergedItems vs) := by
  match vs with
  | [] =>
    rw [mergedItems]
    trivial
  | v :: vs =>
    rw [mergedItems]
    exact ⟨namesDiffer_merged v, namesDifferItems_merged vs⟩

theorem namesDiffer_mergedMembers (ms : Members) {acc : Members}
    (hnames : (Entries.names acc).Nodup)
    (hvalues : NamesDifferMembers acc) :
    (Entries.names (mergedMembers acc ms)).Nodup ∧ NamesDifferMembers (mergedMembers acc ms) := by
  match ms with
  | [] =>
    rw [mergedMembers]
    exact ⟨hnames, hvalues⟩
  | (name, v) :: ms =>
    rw [mergedMembers]
    exact namesDiffer_mergedMembers ms (Entries.nodup_insert hnames name _)
      (namesDifferMembers_insert hvalues (namesDiffer_merged v) name)

end

theorem namesDiffer_parse? {text : String} {v : Json} (h : parse? text = some v) :
    NamesDiffer v := by
  obtain ⟨tree, -, rfl⟩ := Option.map_eq_some_iff.1 h
  exact namesDiffer_merged tree

mutual

theorem merged_of_namesDiffer {v : Json} (h : NamesDiffer v) : v.merged = v := by
  match v with
  | .null | .bool _ | .num _ | .str _ => simp only [merged]
  | .arr vs =>
    rw [NamesDiffer] at h
    rw [merged, mergedItems_of_namesDiffer h]
  | .obj ms =>
    rw [NamesDiffer] at h
    have same : mergedMembers [] ms = [] ++ ms := mergedMembers_of_namesDiffer h.1 h.2
    rw [merged, same, List.nil_append]

theorem mergedItems_of_namesDiffer {vs : List Json} (h : NamesDifferItems vs) :
    mergedItems vs = vs := by
  match vs with
  | [] => rw [mergedItems]
  | v :: vs => rw [mergedItems, merged_of_namesDiffer h.1, mergedItems_of_namesDiffer h.2]

theorem mergedMembers_of_namesDiffer {ms acc : Members}
    (hnames : (Entries.names (acc ++ ms)).Nodup) (h : NamesDifferMembers ms) :
    mergedMembers acc ms = acc ++ ms := by
  match ms with
  | [] => rw [mergedMembers, List.append_nil]
  | (name, v) :: ms =>
    have assoc : acc ++ [(name, v)] ++ ms = acc ++ (name, v) :: ms := by simp
    have fresh : name ∉ Entries.names acc := by
      unfold Entries.names at hnames
      rw [List.map_append, List.nodup_append] at hnames
      intro hmem
      exact hnames.2.2 name hmem name (by simp) rfl
    rw [mergedMembers, merged_of_namesDiffer h.1, Template.insert_of_not_mem fresh,
      mergedMembers_of_namesDiffer (by rw [assoc]; exact hnames) h.2, assoc]

end

end Stencil.Json
