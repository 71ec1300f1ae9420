import Mathlib.Data.String.Basic
import Stencil.Text.Blank

/-!
# Character boundaries

The bytes of a text that a character starts at, and the pieces of the text between two of them.
-/

namespace Stencil.Text

/-! ## Pieces at the start of a text -/

section

variable {text front path tail rest : List Char}

theorem exists_append_of_byteLength_le (h : front ++ tail = path ++ rest)
    (hlength : byteLength front ≤ byteLength path) :
    ∃ more, path = front ++ more ∧ tail = more ++ rest := by
  rcases List.append_eq_append_iff.1 h with ⟨more, hpath, htail⟩ | ⟨more, hfront, hrest⟩
  · exact ⟨more, hpath, htail⟩
  · rcases more with _ | ⟨c, more⟩
    · exact ⟨[], by simpa using hfront.symm, by simpa using hrest.symm⟩
    · have positive := c.utf8Size_pos
      rw [hfront, byteLength_append, byteLength_cons] at hlength
      omega

theorem eq_of_byteLength_le (h : text = path ++ rest)
    (hlength : byteLength text ≤ byteLength path) : path = text := by
  obtain ⟨more, hpath, hmore⟩ :=
    exists_append_of_byteLength_le ((List.append_nil text).trans h) hlength
  rw [hpath, (List.append_eq_nil_iff.1 hmore.symm).1, List.append_nil]

end

/-! ## Boundaries -/

section

variable {text s : String} {front rest : List Char} {p q : Nat} {c : Char}

/-- A character starts at the byte, or the text ends there. -/
def OnBoundary (text : String) (p : Nat) : Prop := (⟨p⟩ : String.Pos.Raw).IsValid text

/-- The bytes from the one position to the other are the characters of `s`. -/
structure IsSlice (text : String) (p q : Nat) (s : String) : Prop where
  start : OnBoundary text p
  stop : OnBoundary text q
  ordered : p ≤ q
  extract : String.Pos.Raw.extract text ⟨p⟩ ⟨q⟩ = s

theorem byteLength_eq_utf8Len (cs : List Char) : byteLength cs = String.utf8Len cs := by
  induction cs with
  | nil => rfl
  | cons c cs ih => rw [byteLength_cons, String.utf8Len_cons, ih, Nat.add_comm]

theorem byteLength_toList (text : String) : byteLength text.toList = text.utf8ByteSize := by
  rw [byteLength_eq_utf8Len, ← String.utf8ByteSize_ofList, String.ofList_toList]

theorem onBoundary_iff :
    OnBoundary text p ↔ ∃ front rest, text.toList = front ++ rest ∧ byteLength front = p := by
  unfold OnBoundary
  rw [String.Pos.Raw.isValid_iff_exists_append]
  constructor
  · rintro ⟨front, rest, rfl, hp⟩
    refine ⟨front.toList, rest.toList, String.toList_append, ?_⟩
    rw [byteLength_toList]
    exact congrArg String.Pos.Raw.byteIdx hp.symm
  · rintro ⟨front, rest, htext, rfl⟩
    refine ⟨String.ofList front, String.ofList rest, ?_, ?_⟩
    · rw [← String.ofList_append, ← htext, String.ofList_toList]
    · rw [byteLength_eq_utf8Len, ← String.utf8ByteSize_ofList]
      rfl

theorem OnBoundary.le (h : OnBoundary text p) : p ≤ text.utf8ByteSize := h.le_utf8ByteSize

theorem onBoundary_of_append (h : text.toList = front ++ rest) :
    OnBoundary text (byteLength front) := onBoundary_iff.2 ⟨front, rest, h, rfl⟩

theorem isSlice_of_append (h : text.toList = front ++ (s.toList ++ rest)) :
    IsSlice text (byteLength front) (byteLength front + byteLength s.toList) s where
  start := onBoundary_of_append h
  stop := by
    rw [← byteLength_append]
    exact onBoundary_of_append (h.trans (List.append_assoc ..).symm)
  ordered := Nat.le_add_right ..
  extract := by
    have same := String.extract_of_valid front s.toList rest
    rw [← byteLength_eq_utf8Len, ← byteLength_eq_utf8Len, List.append_assoc, ← h,
      String.ofList_toList, String.ofList_toList] at same
    exact same

theorem extract_rest (h : text.toList = front ++ rest) :
    String.Pos.Raw.extract text ⟨byteLength front⟩ text.rawEndPos = String.ofList rest := by
  have htext : text.toList = front ++ ((String.ofList rest).toList ++ []) := by
    rw [String.toList_ofList, List.append_nil, h]
  have whole : text.rawEndPos =
      ⟨byteLength front + byteLength (String.ofList rest).toList⟩ := by
    rw [String.toList_ofList, ← byteLength_append, ← h, byteLength_toList]
    rfl
  rw [whole]
  exact (isSlice_of_append htext).extract

theorem get?_of_append (h : text.toList = front ++ rest) :
    String.Pos.Raw.get? text ⟨byteLength front⟩ = rest.head? := by
  have same := String.get?_of_valid front rest
  rw [← byteLength_eq_utf8Len, ← h, String.ofList_toList] at same
  exact same

theorem not_onBoundary_inside (h : text.toList = front ++ c :: rest) (hc : 1 < c.utf8Size) :
    ¬ OnBoundary text (byteLength front + 1) := by
  rw [onBoundary_iff]
  rintro ⟨path, tail, htext, hlength⟩
  obtain ⟨more, rfl, hmore⟩ :=
    exists_append_of_byteLength_le (h.symm.trans htext) (by omega)
  rw [byteLength_append] at hlength
  rcases more with _ | ⟨d, more⟩
  · rw [byteLength_nil] at hlength
    omega
  · obtain rfl : d = c := (List.cons.inj hmore).1.symm
    rw [byteLength_cons] at hlength
    omega

end

end Stencil.Text
