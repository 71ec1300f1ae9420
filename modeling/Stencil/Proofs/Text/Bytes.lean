import Stencil.Proofs.Text.Boundaries

/-!
# The bytes of a text

A character below 128 is a byte of its own and no byte of a longer character is below 128. A search
for such characters may therefore go byte by byte: it stops at the same places, all of them
boundaries.
-/

namespace Stencil.Text

/-- A byte as the character of its number. -/
def ofByte (b : UInt8) : Char := Char.ofNat b.toNat

/-- The byte at an offset, if the text goes on that far. -/
def byteAt? (text : String) (i : Nat) : Option Char := text.toUTF8.data[i]?.map ofByte

instance (text : String) (p : Nat) : Decidable (OnBoundary text p) :=
  inferInstanceAs (Decidable ((⟨p⟩ : String.Pos.Raw).IsValid text))

/-- The slice from the one offset to the other. There is none if they are not in order or one of
them is no boundary. -/
def slice? (text : String) (p q : Nat) : Option String :=
  if OnBoundary text p ∧ OnBoundary text q ∧ p ≤ q then
    some (String.Pos.Raw.extract text ⟨p⟩ ⟨q⟩)
  else none

/-- The bytes of the characters. -/
def bytes (cs : List Char) : List Char := cs.flatMap fun c => (String.utf8EncodeChar c).map ofByte

/-- The kind does not tell characters apart that are longer than a byte. -/
def Bytewise (p : Char → Bool) : Prop := ∀ c d : Char, 128 ≤ c.toNat → 128 ≤ d.toNat → p c = p d

section

variable {text : String} {front rest cs : List Char} {c d : Char} {p : Char → Bool} {i k : Nat}

/-! ## Characters -/

theorem toNat_ofByte (b : UInt8) : (ofByte b).toNat = b.toNat := by
  have small : b.toNat < 256 := b.toNat_lt
  have valid : b.toNat.isValidChar := .inl (by omega)
  rw [ofByte, Char.ofNat, dif_pos valid]
  rfl

@[simp] theorem bytes_nil : bytes [] = [] := rfl

theorem bytes_cons (c : Char) (cs : List Char) : bytes (c :: cs) = bytes [c] ++ bytes cs := by
  simp [bytes]

theorem bytes_append (as bs : List Char) : bytes (as ++ bs) = bytes as ++ bytes bs :=
  List.flatMap_append

theorem length_bytes (cs : List Char) : (bytes cs).length = byteLength cs := by
  induction cs with
  | nil => rfl
  | cons c cs ih =>
    have one : (bytes [c]).length = c.utf8Size := by simp [bytes]
    rw [bytes_cons, List.length_append, ih, one, byteLength_cons]

theorem bytes_short (hc : c.toNat < 128) : bytes [c] = [c] := by
  have small : c.val.toNat ≤ 127 := Nat.le_of_lt_succ hc
  have one : String.utf8EncodeChar c = [UInt8.ofNat c.val.toNat] := if_pos small
  have number : (UInt8.ofNat c.val.toNat).toNat = c.toNat := by
    rw [UInt8.toNat_ofNat']
    exact Nat.mod_eq_of_lt (by omega)
  rw [bytes, List.flatMap_singleton, one, List.map_singleton, ofByte, number, Char.ofNat_toNat]

theorem bytes_long (hc : 128 ≤ c.toNat) : ∀ b ∈ bytes [c], 128 ≤ b.toNat := by
  have large : ¬ c.val.toNat ≤ 127 := Nat.not_le_of_lt hc
  have bytes_from {n k : Nat} (hk : 128 ≤ k) (hn : n + k < 256) :
      128 ≤ (UInt8.ofNat (n + k)).toNat := by
    rw [UInt8.toNat_ofNat', Nat.mod_eq_of_lt hn]
    omega
  intro b hb
  rw [bytes, List.flatMap_singleton] at hb
  obtain ⟨x, hx, rfl⟩ := List.mem_map.1 hb
  rw [toNat_ofByte]
  unfold String.utf8EncodeChar at hx
  dsimp only at hx
  rw [if_neg large] at hx
  split at hx
  · simp only [List.mem_cons, List.not_mem_nil, or_false] at hx
    rcases hx with rfl | rfl <;> exact bytes_from (by decide) (by omega)
  split at hx
  · simp only [List.mem_cons, List.not_mem_nil, or_false] at hx
    rcases hx with rfl | rfl | rfl <;> exact bytes_from (by decide) (by omega)
  · simp only [List.mem_cons, List.not_mem_nil, or_false] at hx
    rcases hx with rfl | rfl | rfl | rfl <;> exact bytes_from (by decide) (by omega)

/-- The first byte of a character. -/
def leadByte (c : Char) : Char := (bytes [c]).headD c

theorem bytes_eq_cons (c : Char) : ∃ more, bytes [c] = leadByte c :: more := by
  have length := length_bytes [c]
  have positive := c.utf8Size_pos
  rw [byteLength_cons] at length
  unfold leadByte
  cases hbytes : bytes [c] with
  | nil =>
    rw [hbytes, List.length_nil] at length
    omega
  | cons b more => exact ⟨more, rfl⟩

theorem leadByte_short (hc : c.toNat < 128) : leadByte c = c := by
  rw [leadByte, bytes_short hc]
  rfl

theorem leadByte_long (hc : 128 ≤ c.toNat) : 128 ≤ (leadByte c).toNat := by
  obtain ⟨more, hbytes⟩ := bytes_eq_cons c
  exact bytes_long hc _ (by rw [hbytes]; exact List.mem_cons_self)

theorem leadByte_eq_iff (hd : d.toNat < 128) : leadByte c = d ↔ c = d := by
  rcases Nat.lt_or_ge c.toNat 128 with hc | hc
  · rw [leadByte_short hc]
  · have long := leadByte_long hc
    constructor <;> rintro rfl <;> omega

theorem Bytewise.leadByte (hp : Bytewise p) (c : Char) : p (leadByte c) = p c := by
  rcases Nat.lt_or_ge c.toNat 128 with hc | hc
  · rw [leadByte_short hc]
  · exact hp _ _ (leadByte_long hc) hc

theorem Bytewise.bytes (hp : Bytewise p) (c : Char) : ∀ b ∈ bytes [c], p b = p c := by
  rcases Nat.lt_or_ge c.toNat 128 with hc | hc
  · rw [bytes_short hc]
    intro b hb
    rw [List.mem_singleton.1 hb]
  · exact fun b hb => hp _ _ (bytes_long hc b hb) hc

/-! ## Kinds of characters -/

theorem beq_long (hc : 128 ≤ c.toNat) (hd : d.toNat.blt 128 = true) : (c == d) = false := by
  rw [beq_eq_false_iff_ne]
  rintro rfl
  rw [Nat.blt_eq] at hd
  omega

theorem isDigit_long (hc : 128 ≤ c.toNat) : c.isDigit = false := by
  have beyond : ¬ c.toNat ≤ '9'.toNat := fun h => absurd (Nat.le_trans hc h) (by decide)
  exact Bool.eq_false_iff.2 fun h => beyond (Char.isDigit_iff_toNat.1 h).2

theorem isAlpha_long (hc : 128 ≤ c.toNat) : c.isAlpha = false := by
  have beyond (d : Char) (hd : d.toNat < 128) : ¬ c.val ≤ d.val := fun h =>
    absurd (Nat.le_trans hc (UInt32.le_iff_toNat_le.1 h)) (Nat.not_le_of_lt hd)
  refine Bool.eq_false_iff.2 fun h => ?_
  rcases (Bool.or_eq_true _ _).mp h with upper | lower
  · exact beyond 'Z' (by decide) (of_decide_eq_true upper).2
  · exact beyond 'z' (by decide) (of_decide_eq_true ((Bool.and_eq_true _ _).mp lower).2)

theorem Bytewise.of_false (h : ∀ c : Char, 128 ≤ c.toNat → p c = false) : Bytewise p :=
  fun c d hc hd => by rw [h c hc, h d hd]

theorem Bytewise.of_true (h : ∀ c : Char, 128 ≤ c.toNat → p c = true) : Bytewise p :=
  fun c d hc hd => by rw [h c hc, h d hd]

/-! ## Texts -/

theorem byteAt?_eq (text : String) (i : Nat) : byteAt? text i = (bytes text.toList)[i]? := by
  have whole : text.toUTF8.data = (text.toList.flatMap String.utf8EncodeChar).toArray := by
    rw [String.toUTF8_eq_toByteArray, ← String.utf8Encode_toList, List.utf8Encode,
      List.data_toByteArray]
  rw [byteAt?, whole, List.getElem?_toArray, ← List.getElem?_map, List.map_flatMap]
  rfl

theorem byteAt?_behind (h : text.toList = front ++ rest) (k : Nat) :
    byteAt? text (byteLength front + k) = (bytes rest)[k]? := by
  rw [byteAt?_eq, h, bytes_append, List.getElem?_append_right (by rw [length_bytes]; omega),
    length_bytes, Nat.add_sub_cancel_left]

theorem byteAt?_cons (h : text.toList = front ++ c :: rest) :
    byteAt? text (byteLength front) = some (leadByte c) := by
  obtain ⟨more, hbytes⟩ := bytes_eq_cons c
  have first := byteAt?_behind h 0
  rw [bytes_cons, hbytes] at first
  exact first

theorem byteAt?_inside (h : text.toList = front ++ c :: rest) (hc : 128 ≤ c.toNat)
    (hk : k < c.utf8Size) :
    ∃ b, byteAt? text (byteLength front + k) = some b ∧ 128 ≤ b.toNat := by
  have within : k < (bytes [c]).length := by
    rw [length_bytes, byteLength_cons]
    exact Nat.lt_of_lt_of_le hk (Nat.le_add_right ..)
  refine ⟨(bytes [c])[k], ?_, bytes_long hc _ (List.getElem_mem within)⟩
  rw [byteAt?_behind h, bytes_cons, List.getElem?_append_left within]
  exact List.getElem?_eq_getElem within

theorem utf8Size_short (hc : c.toNat < 128) : c.utf8Size = 1 := by
  have length := length_bytes [c]
  rw [bytes_short hc, byteLength_cons] at length
  exact length.symm

theorem byteAt?_end (h : text.toList = front) : byteAt? text (byteLength front) = none := by
  have behind := byteAt?_behind (h.trans (List.append_nil front).symm) 0
  exact behind

theorem lt_of_byteAt? {b : Char} (h : byteAt? text i = some b) : i < text.utf8ByteSize := by
  rw [byteAt?_eq] at h
  rw [← byteLength_toList, ← length_bytes]
  exact (List.getElem?_eq_some_iff.1 h).1

theorem slice?_behind (h : text.toList = front ++ rest) :
    slice? text (byteLength front) text.utf8ByteSize = some (String.ofList rest) := by
  have start := onBoundary_of_append h
  have stop : OnBoundary text text.utf8ByteSize := by
    rw [← byteLength_toList]
    exact onBoundary_of_append (List.append_nil _).symm
  rw [slice?, if_pos ⟨start, stop, start.le⟩]
  exact congrArg some (extract_rest h)

theorem IsSlice.slice? {s : String} {q : Nat} (h : IsSlice text i q s) :
    Text.slice? text i q = some s := by
  rw [Text.slice?, if_pos ⟨h.start, h.stop, h.ordered⟩, h.extract]

theorem drop_of_byteAt? {b : Char} (h : byteAt? text i = some b) :
    (bytes text.toList).drop i = b :: (bytes text.toList).drop (i + 1) := by
  rw [byteAt?_eq] at h
  obtain ⟨hi, rfl⟩ := List.getElem?_eq_some_iff.1 h
  exact List.drop_eq_getElem_cons hi

theorem byteLength_append_eq_iff {n : Nat} :
    n + byteLength (front ++ cs) = n + byteLength front ↔ cs.isEmpty = true := by
  rw [byteLength_append]
  cases cs with
  | nil => simp
  | cons c cs =>
    have positive := c.utf8Size_pos
    rw [byteLength_cons]
    simp only [List.isEmpty_cons, Bool.false_eq_true, iff_false]
    omega

/-! ## Runs -/

theorem Bytewise.takeWhile_bytes (hp : Bytewise p) (cs : List Char) :
    (Text.bytes cs).takeWhile p = Text.bytes (cs.takeWhile p) := by
  induction cs with
  | nil => rfl
  | cons c cs ih =>
    rw [bytes_cons]
    cases hc : p c with
    | true =>
      have whole : ∀ b ∈ Text.bytes [c], p b = true := fun b hb => (hp.bytes c b hb).trans hc
      rw [List.takeWhile_append_of_pos whole, ih, List.takeWhile_cons_of_pos hc,
        bytes_cons c (cs.takeWhile p)]
    | false =>
      obtain ⟨more, hbytes⟩ := bytes_eq_cons c
      have stops : ¬ p (Text.leadByte c) = true := by rw [hp.leadByte, hc]; exact Bool.false_ne_true
      have short : ¬ p c = true := by rw [hc]; exact Bool.false_ne_true
      rw [hbytes, List.cons_append, List.takeWhile_cons_of_neg stops,
        List.takeWhile_cons_of_neg short, bytes_nil]

end

/-- The first offset from `i` on at which the byte is not of the kind, or the end of the text. -/
def passing (text : String) (p : Char → Bool) (i : Nat) : Nat :=
  match h : byteAt? text i with
  | some b => if p b then passing text p (i + 1) else i
  | none => i
termination_by text.utf8ByteSize - i
decreasing_by
  have := lt_of_byteAt? h
  omega

theorem passing_eq (text : String) (p : Char → Bool) (i : Nat) :
    passing text p i = i + (((bytes text.toList).drop i).takeWhile p).length := by
  fun_induction passing text p i with
  | case1 i b hb hp ih =>
    rw [ih, drop_of_byteAt? hb, List.takeWhile_cons_of_pos hp, List.length_cons]
    omega
  | case2 i b hb hp => rw [drop_of_byteAt? hb, List.takeWhile_cons_of_neg hp, List.length_nil,
      Nat.add_zero]
  | case3 i hb =>
    rw [byteAt?_eq] at hb
    rw [List.drop_eq_nil_of_le (List.getElem?_eq_none_iff.1 hb), List.takeWhile_nil,
      List.length_nil, Nat.add_zero]

theorem passing_succ {text : String} {p : Char → Bool} {i : Nat} {b : Char}
    (h : byteAt? text i = some b) (hb : p b = true) :
    passing text p (i + 1) = passing text p i := by
  rw [passing_eq text p i, passing_eq, drop_of_byteAt? h, List.takeWhile_cons_of_pos hb,
    List.length_cons]
  omega

theorem passing_stop {text : String} {p : Char → Bool} {i : Nat} {b : Char}
    (h : byteAt? text i = some b) (hb : p b = false) : passing text p i = i := by
  rw [passing_eq, drop_of_byteAt? h, List.takeWhile_cons_of_neg (Bool.eq_false_iff.1 hb),
    List.length_nil, Nat.add_zero]

/-- Passing bytes is passing characters. -/
theorem Bytewise.passing {text : String} {front rest : List Char} {p : Char → Bool}
    (hp : Bytewise p) (h : text.toList = front ++ rest) :
    Text.passing text p (byteLength front) =
      byteLength front + byteLength (rest.takeWhile p) := by
  rw [passing_eq, h, bytes_append, ← length_bytes front, List.drop_left, hp.takeWhile_bytes,
    length_bytes (rest.takeWhile p)]

/-! ## What follows an offset -/

/-- The characters that follow the offset. -/
def IsRest (text : String) (i : Nat) (rest : List Char) : Prop :=
  ∃ front, text.toList = front ++ rest ∧ byteLength front = i

namespace IsRest

variable {text : String} {i : Nat} {front body rest cs : List Char} {c d : Char}
  {p : Char → Bool}

theorem start (text : String) : IsRest text 0 text.toList := ⟨[], rfl, rfl⟩

theorem onward (h : IsRest text i (front ++ rest)) : IsRest text (i + byteLength front) rest := by
  obtain ⟨before, htext, rfl⟩ := h
  exact ⟨before ++ front, by rw [htext, List.append_assoc], byteLength_append before front⟩

theorem next (h : IsRest text i (c :: cs)) : IsRest text (i + c.utf8Size) cs := by
  have behind : IsRest text (i + byteLength [c]) cs := onward h
  rwa [byteLength_cons, byteLength_nil, Nat.add_zero] at behind

theorem step (h : IsRest text i (c :: cs)) (one : c.utf8Size = 1) : IsRest text (i + 1) cs :=
  one ▸ h.next

theorem byteAt? (h : IsRest text i rest) : byteAt? text i = rest.head?.map leadByte := by
  obtain ⟨front, htext, rfl⟩ := h
  cases rest with
  | nil => exact byteAt?_end (htext.trans (List.append_nil front))
  | cons c cs => exact byteAt?_cons htext

theorem head (h : IsRest text i (c :: cs)) (hc : c.toNat < 128) : Text.byteAt? text i = some c := by
  rw [h.byteAt?, List.head?_cons, Option.map_some, leadByte_short hc]

theorem peek (h : IsRest text i (c :: cs)) (one : c.utf8Size = 1) (hd : d.toNat < 128) :
    Text.byteAt? text (i + 1) = some d ↔ cs.head? = some d := by
  rw [(h.step one).byteAt?]
  rcases cs with _ | ⟨a, cs⟩
  · simp
  · simp [leadByte_eq_iff hd]

theorem passing (h : IsRest text i rest) (hp : Bytewise p) :
    Text.passing text p i = i + byteLength (rest.takeWhile p) := by
  obtain ⟨front, htext, rfl⟩ := h
  exact hp.passing htext

theorem passed (h : IsRest text i rest) (hp : Bytewise p) :
    IsRest text (Text.passing text p i) (rest.dropWhile p) := by
  rw [h.passing hp]
  exact onward (List.takeWhile_append_dropWhile.symm ▸ h)

theorem size (h : IsRest text i rest) : text.utf8ByteSize = i + byteLength rest := by
  obtain ⟨front, htext, rfl⟩ := h
  rw [← byteLength_toList, htext, byteLength_append]

theorem lt_size_iff (h : IsRest text i rest) (p : Char → Bool) :
    i + byteLength (rest.takeWhile p) < text.utf8ByteSize ↔ rest.dropWhile p ≠ [] := by
  have size := h.size
  rw [← List.takeWhile_append_dropWhile (p := p) (l := rest), byteLength_append] at size
  rw [size]
  cases rest.dropWhile p with
  | nil => simp
  | cons c cs =>
    have positive := c.utf8Size_pos
    rw [byteLength_cons]
    simp only [ne_eq, reduceCtorEq, not_false_iff, iff_true]
    omega

theorem onBoundary (h : IsRest text i rest) : OnBoundary text i := by
  obtain ⟨front, htext, rfl⟩ := h
  exact onBoundary_of_append htext

theorem slice? (h : IsRest text i rest) :
    slice? text i text.utf8ByteSize = some (String.ofList rest) := by
  obtain ⟨front, htext, rfl⟩ := h
  exact slice?_behind htext

theorem isSlice (h : IsRest text i (body ++ rest)) :
    IsSlice text i (i + byteLength body) (String.ofList body) := by
  obtain ⟨front, htext, rfl⟩ := h
  rw [← String.toList_ofList (l := body)] at htext
  have slice := isSlice_of_append htext
  rwa [String.toList_ofList] at slice

end IsRest

end Stencil.Text
