import Stencil.Proofs.Path.Lexing
import Stencil.Proofs.Text.Bytes

/-!
# Where a literal ends

A literal ends at the first slash that an even number of backslashes stands in front of, and at the
flags behind it. A search that goes byte by byte, and passes over the byte behind a backslash, ends
there as well. The last slash of the literal is then the one that closed it.
-/

namespace Stencil.Regex

open Stencil.Path (Stops cut_ne mem_takeWhile stops_dropWhile)
open Text (byteLength byteAt? bytes passing Bytewise)

/-- How many backslashes stand at the end. -/
def backslashes (cs : List Char) : Nat := (cs.reverse.takeWhile (· == '\\')).length

/-- The text goes on, behind the pattern, with a slash that no backslash takes for itself. -/
structure ClosesBehind (cs pattern rest : List Char) : Prop where
  split : cs = pattern ++ '/' :: rest
  even : backslashes pattern % 2 = 0

/-! ## Backslashes in a row -/

section

variable {c : Char} {cs pattern rest : List Char}

theorem backslashes_le (cs : List Char) : backslashes cs ≤ cs.length := by
  have := (List.takeWhile_sublist (p := (· == '\\')) (l := cs.reverse)).length_le
  rwa [List.length_reverse] at this

theorem backslashes_cons (c : Char) (cs : List Char) :
    backslashes (c :: cs) =
      if backslashes cs = cs.length ∧ c = '\\' then cs.length + 1 else backslashes cs := by
  unfold backslashes
  rw [List.reverse_cons, List.takeWhile_append, List.length_reverse]
  by_cases hall : (cs.reverse.takeWhile (· == '\\')).length = cs.length
  · by_cases hc : c = '\\'
    · simp [hall, hc]
    · simp [hall, hc]
  · simp [hall]

theorem backslashes_plain (hc : c ≠ '\\') : backslashes (c :: cs) = backslashes cs := by
  rw [backslashes_cons, if_neg fun h => hc h.2]

theorem backslashes_escaped (c : Char) (cs : List Char) :
    backslashes ('\\' :: c :: cs) % 2 = backslashes cs % 2 := by
  have bound := backslashes_le cs
  have behind := backslashes_cons c cs
  rw [backslashes_cons, List.length_cons]
  by_cases hall : backslashes cs = cs.length ∧ c = '\\'
  · rw [if_pos hall] at behind
    rw [if_pos ⟨behind, rfl⟩]
    omega
  · rw [if_neg hall] at behind
    rw [if_neg (by omega), behind]

theorem closesBehind_escaped :
    ClosesBehind ('\\' :: c :: cs) pattern rest ↔
      ∃ more, pattern = '\\' :: c :: more ∧ ClosesBehind cs more rest := by
  constructor
  · rintro ⟨split, even⟩
    rcases pattern with _ | ⟨d, _ | ⟨e, more⟩⟩
    · cases split
    · obtain ⟨rfl, -⟩ := List.cons.inj split
      cases even
    · simp only [List.cons_append, List.cons.injEq] at split
      obtain ⟨rfl, rfl, tail⟩ := split
      exact ⟨more, rfl, tail, by rw [← even, backslashes_escaped]⟩
  · rintro ⟨more, rfl, split, even⟩
    exact ⟨by rw [split]; rfl, by rw [backslashes_escaped, even]⟩

theorem closesBehind_plain (hslash : c ≠ '/') (hc : c ≠ '\\') :
    ClosesBehind (c :: cs) pattern rest ↔
      ∃ more, pattern = c :: more ∧ ClosesBehind cs more rest := by
  constructor
  · rintro ⟨split, even⟩
    rcases pattern with _ | ⟨d, more⟩
    · exact absurd (List.cons.inj split).1 hslash
    · obtain ⟨rfl, tail⟩ := List.cons.inj split
      exact ⟨more, rfl, tail, by rw [← even, backslashes_plain hc]⟩
  · rintro ⟨more, rfl, split, even⟩
    exact ⟨by rw [split]; rfl, by rw [backslashes_plain hc, even]⟩

/-! ## The first slash that closes -/

theorem ne_backslash (hescape : ∀ (d : Char) (tail : List Char), c = '\\' → cs = d :: tail → False)
    (hlast : c = '\\' → cs = [] → False) : c ≠ '\\' := by
  intro hc
  rcases cs with _ | ⟨d, tail⟩
  · exact hlast hc rfl
  · exact hescape d tail hc rfl

theorem patternBody?_closes (h : patternBody? cs = some (pattern, rest)) :
    ClosesBehind cs pattern rest ∧
      ∀ other more, ClosesBehind cs other more → pattern.length ≤ other.length := by
  fun_induction patternBody? cs generalizing pattern rest with
  | case1 => cases h
  | case2 c cs ih =>
    obtain ⟨⟨b, t⟩, hb, he⟩ := Option.map_eq_some_iff.1 h
    cases he
    obtain ⟨closes, shortest⟩ := ih hb
    refine ⟨closesBehind_escaped.2 ⟨b, rfl, closes⟩, fun other more hother => ?_⟩
    obtain ⟨tail, rfl, htail⟩ := closesBehind_escaped.1 hother
    have := shortest tail more htail
    simp only [List.length_cons]
    omega
  | case3 => cases h
  | case4 cs =>
    cases h
    exact ⟨⟨rfl, rfl⟩, fun _ _ _ => Nat.zero_le _⟩
  | case5 c cs hescape hlast hslash ih =>
    obtain ⟨⟨b, t⟩, hb, he⟩ := Option.map_eq_some_iff.1 h
    cases he
    have plain : c ≠ '\\' := ne_backslash hescape hlast
    obtain ⟨closes, shortest⟩ := ih hb
    refine ⟨(closesBehind_plain hslash plain).2 ⟨b, rfl, closes⟩, fun other more hother => ?_⟩
    obtain ⟨tail, rfl, htail⟩ := (closesBehind_plain hslash plain).1 hother
    have := shortest tail more htail
    simp only [List.length_cons]
    omega

theorem not_closesBehind (h : patternBody? cs = none) : ¬ ClosesBehind cs pattern rest := by
  fun_induction patternBody? cs generalizing pattern rest with
  | case1 =>
    rintro ⟨split, -⟩
    simp at split
  | case2 c cs ih =>
    intro closes
    obtain ⟨more, -, closes⟩ := closesBehind_escaped.1 closes
    exact ih (Option.map_eq_none_iff.1 h) closes
  | case3 =>
    rintro ⟨split, even⟩
    rcases pattern with _ | ⟨d, pattern⟩
    · cases split
    · simp at split
  | case4 cs => cases h
  | case5 c cs hescape hlast hslash ih =>
    intro closes
    obtain ⟨more, -, closes⟩ :=
      (closesBehind_plain hslash (ne_backslash hescape hlast)).1 closes
    exact ih (Option.map_eq_none_iff.1 h) closes

/-! ## Literals -/

/-- The literal with the pattern and the flags. -/
def literalOf (pattern flags : List Char) : List Char := '/' :: (pattern ++ '/' :: flags)

/-- Behind its first slash the text goes on with a pattern up to the first slash that closes, then
with all the flags that follow. -/
structure IsCut (cs pattern flags rest : List Char) : Prop where
  closes : ClosesBehind cs pattern (flags ++ rest)
  shortest : ∀ other more, ClosesBehind cs other more → pattern.length ≤ other.length
  named : ∀ c ∈ flags, isFlag c = true
  longest : Stops isFlag rest

theorem cutLiteral?_cases (cs : List Char) :
    (cutLiteral? ('/' :: cs) = none ∧ ∀ pattern rest, ¬ ClosesBehind cs pattern rest) ∨
      ∃ pattern flags rest, IsCut cs pattern flags rest ∧
        cutLiteral? ('/' :: cs) = some (literalOf pattern flags, rest) := by
  rcases hbody : patternBody? cs with _ | ⟨pattern, more⟩
  · refine .inl ⟨?_, fun pattern rest => not_closesBehind hbody⟩
    rw [cutLiteral?, hbody]
    rfl
  · obtain ⟨closes, shortest⟩ := patternBody?_closes hbody
    refine .inr ⟨pattern, more.takeWhile isFlag, more.dropWhile isFlag, ⟨?_, shortest, ?_, ?_⟩, ?_⟩
    · rwa [List.takeWhile_append_dropWhile]
    · exact fun c hc => mem_takeWhile hc
    · exact stops_dropWhile isFlag more
    · rw [cutLiteral?, hbody]
      rfl

theorem slash_not_mem {flags : List Char} (h : ∀ c ∈ flags, isFlag c = true) : '/' ∉ flags :=
  fun hslash => absurd (h '/' hslash) (by decide)

theorem literalParts_literalOf {flags : List Char} (h : '/' ∉ flags) (pattern : List Char) :
    literalParts (literalOf pattern flags) = (pattern, flags) := by
  have back : (pattern ++ '/' :: flags).reverse = flags.reverse ++ '/' :: pattern.reverse := by
    simp
  obtain ⟨front, behind⟩ := cut_ne (List.mem_reverse.not.2 h) pattern.reverse
  have parts : literalParts (literalOf pattern flags) =
      if (pattern ++ '/' :: flags).contains '/' then
        ((((pattern ++ '/' :: flags).reverse.dropWhile (· != '/')).drop 1).reverse,
          ((pattern ++ '/' :: flags).reverse.takeWhile (· != '/')).reverse)
      else (pattern ++ '/' :: flags, []) := rfl
  rw [parts, if_pos (by simp), back, front, behind, List.drop_one, List.tail_cons,
    List.reverse_reverse, List.reverse_reverse]

/-- The expression of a pattern under the options. Where it cannot be read, the error is the
pattern. -/
def compilePattern (options : Flags) (pattern : List Char) : Except String Compiled :=
  match Pattern.parse? options pattern with
  | some p => .ok p.compile
  | none => .error (String.ofList pattern)

theorem compileLiteral_literalOf {flags : List Char} (h : '/' ∉ flags) (pattern : List Char) :
    compileLiteral (String.ofList (literalOf pattern flags)) =
      compilePattern { caseless := 'i' ∈ flags, multiLine := 'm' ∈ flags, dotAll := 's' ∈ flags }
        pattern := by
  unfold compileLiteral
  rw [String.toList_ofList, literalParts_literalOf h]
  simp only [flagsOf, List.contains_eq_mem]
  rfl

end

/-! ## Going by bytes -/

/-- The offset behind the slash that closes the pattern, looked for from `i` on. Behind a backslash
one byte is passed over, whatever it is a part of. -/
def patternEnd? (text : String) (i : Nat) : Option Nat :=
  match h : byteAt? text i with
  | none => none
  | some b =>
    if b = '\\' then patternEnd? text (i + 2)
    else if b = '/' then some (i + 1)
    else patternEnd? text (i + 1)
termination_by text.utf8ByteSize - i
decreasing_by
  all_goals
    have := Text.lt_of_byteAt? h
    omega

/-- The offset behind the literal that starts at `i`. -/
def literalEnd? (text : String) (i : Nat) : Option Nat :=
  (patternEnd? text (i + 1)).map (passing text isFlag)

section

variable {text : String} {front rest : List Char} {b c : Char} {i k : Nat}

theorem patternEnd?_none (h : byteAt? text i = none) : patternEnd? text i = none := by
  rw [patternEnd?]
  split
  · rfl
  · next hb =>
    rw [h] at hb
    cases hb

theorem patternEnd?_some (h : byteAt? text i = some b) :
    patternEnd? text i =
      if b = '\\' then patternEnd? text (i + 2)
      else if b = '/' then some (i + 1)
      else patternEnd? text (i + 1) := by
  rw [patternEnd?]
  split
  · next hb =>
    rw [h] at hb
    cases hb
  · next hb =>
    rw [h] at hb
    cases hb
    rfl

theorem patternEnd?_of_long (h : ∀ j < k, ∃ b, byteAt? text (i + j) = some b ∧ 128 ≤ b.toNat) :
    patternEnd? text i = patternEnd? text (i + k) := by
  induction k generalizing i with
  | zero => rfl
  | succ k ih =>
    obtain ⟨b, hb, long⟩ := h 0 (Nat.succ_pos k)
    have escape : b ≠ '\\' := by
      rintro rfl
      exact absurd long (by decide)
    have slash : b ≠ '/' := by
      rintro rfl
      exact absurd long (by decide)
    rw [patternEnd?_some (i := i) hb, if_neg escape, if_neg slash, Nat.add_comm k 1,
      ← Nat.add_assoc]
    refine ih fun j hj => ?_
    rw [Nat.add_assoc, Nat.add_comm 1 j]
    exact h (j + 1) (Nat.succ_lt_succ hj)

theorem patternEnd?_inside (h : text.toList = front ++ c :: rest) :
    patternEnd? text (byteLength front + 1) = patternEnd? text (byteLength (front ++ [c])) := by
  have size : byteLength (front ++ [c]) = byteLength front + c.utf8Size := by
    rw [Text.byteLength_append, Text.byteLength_cons, Text.byteLength_nil, Nat.add_zero]
  rw [size]
  rcases Nat.lt_or_ge c.toNat 128 with hc | hc
  · rw [Text.utf8Size_short hc]
  · have positive := c.utf8Size_pos
    have between : byteLength front + c.utf8Size = byteLength front + 1 + (c.utf8Size - 1) := by
      omega
    rw [between]
    refine patternEnd?_of_long fun j hj => ?_
    rw [Nat.add_assoc]
    exact Text.byteAt?_inside h hc (by omega)

theorem map_behind (more : List Char) {body : Option (List Char × List Char)}
    (hmore : front ++ more = rest) :
    (body.map fun (pattern, _) => byteLength rest + byteLength pattern + 1) =
      (body.map fun (pattern, tail) => (more ++ pattern, tail)).map fun (pattern, _) =>
        byteLength front + byteLength pattern + 1 := by
  subst hmore
  rw [Option.map_map]
  congr 1
  funext ⟨pattern, tail⟩
  simp only [Function.comp_apply, Text.byteLength_append]
  omega

/-- The search by bytes ends at the same slash as the search by characters. -/
theorem patternEnd?_behind (h : text.toList = front ++ rest) :
    patternEnd? text (byteLength front) =
      (patternBody? rest).map fun (pattern, _) => byteLength front + byteLength pattern + 1 := by
  fun_induction patternBody? rest generalizing front with
  | case1 =>
    rw [patternEnd?_none (Text.byteAt?_end (h.trans (List.append_nil front)))]
    rfl
  | case2 c cs ih =>
    have first : byteAt? text (byteLength front) = some '\\' := Text.byteAt?_cons h
    have escaped : text.toList = front ++ ['\\'] ++ c :: cs := by rw [h, List.append_cons]
    have behind : text.toList = front ++ ['\\'] ++ [c] ++ cs := by rw [escaped, List.append_cons]
    have one : byteLength front + 2 = byteLength (front ++ ['\\']) + 1 := by
      rw [Text.byteLength_append]
      rfl
    rw [patternEnd?_some first, if_pos rfl, one, patternEnd?_inside escaped, ih behind]
    exact map_behind ['\\', c] (by simp)
  | case3 =>
    have first : byteAt? text (byteLength front) = some '\\' := Text.byteAt?_cons h
    have beyond : byteAt? text (byteLength front + 2) = none := by
      rw [Text.byteAt?_behind h, Text.bytes_short (by decide)]
      rfl
    rw [patternEnd?_some first, if_pos rfl, patternEnd?_none beyond]
    rfl
  | case4 cs =>
    have first : byteAt? text (byteLength front) = some '/' := Text.byteAt?_cons h
    rw [patternEnd?_some first, if_neg (by decide), if_pos rfl]
    rfl
  | case5 c cs hescape hlast hslash ih =>
    have behind : text.toList = front ++ [c] ++ cs := by rw [h, List.append_cons]
    have escape : Text.leadByte c ≠ '\\' := (Text.leadByte_eq_iff (by decide)).not.2
      (ne_backslash hescape hlast)
    have slash : Text.leadByte c ≠ '/' := (Text.leadByte_eq_iff (by decide)).not.2 hslash
    rw [patternEnd?_some (Text.byteAt?_cons h), if_neg escape, if_neg slash, patternEnd?_inside h,
      ih behind]
    exact map_behind [c] rfl

theorem bytewise_isFlag : Bytewise isFlag := by
  refine .of_false fun c hc => ?_
  simp only [isFlag, Text.beq_long hc (d := 'g') rfl, Text.beq_long hc (d := 'i') rfl,
    Text.beq_long hc (d := 'm') rfl, Text.beq_long hc (d := 's') rfl, Bool.or_self]

theorem literalEnd?_behind (h : text.toList = front ++ '/' :: rest) :
    literalEnd? text (byteLength front) =
      (cutLiteral? ('/' :: rest)).map fun (literal, _) =>
        byteLength front + byteLength literal := by
  have behind : text.toList = front ++ ['/'] ++ rest := by rw [h, List.append_cons]
  have one : byteLength front + 1 = byteLength (front ++ ['/']) := by
    rw [Text.byteLength_append]
    rfl
  rw [literalEnd?, one, patternEnd?_behind behind, cutLiteral?]
  rcases hbody : patternBody? rest with _ | ⟨pattern, more⟩
  · rfl
  · obtain ⟨rfl, -⟩ := Path.patternBody?_sound hbody
    have closed : text.toList = front ++ ['/'] ++ pattern ++ ['/'] ++ more := by
      rw [behind, ← List.append_assoc, List.append_cons]
    have start : byteLength (front ++ ['/']) + byteLength pattern + 1 =
        byteLength (front ++ ['/'] ++ pattern ++ ['/']) := by
      simp only [Text.byteLength_append]
      rfl
    simp only [Option.map_some]
    rw [start, bytewise_isFlag.passing closed]
    simp only [Text.byteLength_append, Text.byteLength_cons, Text.byteLength_nil,
      List.cons_append]
    congr 1
    omega

end

end Stencil.Regex
