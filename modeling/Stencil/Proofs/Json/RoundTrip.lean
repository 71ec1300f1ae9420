import Stencil.Json.Printer
import Stencil.Proofs.Json.Numbers

/-!
# Compact texts read back

The compact text of a value is read as that value, if its numbers are read back from their digits
and it nests no deeper than texts may. Strings and whole numbers of 64 bits are always read back.
-/

namespace Stencil.Json

open Stencil.Path (stops_cons)

/-! ## Strings -/

theorem hexValue?_hexDigit : ∀ n < 16, Text.hexValue? (hexDigit n) = some n := by decide

theorem unicodeEscape?_control {c : Char} (h : c.toNat < 32) (cs : List Char) :
    unicodeEscape? ('0' :: '0' :: hexDigit (c.toNat / 16) :: hexDigit (c.toNat % 16) :: cs) =
      some (c, cs) := by
  have zero : Text.hexValue? '0' = some 0 := rfl
  have high := hexValue?_hexDigit (c.toNat / 16) (by omega)
  have low := hexValue?_hexDigit (c.toNat % 16) (by omega)
  have unit : ((0 * 16 + 0) * 16 + c.toNat / 16) * 16 + c.toNat % 16 = c.toNat := by omega
  have read : hexUnit? ('0' :: '0' :: hexDigit (c.toNat / 16) :: hexDigit (c.toNat % 16) :: cs) =
      some (c.toNat, cs) := by
    simp only [hexUnit?, zero, high, low, Option.bind_eq_bind, Option.bind_some, Option.pure_def,
      unit]
  have leading : ¬(0xD800 ≤ c.toNat ∧ c.toNat < 0xDC00) := by omega
  have trailing : ¬(0xDC00 ≤ c.toNat ∧ c.toNat < 0xE000) := by omega
  rw [unicodeEscape?, read]
  simp only [Option.bind_eq_bind, Option.bind_some, if_neg leading, if_neg trailing,
    Char.ofNat_toNat, Option.pure_def]

theorem stringBody?_escapeChar (fuel : ℕ) (acc : List Char) (c : Char) (cs : List Char) :
    stringBody? (fuel + 1) acc (escapeChar c ++ cs) = stringBody? fuel (c :: acc) cs := by
  unfold escapeChar
  split
  · next h => subst h; rfl
  split
  · next h => subst h; rfl
  split
  · next h => subst h; rfl
  split
  · next h => subst h; rfl
  split
  · next h => subst h; rfl
  split
  · next h =>
    obtain rfl : c = '\x08' := Char.toNat_inj.1 h
    rfl
  split
  · next h =>
    obtain rfl : c = '\x0c' := Char.toNat_inj.1 h
    rfl
  split
  · next h =>
    have read := unicodeEscape?_control h cs
    simp only [List.cons_append, List.nil_append]
    rw [stringBody?.eq_def]
    dsimp only
    rw [if_neg nofun, if_pos rfl, read]
    rfl
  · next quote backslash _ _ _ _ _ printable =>
    rw [List.singleton_append, stringBody?.eq_def]
    dsimp only
    rw [if_neg quote, if_neg backslash, if_neg printable]

theorem stringBody?_escaped (cs acc rest : List Char) {fuel : ℕ} (hfuel : cs.length < fuel) :
    stringBody? fuel acc (cs.flatMap escapeChar ++ '"' :: rest) =
      some (String.ofList (acc.reverse ++ cs), rest) := by
  induction cs generalizing acc fuel with
  | nil =>
    obtain ⟨fuel, rfl⟩ := Nat.exists_eq_add_of_lt hfuel
    simp [stringBody?]
  | cons c cs ih =>
    cases fuel with
    | zero => omega
    | succ fuel =>
      rw [List.flatMap_cons, List.append_assoc, stringBody?_escapeChar,
        ih _ (by simpa using hfuel)]
      simp

theorem quote_toList (s : String) :
    (quote s).toList = '"' :: (s.toList.flatMap escapeChar ++ ['"']) := by
  simp [quote]

theorem quote_append (s : String) (rest : List Char) :
    (quote s).toList ++ rest = '"' :: (s.toList.flatMap escapeChar ++ '"' :: rest) := by
  simp [quote_toList]

theorem length_le_flatMap_escapeChar (cs : List Char) :
    cs.length ≤ (cs.flatMap escapeChar).length := by
  induction cs with
  | nil => exact le_rfl
  | cons c cs ih =>
    have one : 1 ≤ (escapeChar c).length := by
      unfold escapeChar
      repeat' split
      all_goals simp
    rw [List.flatMap_cons, List.length_append, List.length_cons]
    omega

theorem stringBody?_quoted (s : String) (rest : List Char) {unread : List Char}
    (h : unread = s.toList.flatMap escapeChar ++ '"' :: rest) :
    stringBody? (unread.length + 1) [] unread = some (s, rest) := by
  have short := length_le_flatMap_escapeChar s.toList
  have fuel : s.toList.length < unread.length + 1 := by
    rw [h, List.length_append]
    omega
  generalize unread.length + 1 = bound at fuel
  rw [h, stringBody?_escaped s.toList [] rest fuel]
  simp

/-! ## Values -/

/-- A number is read back from its digits. -/
def ReadsBack (n : JsonNumber) : Prop := number? n.text.toList = some (n, [])

instance (n : JsonNumber) : Decidable (ReadsBack n) :=
  inferInstanceAs (Decidable (number? n.text.toList = some (n, [])))

theorem readsBack_int {z : ℤ} (low : -(2 : ℤ) ^ 63 ≤ z) (high : z < 2 ^ 64) : ReadsBack (.int z) :=
  number?_intText low high

/-- Values whose numbers are read back, nesting at most to a depth. -/
inductive Readable : ℕ → Json → Prop
  | null {depth : ℕ} : Readable depth null
  | bool {depth : ℕ} (b : Bool) : Readable depth (bool b)
  | num {depth : ℕ} {n : JsonNumber} : ReadsBack n → Readable depth (num n)
  | str {depth : ℕ} (s : String) : Readable depth (str s)
  | arr {depth : ℕ} {xs : List Json} : (∀ x ∈ xs, Readable depth x) → Readable (depth + 1) (arr xs)
  | obj {depth : ℕ} {ms : Members} :
      (∀ m ∈ ms, Readable depth m.2) → Readable (depth + 1) (obj ms)

/-- The text starts a value: neither with a blank nor with the end of an array. -/
def StartsValue (cs : List Char) : Prop :=
  ∃ c more, cs = c :: more ∧ isSpace c = false ∧ c ≠ ']'

theorem StartsValue.append {cs : List Char} (h : StartsValue cs) (rest : List Char) :
    StartsValue (cs ++ rest) := by
  obtain ⟨c, more, rfl, hc⟩ := h
  exact ⟨c, more ++ rest, rfl, hc⟩

theorem skipSpace_cons {c : Char} (h : isSpace c = false) (cs : List Char) :
    skipSpace (c :: cs) = c :: cs := by
  rw [skipSpace, List.dropWhile_cons, h]
  rfl

theorem number?_start {cs : List Char} {read : JsonNumber × List Char}
    (h : number? cs = some read) :
    ∃ c more, cs = c :: more ∧ (c = '-' ∨ c.isDigit = true) := by
  unfold number? at h
  split at h
  · exact ⟨'-', _, rfl, .inl rfl⟩
  · cases cs with
    | nil => cases h
    | cons c cs =>
      rw [unsignedNumber?_cons] at h
      split at h
      · cases h
      · next digit => exact ⟨c, cs, rfl, .inr (by simpa using digit)⟩

theorem startsValue_number {c : Char} (h : c = '-' ∨ c.isDigit = true) (cs : List Char) :
    StartsValue (c :: cs) := by
  refine ⟨c, cs, rfl, ?_, ?_⟩
  · obtain rfl | digit := h
    · rfl
    · rw [Bool.eq_false_iff]
      intro blank
      simp only [isSpace, Bool.or_eq_true, beq_iff_eq] at blank
      obtain ((rfl | rfl) | rfl) | rfl := blank <;> cases digit
  · rintro rfl
    revert h
    decide

theorem startsValue_quote (s : String) : StartsValue (quote s).toList := by
  rw [quote_toList]
  exact ⟨'"', _, rfl, rfl, nofun⟩

theorem arr_toList (xs : List Json) :
    (compact (arr xs)).toList = '[' :: ((compactItems xs).toList ++ [']']) := by
  simp [compact]

theorem obj_toList (ms : Members) :
    (compact (obj ms)).toList = '\x7b' :: ((compactMembers ms).toList ++ ['\x7d']) := by
  simp [compact]

theorem startsValue_compact {depth : ℕ} {v : Json} (h : Readable depth v) :
    StartsValue (compact v).toList := by
  cases h with
  | null => exact ⟨'n', _, rfl, rfl, nofun⟩
  | bool b =>
    cases b with
    | true => exact ⟨'t', _, rfl, rfl, nofun⟩
    | false => exact ⟨'f', _, rfl, rfl, nofun⟩
  | @num _ n hn =>
    obtain ⟨c, more, hcs, first⟩ := number?_start hn
    rw [compact, hcs]
    exact startsValue_number first more
  | str s =>
    rw [compact]
    exact startsValue_quote s
  | arr _ =>
    rw [arr_toList]
    exact ⟨'[', _, rfl, rfl, nofun⟩
  | obj _ =>
    rw [obj_toList]
    exact ⟨'\x7b', _, rfl, rfl, nofun⟩

/-- The compact text of the value is read back, whatever stands behind it. -/
def CompactReads (depth : ℕ) (v : Json) : Prop :=
  ∀ fuel rest, (compact v).toList.length ≤ fuel → EndsNumber rest →
    value? fuel depth ((compact v).toList ++ rest) = some (v, rest)

theorem items?_compact {depth : ℕ} {xs : List Json} (hne : xs ≠ [])
    (hxs : ∀ x ∈ xs, CompactReads depth x) (rest : List Char) {fuel : ℕ}
    (hfuel : (compactItems xs).toList.length < fuel) :
    items? fuel depth ((compactItems xs).toList ++ ']' :: rest) = some (xs, rest) := by
  induction xs generalizing fuel with
  | nil => exact absurd rfl hne
  | cons x xs ih =>
    rw [List.forall_mem_cons] at hxs
    cases fuel with
    | zero => omega
    | succ fuel =>
      cases xs with
      | nil =>
        rw [compactItems] at hfuel ⊢
        have first := hxs.1 fuel (']' :: rest) (by omega) (stops_cons rfl)
        rw [items?, first]
        rfl
      | cons y ys =>
        have text : (compactItems (x :: y :: ys)).toList =
            (compact x).toList ++ ',' :: (compactItems (y :: ys)).toList := by
          simp [compactItems]
        rw [text, List.length_append, List.length_cons] at hfuel
        rw [text, List.append_assoc, List.cons_append]
        have first := hxs.1 fuel (',' :: ((compactItems (y :: ys)).toList ++ ']' :: rest))
          (by omega) (stops_cons rfl)
        have room : (compactItems (y :: ys)).toList.length < fuel := by omega
        rw [items?, first]
        simp only [skipSpace_cons (show isSpace ',' = false from rfl), ih nofun hxs.2 room,
          Option.map_some]

theorem members?_more {depth fuel : ℕ} {name : String} {v : Json} (hv : CompactReads depth v)
    (room : (compact v).toList.length ≤ fuel) {more rest : List Char} {ms : Members}
    (h : members? fuel depth more = some (ms, rest)) :
    members? (fuel + 1) depth ((quote name).toList ++ ':' :: ((compact v).toList ++ ',' :: more)) =
      some ((name, v) :: ms, rest) := by
  have read := stringBody?_quoted name (':' :: ((compact v).toList ++ ',' :: more)) rfl
  have value := hv fuel (',' :: more) room (stops_cons rfl)
  rw [quote_append, members?, skipSpace_cons rfl]
  simp only [read, skipSpace_cons (show isSpace ':' = false from rfl), value,
    skipSpace_cons (show isSpace ',' = false from rfl), h, Option.map_some]

theorem members?_last {depth fuel : ℕ} {name : String} {v : Json} (hv : CompactReads depth v)
    (room : (compact v).toList.length ≤ fuel) (rest : List Char) :
    members? (fuel + 1) depth
        ((quote name).toList ++ ':' :: ((compact v).toList ++ '\x7d' :: rest)) =
      some ([(name, v)], rest) := by
  have read := stringBody?_quoted name (':' :: ((compact v).toList ++ '\x7d' :: rest)) rfl
  have value := hv fuel ('\x7d' :: rest) room (stops_cons rfl)
  rw [quote_append, members?, skipSpace_cons rfl]
  simp only [read, skipSpace_cons (show isSpace ':' = false from rfl), value,
    skipSpace_cons (show isSpace '\x7d' = false from rfl)]

theorem members?_compact {depth : ℕ} {ms : Members} (hne : ms ≠ [])
    (hms : ∀ m ∈ ms, CompactReads depth m.2) (rest : List Char) {fuel : ℕ}
    (hfuel : (compactMembers ms).toList.length < fuel) :
    members? fuel depth ((compactMembers ms).toList ++ '\x7d' :: rest) = some (ms, rest) := by
  induction ms generalizing fuel with
  | nil => exact absurd rfl hne
  | cons m ms ih =>
    obtain ⟨name, v⟩ := m
    rw [List.forall_mem_cons] at hms
    have hv : CompactReads depth v := hms.1
    cases fuel with
    | zero => omega
    | succ fuel =>
      cases ms with
      | nil =>
        have text : (compactMembers [(name, v)]).toList =
            (quote name).toList ++ ':' :: (compact v).toList := by
          simp [compactMembers]
        rw [text, List.length_append, List.length_cons] at hfuel
        rw [text, List.append_assoc, List.cons_append, members?_last hv (by omega)]
      | cons m ms =>
        have text : (compactMembers ((name, v) :: m :: ms)).toList =
            (quote name).toList ++
              ':' :: ((compact v).toList ++ ',' :: (compactMembers (m :: ms)).toList) := by
          simp [compactMembers]
        rw [text, List.length_append, List.length_cons, List.length_append,
          List.length_cons] at hfuel
        have room : (compactMembers (m :: ms)).toList.length < fuel := by omega
        rw [text, List.append_assoc, List.cons_append, List.append_assoc, List.cons_append,
          members?_more hv (by omega) (ih nofun hms.2 room)]

theorem value?_number {c : Char} (h : c = '-' ∨ c.isDigit = true) (fuel depth : ℕ)
    (cs : List Char) :
    value? (fuel + 1) depth (c :: cs) =
      (number? (c :: cs)).map fun (n, rest) => (num n, rest) := by
  obtain ⟨_, _, heads, blank, -⟩ := startsValue_number h cs
  cases heads
  rw [value?, skipSpace_cons blank]
  dsimp only
  split
  · exact absurd h (by decide)
  · exact absurd h (by decide)
  · exact absurd h (by decide)
  · exact absurd h (by decide)
  · exact absurd h (by decide)
  · exact absurd h (by decide)
  · rfl

theorem value?_items {cs : List Char} (h : StartsValue cs) (fuel depth : ℕ) :
    value? (fuel + 1) (depth + 1) ('[' :: cs) =
      (items? fuel depth cs).map fun (xs, rest) => (arr xs, rest) := by
  obtain ⟨c, cs, rfl, blank, close⟩ := h
  rw [value?, skipSpace_cons rfl]
  simp only [skipSpace_cons blank]
  split
  · next heq =>
    cases heq
    exact absurd rfl close
  · rfl

theorem value?_members (fuel depth : ℕ) (cs : List Char) :
    value? (fuel + 1) (depth + 1) ('\x7b' :: '"' :: cs) =
      (members? fuel depth ('"' :: cs)).map fun (ms, rest) => (obj ms, rest) := rfl

theorem startsValue_items {x : Json} (h : StartsValue (compact x).toList) (xs : List Json) :
    StartsValue (compactItems (x :: xs)).toList := by
  cases xs with
  | nil =>
    rw [compactItems]
    exact h
  | cons y ys =>
    rw [compactItems]
    · simpa [List.append_assoc] using h.append (',' :: (compactItems (y :: ys)).toList)
    · nofun

theorem compactMembers_cons_toList (m : String × Json) (ms : Members) :
    ∃ cs, (compactMembers (m :: ms)).toList = '"' :: cs := by
  obtain ⟨name, v⟩ := m
  cases ms with
  | nil =>
    rw [compactMembers, String.toList_append, String.toList_append, quote_toList]
    exact ⟨_, rfl⟩
  | cons m ms =>
    rw [compactMembers]
    · simp only [String.toList_append, quote_toList]
      exact ⟨_, rfl⟩
    · nofun

theorem compactReads_of_starts {depth : ℕ} {v : Json} (hstarts : StartsValue (compact v).toList)
    (h : ∀ fuel rest, (compact v).toList.length ≤ fuel + 1 → EndsNumber rest →
      value? (fuel + 1) depth ((compact v).toList ++ rest) = some (v, rest)) :
    CompactReads depth v := by
  rintro (_ | fuel) rest room hends
  · obtain ⟨c, more, hcs, -⟩ := hstarts
    rw [hcs] at room
    cases room
  · exact h fuel rest room hends

theorem Readable.compactReads {depth : ℕ} {v : Json} (h : Readable depth v) :
    CompactReads depth v := by
  have starts := startsValue_compact h
  induction h with
  | null => exact compactReads_of_starts starts fun fuel rest _ _ => rfl
  | bool b =>
    refine compactReads_of_starts starts fun fuel rest _ _ => ?_
    cases b <;> rfl
  | @num depth n hn =>
    refine compactReads_of_starts starts fun fuel rest _ hends => ?_
    obtain ⟨c, more, hcs, first⟩ := number?_start hn
    have read := number?_isLocal _ n [] rest hends hn
    rw [compact]
    rw [hcs, List.cons_append] at read ⊢
    rw [value?_number first, read]
    rfl
  | str s =>
    refine compactReads_of_starts starts fun fuel rest _ _ => ?_
    have read := stringBody?_quoted s rest rfl
    rw [compact, quote_append, value?, skipSpace_cons rfl]
    simp only [read, Option.map_some]
  | @arr depth xs hxs ih =>
    refine compactReads_of_starts starts fun fuel rest room _ => ?_
    have reads : ∀ x ∈ xs, CompactReads depth x := fun x hx =>
      ih x hx (startsValue_compact (hxs x hx))
    rw [arr_toList] at room ⊢
    rw [List.cons_append, List.append_assoc]
    cases xs with
    | nil => rfl
    | cons x xs =>
      have first := startsValue_compact (hxs x List.mem_cons_self)
      have fits : (compactItems (x :: xs)).toList.length < fuel := by
        rw [List.length_cons, List.length_append, List.length_singleton] at room
        omega
      rw [value?_items ((startsValue_items first xs).append _), List.singleton_append,
        items?_compact (List.cons_ne_nil x xs) reads rest fits]
      rfl
  | @obj depth ms hms ih =>
    refine compactReads_of_starts starts fun fuel rest room _ => ?_
    have reads : ∀ m ∈ ms, CompactReads depth m.2 := fun m hm =>
      ih m hm (startsValue_compact (hms m hm))
    rw [obj_toList] at room ⊢
    rw [List.cons_append, List.append_assoc]
    cases ms with
    | nil => rfl
    | cons m ms =>
      have fits : (compactMembers (m :: ms)).toList.length < fuel := by
        rw [List.length_cons, List.length_append, List.length_singleton] at room
        omega
      have read := members?_compact (List.cons_ne_nil m ms) reads rest fits
      obtain ⟨cs, hcs⟩ := compactMembers_cons_toList m ms
      rw [hcs] at read ⊢
      rw [List.cons_append, value?_members, List.singleton_append, ← List.cons_append, read]
      rfl

/-- The text of a readable value is read as the value. -/
theorem parseTree?_compact {v : Json} (h : Readable maxDepth v) :
    parseTree? (compact v) = some v := by
  have ends : EndsNumber [] := by
    rintro c ⟨⟩
  have read := h.compactReads ((compact v).toList.length + 1) [] (by omega) ends
  rw [List.append_nil] at read
  rw [parseTree?]
  simp only [read]
  rfl

end Stencil.Json
