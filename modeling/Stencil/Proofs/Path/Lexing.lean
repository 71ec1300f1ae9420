import Stencil.Path.Progress
import Stencil.Proofs.Text.Digits

/-!
# Reading tokens

What a reader takes for a token is one, and every token that is bounded by what follows it is taken.
-/

namespace Stencil.Path

/-! ## Runs of characters -/

theorem mem_takeWhile {p : Char → Bool} {cs : List Char} {c : Char} (h : c ∈ cs.takeWhile p) :
    p c = true :=
  List.all_eq_true.1 List.all_takeWhile c h

/-- The text does not go on with a character of the kind. -/
def Stops (p : Char → Bool) (rest : List Char) : Prop := ∀ c, rest.head? = some c → p c = false

theorem stops_cons {p : Char → Bool} {c : Char} {tail : List Char} (h : p c = false) :
    Stops p (c :: tail) := by
  rintro d ⟨⟩
  exact h

theorem stops_dropWhile (p : Char → Bool) (cs : List Char) : Stops p (cs.dropWhile p) := by
  intro c hc
  have := List.head?_dropWhile_not p cs
  rw [hc] at this
  exact this

theorem Stops.dropWhile {p : Char → Bool} {rest : List Char} (h : Stops p rest) :
    rest.dropWhile p = rest := by
  cases rest with
  | nil => rfl
  | cons c cs =>
    rw [List.dropWhile_cons, if_neg]
    rw [h c rfl]
    exact Bool.false_ne_true

theorem Stops.takeWhile {p : Char → Bool} {rest : List Char} (h : Stops p rest) :
    rest.takeWhile p = [] := by
  cases rest with
  | nil => rfl
  | cons c cs =>
    rw [List.takeWhile_cons, if_neg]
    rw [h c rfl]
    exact Bool.false_ne_true

theorem takeWhile_run {p : Char → Bool} {ds rest : List Char} (h : ∀ c ∈ ds, p c = true)
    (hr : Stops p rest) : (ds ++ rest).takeWhile p = ds := by
  rw [List.takeWhile_append_of_pos h, hr.takeWhile, List.append_nil]

theorem dropWhile_run {p : Char → Bool} {ds rest : List Char} (h : ∀ c ∈ ds, p c = true)
    (hr : Stops p rest) : (ds ++ rest).dropWhile p = rest := by
  rw [List.dropWhile_append_of_pos h, hr.dropWhile]

theorem dropWhile_ne_eq_cons {q c : Char} {cs rest : List Char}
    (h : cs.dropWhile (· != q) = c :: rest) :
    cs = cs.takeWhile (· != q) ++ q :: rest ∧ q ∉ cs.takeWhile (· != q) := by
  have closing : c = q := by simpa using stops_dropWhile (· != q) cs c (by rw [h]; rfl)
  have run := List.takeWhile_append_dropWhile (p := (· != q)) (l := cs)
  rw [h, closing] at run
  refine ⟨run.symm, fun hmem => ?_⟩
  simpa using mem_takeWhile hmem

theorem cut_ne {q : Char} {front : List Char} (h : q ∉ front) (rest : List Char) :
    (front ++ q :: rest).takeWhile (· != q) = front ∧
      (front ++ q :: rest).dropWhile (· != q) = q :: rest := by
  have run : ∀ c ∈ front, (c != q) = true := by
    intro c hc
    simp only [bne_iff_ne, ne_eq]
    rintro rfl
    exact h hc
  have stops : Stops (· != q) (q :: rest) := stops_cons (by simp)
  exact ⟨takeWhile_run run stops, dropWhile_run run stops⟩

theorem stops_name_iff (rest : List Char) : Stops isNameChar rest ↔ goesOn rest = false := by
  unfold Stops goesOn
  cases rest with
  | nil => simp
  | cons c cs => simp

/-! ## Spaces -/

/-- What a text is behind the spaces that may stand at its start. -/
def lead (inside : Bool) (cs : List Char) : List Char :=
  if inside then cs.dropWhile (· == ' ') else cs

theorem spaced_iff {inside : Bool} {text cs rest : List Char} {c : Char} {tail : List Char}
    (ht : text = c :: tail) (hc : c ≠ ' ') :
    Spaced inside text cs rest ↔ lead inside cs = text ++ rest := by
  subst ht
  unfold lead
  constructor
  · rintro ⟨gap, rfl, hgap⟩
    cases inside with
    | false =>
      rcases gap with _ | ⟨d, gap⟩
      · rfl
      · exact absurd (hgap d List.mem_cons_self).1 Bool.false_ne_true
    | true =>
      rw [if_pos rfl]
      apply dropWhile_run
      · intro d hd
        exact beq_iff_eq.2 (hgap d hd).2
      · intro d hd
        cases hd
        exact beq_eq_false_iff_ne.2 hc
  · intro h
    cases inside with
    | false => exact ⟨[], h, nofun⟩
    | true =>
      rw [if_pos rfl] at h
      refine ⟨cs.takeWhile (· == ' '), ?_, fun d hd => ⟨rfl, ?_⟩⟩
      · rw [← h, List.takeWhile_append_dropWhile]
      · exact beq_iff_eq.1 (mem_takeWhile (p := (· == ' ')) hd)

/-! ## Numbers -/

theorem isDigits_takeWhile {cs : List Char} (h : ¬ (cs.takeWhile Char.isDigit).isEmpty) :
    IsDigits (cs.takeWhile Char.isDigit) :=
  ⟨fun he => h (by rw [he]; rfl), fun _ => mem_takeWhile⟩

theorem IsDigits.nat?_isSome {ds : List Char} (h : IsDigits ds) : (Text.nat? ds).isSome = true := by
  rw [Text.nat?_of_isDigits h, Option.isSome_some]

theorem IsDigits.head {ds : List Char} (h : IsDigits ds) :
    ∃ d tail, ds = d :: tail ∧ d.isDigit = true := by
  rcases ds with _ | ⟨d, tail⟩
  · exact absurd rfl h.1
  · exact ⟨d, tail, rfl, h.2 d List.mem_cons_self⟩

theorem Reader.splitMinus_sign {sign ds rest : List Char} (hs : IsSign sign) (hd : IsDigits ds) :
    splitMinus (sign ++ (ds ++ rest)) = (sign, ds ++ rest) := by
  obtain ⟨d, tail, rfl, digit⟩ := hd.head
  rcases hs with rfl | rfl
  · unfold splitMinus
    split
    · next h =>
      cases h
      exact absurd digit (by decide)
    · rfl
  · rfl

theorem Reader.splitMinus_eq (cs : List Char) :
    cs = (splitMinus cs).1 ++ (splitMinus cs).2 ∧ IsSign (splitMinus cs).1 := by
  unfold splitMinus
  split
  · exact ⟨rfl, .inr rfl⟩
  · exact ⟨rfl, .inl rfl⟩

theorem isSome_int?_whole {sign ds : List Char} (hs : IsSign sign) (hd : IsDigits ds) :
    (Text.int? (sign ++ ds)).isSome = true := by
  have digits := hd.nat?_isSome
  obtain ⟨d, tail, rfl, digit⟩ := hd.head
  rcases hs with rfl | rfl
  · unfold Text.int?
    split
    · next h =>
      cases h
      exact absurd digit (by decide)
    · next h =>
      cases h
      exact absurd digit (by decide)
    · simpa using digits
  · simpa [Text.int?] using digits

theorem int?_fraction {sign ds fs : List Char} (hs : IsSign sign) (hd : IsDigits ds) :
    Text.int? (sign ++ ds ++ '.' :: fs) = none := by
  have none_digits : Text.nat? (ds ++ '.' :: fs) = none := by
    unfold Text.nat?
    rw [if_neg (by simp), if_neg]
    intro h
    exact absurd (List.all_eq_true.1 h '.' (by simp)) (by decide)
  obtain ⟨d, tail, rfl, digit⟩ := hd.head
  rcases hs with rfl | rfl
  · unfold Text.int?
    split
    · next h =>
      cases h
      exact absurd digit (by decide)
    · next h =>
      cases h
      exact absurd digit (by decide)
    · rw [List.nil_append, none_digits]
      rfl
  · simp only [List.cons_append, List.nil_append, Text.int?] at none_digits ⊢
    rw [none_digits]
    rfl

/-- Neither a digit nor a point: a number ends in front of it. -/
def isNumberPart (c : Char) : Bool := c.isDigit || c == '.'

theorem Stops.mono {p q : Char → Bool} {rest : List Char} (h : Stops q rest)
    (hpq : ∀ c, p c = true → q c = true) : Stops p rest := by
  intro c hc
  cases hp : p c with
  | false => rfl
  | true => exact (hpq c hp).symm.trans (h c hc)

namespace Reader

theorem scanNumber_sound {fraction : Bool} {r s : Reader} (h : r.scanNumber fraction = .token s) :
    ∃ text rest, r.rest = text ++ rest ∧ s = r.past .number text rest ∧ IsNumeral text ∧
      (fraction = false → (Text.int? text).isSome = true) := by
  obtain ⟨hcs, hsign⟩ := splitMinus_eq r.rest
  unfold scanNumber at h
  generalize splitMinus r.rest = split at h hcs hsign
  obtain ⟨sign, cs⟩ := split
  simp only at h hcs hsign
  have hrun : cs = cs.takeWhile Char.isDigit ++ cs.dropWhile Char.isDigit :=
    List.takeWhile_append_dropWhile.symm
  split at h
  · cases h
  · next hd =>
    have digits := isDigits_takeWhile hd
    split at h
    · next tail hpoint =>
      split at h
      · cases h
      · next hf =>
        cases h
        refine ⟨_, _, ?_, rfl, .fraction hsign digits (isDigits_takeWhile hf), nofun⟩
        rw [hcs]
        simp only [List.append_assoc, List.cons_append, List.takeWhile_append_dropWhile]
        rw [← hpoint, List.takeWhile_append_dropWhile]
    · cases h
      refine ⟨_, _, ?_, rfl, .whole hsign digits, fun _ => isSome_int?_whole hsign digits⟩
      rw [List.append_assoc, ← hrun, hcs]

theorem scanNumber_complete {fraction : Bool} {r : Reader} {text rest : List Char}
    (hr : r.rest = text ++ rest) (ht : IsNumeral text) (hrest : Stops isNumberPart rest)
    (hwhole : fraction = false → (Text.int? text).isSome = true) :
    r.scanNumber fraction = .token (r.past .number text rest) := by
  have stops : Stops Char.isDigit rest := hrest.mono fun c hc => by simp [isNumberPart, hc]
  cases ht with
  | @whole sign ds hs hd =>
    rw [List.append_assoc] at hr
    unfold scanNumber
    rw [hr, splitMinus_sign hs hd]
    simp only [takeWhile_run hd.2 stops, dropWhile_run hd.2 stops]
    rw [if_neg (by simpa using hd.1)]
    split
    · exact absurd (hrest '.' rfl) (by decide)
    · rfl
  | @fraction sign ds fs hs hd hf =>
    cases fraction with
    | false =>
      have := hwhole rfl
      rw [int?_fraction hs hd] at this
      cases this
    | true =>
      have point : Stops Char.isDigit ('.' :: (fs ++ rest)) := by
        intro c hc
        cases hc
        rfl
      simp only [List.append_assoc, List.cons_append] at hr
      unfold scanNumber
      rw [hr, splitMinus_sign hs hd]
      simp only [takeWhile_run hd.2 point, dropWhile_run hd.2 point, takeWhile_run hf.2 stops,
        dropWhile_run hf.2 stops]
      rw [if_neg (by simpa using hd.1), if_neg (by simpa using hf.1), List.append_assoc]

end Reader

/-! ## Regular expressions -/

theorem patternBody?_sound {cs body rest : List Char}
    (h : Regex.patternBody? cs = some (body, rest)) :
    cs = body ++ '/' :: rest ∧ IsPattern .longest body := by
  fun_induction Regex.patternBody? cs generalizing body rest with
  | case1 => cases h
  | case2 c cs ih =>
    obtain ⟨⟨b, t⟩, hb, he⟩ := Option.map_eq_some_iff.1 h
    cases he
    obtain ⟨rfl, pattern⟩ := ih hb
    exact ⟨rfl, .escaped c pattern⟩
  | case3 => cases h
  | case4 cs =>
    cases h
    exact ⟨rfl, .nil⟩
  | case5 c cs hescape hlast hslash ih =>
    obtain ⟨⟨b, t⟩, hb, he⟩ := Option.map_eq_some_iff.1 h
    cases he
    obtain ⟨rfl, pattern⟩ := ih hb
    refine ⟨rfl, .plain hslash (fun _ hc => ?_) pattern⟩
    rcases b with _ | ⟨d, b⟩
    · exact hescape '/' rest hc rfl
    · exact hescape d (b ++ '/' :: rest) hc rfl

theorem patternBody?_complete {body : List Char} (h : IsPattern .longest body) (rest : List Char) :
    Regex.patternBody? (body ++ '/' :: rest) = some (body, rest) := by
  induction h with
  | nil => rfl
  | escaped c _ ih => simp [Regex.patternBody?, ih]
  | @plain c cs hslash hescape _ ih =>
    have hback := hescape rfl
    rw [List.cons_append, Regex.patternBody?.eq_def]
    split <;> simp_all

theorem cutLiteral?_sound {cs literal rest : List Char}
    (h : Regex.cutLiteral? cs = some (literal, rest)) :
    cs = literal ++ rest ∧ Stops Regex.isFlag rest ∧ ∃ body flags,
      literal = '/' :: (body ++ '/' :: flags) ∧ IsPattern .longest body ∧
        ∀ c ∈ flags, Regex.isFlag c = true := by
  unfold Regex.cutLiteral? at h
  split at h
  · next cs =>
    obtain ⟨⟨body, tail⟩, hbody, he⟩ := Option.map_eq_some_iff.1 h
    cases he
    obtain ⟨rfl, pattern⟩ := patternBody?_sound hbody
    refine ⟨?_, stops_dropWhile _ _, body, _, rfl, pattern, fun c => mem_takeWhile⟩
    simp only [List.cons_append, List.append_assoc, List.takeWhile_append_dropWhile]
  · cases h

theorem cutLiteral?_complete {body flags rest : List Char} (hbody : IsPattern .longest body)
    (hflags : ∀ c ∈ flags, Regex.isFlag c = true) (hrest : Stops Regex.isFlag rest) :
    Regex.cutLiteral? ('/' :: (body ++ '/' :: (flags ++ rest))) =
      some ('/' :: (body ++ '/' :: flags), rest) := by
  have body := patternBody?_complete hbody (flags ++ rest)
  simp only [Regex.cutLiteral?, body, Option.map_some, takeWhile_run hflags hrest,
    dropWhile_run hflags hrest]
  rfl

/-! ## Operators -/

theorem Reader.afterOperator?_eq_some {cs rest : List Char} {op : Operator} :
    afterOperator? cs op = some rest ↔
      cs = op.symbol.toList ++ rest ∧ (op ∈ Operator.words → goesOn rest = false) := by
  unfold afterOperator?
  constructor
  · intro h
    simp only at h
    split at h
    · next hp =>
      obtain ⟨tail, rfl⟩ := List.isPrefixOf_iff_prefix.1 hp
      rw [List.drop_left] at h
      split at h
      · cases h
      · next hends =>
        cases h
        refine ⟨rfl, fun hw => ?_⟩
        exact Bool.eq_false_iff.2 fun hg => hends ⟨List.contains_iff_mem.2 hw, hg⟩
    · cases h
  · rintro ⟨rfl, hends⟩
    have hp : op.symbol.toList.isPrefixOf (op.symbol.toList ++ rest) = true :=
      List.isPrefixOf_iff_prefix.2 (List.prefix_append _ _)
    simp only
    rw [if_pos hp, List.drop_left, if_neg]
    rintro ⟨hw, hg⟩
    have := hends (List.contains_iff_mem.1 hw)
    unfold goesOn at this
    rw [hg] at this
    cases this

/-! ## First characters -/

/-- The characters that a token may start with. -/
def Token.opensWith (c : Char) : Token → Bool
  | .propertyName => isNameStart c
  | .string => c == '\''
  | .number => isNumberStart c
  | .regex => c == '/'
  | t => (t.sign?.bind List.head?) == some c

theorem IsNumeral.head {text : List Char} (h : IsNumeral text) :
    ∃ c tail, text = c :: tail ∧ isNumberStart c = true := by
  have signed {sign ds : List Char} (hs : IsSign sign) (hd : IsDigits ds) :
      ∃ c tail, sign ++ ds = c :: tail ∧ isNumberStart c = true := by
    obtain ⟨d, tail, rfl, digit⟩ := hd.head
    rcases hs with rfl | rfl
    · exact ⟨d, tail, rfl, by simp [isNumberStart, digit]⟩
    · exact ⟨'-', d :: tail, rfl, rfl⟩
  cases h with
  | whole hs hd => exact signed hs hd
  | fraction hs hd =>
    obtain ⟨c, tail, he, hc⟩ := signed hs hd
    exact ⟨c, _, by rw [he]; rfl, hc⟩

theorem Written.head {L : Lexicon} {t : Token} {lexeme text : List Char}
    (h : Written L t lexeme text) : ∃ c tail, text = c :: tail ∧ t.opensWith c = true := by
  cases h with
  | sign ht =>
    cases t <;> cases ht
    case operator.refl op => cases op <;> exact ⟨_, _, rfl, by decide⟩
    all_goals exact ⟨_, _, rfl, by decide⟩
  | name hc => exact ⟨_, _, rfl, hc⟩
  | string => exact ⟨_, _, rfl, rfl⟩
  | number hn => exact hn.head
  | regex => exact ⟨_, _, rfl, rfl⟩

theorem opensWith_space (t : Token) : t.opensWith ' ' = false := by
  cases t
  case operator op => cases op <;> decide
  all_goals decide

/-- What follows a token does not make it a longer one. -/
def Token.Bounded (rest : List Char) : Token → Prop
  | .child => rest.head? ≠ some '.'
  | .number => Stops isNumberPart rest
  | .regex => Stops Regex.isFlag rest
  | .operator op => op = .less ∨ op = .greater → rest.head? ≠ some '='
  | _ => True

namespace Reader

theorem scanOperator_sound {r s : Reader} (h : r.scanOperator = .token s) :
    ∃ op rest, r.rest = op.symbol.toList ++ rest ∧ (op ∈ Operator.words → goesOn rest = false) ∧
      s = r.past (.operator op) op.symbol.toList rest := by
  unfold scanOperator at h
  simp only at h
  split at h
  · next op rest hfound =>
    cases h
    obtain ⟨o, -, ho⟩ := List.exists_of_findSome?_eq_some hfound
    obtain ⟨t, ht, he⟩ := Option.map_eq_some_iff.1 ho
    cases he
    obtain ⟨hr, hends⟩ := afterOperator?_eq_some.1 ht
    exact ⟨op, rest, hr, hends, rfl⟩
  · cases h

theorem tried_before (op : Operator) :
    ∀ x ∈ (Operator.signs ++ Operator.words).takeWhile (· != op),
      x.symbol.toList <+: op.symbol.toList ∨ op.symbol.toList <+: x.symbol.toList →
        op = .less ∧ x = .lessEq ∨ op = .greater ∧ x = .greaterEq := by
  cases op <;> decide

theorem mem_operators (op : Operator) :
    ∃ later, Operator.signs ++ Operator.words =
      (Operator.signs ++ Operator.words).takeWhile (· != op) ++ op :: later := by
  cases op <;> exact ⟨_, rfl⟩

theorem scanOperator_complete {r : Reader} {op : Operator} {rest : List Char}
    (hr : r.rest = op.symbol.toList ++ rest) (hends : op ∈ Operator.words → goesOn rest = false)
    (hb : (Token.operator op).Bounded rest) :
    r.scanOperator = .token (r.past (.operator op) op.symbol.toList rest) := by
  have skipped : ∀ x ∈ (Operator.signs ++ Operator.words).takeWhile (· != op),
      afterOperator? r.rest x = none := by
    intro x hx
    rcases h : afterOperator? r.rest x with _ | tail
    · rfl
    have hx' := (afterOperator?_eq_some.1 h).1
    rw [hr] at hx'
    -- Both symbols start the text, so one starts the other.
    have overlap := List.prefix_or_prefix_of_prefix ⟨tail, hx'.symm⟩ ⟨rest, rfl⟩
    rcases tried_before op x hx overlap with ⟨rfl, rfl⟩ | ⟨rfl, rfl⟩
    · obtain rfl : rest = '=' :: tail := (List.cons.inj hx').2
      exact absurd rfl (hb (.inl rfl))
    · obtain rfl : rest = '=' :: tail := (List.cons.inj hx').2
      exact absurd rfl (hb (.inr rfl))
  obtain ⟨later, hops⟩ := mem_operators op
  have found := List.findSome?_eq_some_iff (f := fun op =>
    (afterOperator? r.rest op).map fun rest => (op, rest)).2 ⟨_, op, later, hops,
      by rw [afterOperator?_eq_some.2 ⟨hr, hends⟩]; rfl,
      fun x hx => by rw [skipped x hx]; rfl⟩
  unfold scanOperator
  rw [found]

end Reader

/-! ## Where a token is bounded -/

section

variable {p : Char → Bool} {t : Token} {cs mid rest : List Char}

theorem Spaced.stops {inside : Bool} {text tail : List Char} {c : Char}
    (h : Spaced inside text cs rest) (ht : text = c :: tail) (hc : p c = false)
    (hs : p ' ' = false) : Stops p cs := by
  obtain ⟨gap, rfl, hgap⟩ := h
  subst ht
  intro d hd
  rcases gap with _ | ⟨e, gap⟩
  · cases hd
    exact hc
  · cases hd
    rw [(hgap d List.mem_cons_self).2]
    exact hs

theorem Word.stops {L : Lexicon} {inside : Bool} {lexeme : List Char}
    (h : Word L inside t lexeme cs rest) (ht : ∀ c, t.opensWith c = true → p c = false)
    (hs : p ' ' = false) : Stops p cs := by
  obtain ⟨text, hspaced, hw, -⟩ := h
  obtain ⟨c, tail, rfl, hc⟩ := hw.head
  exact hspaced.stops rfl (ht c hc) hs

theorem opensWith_sign {c d : Char} {tail : List Char} (ht : t.sign? = some (c :: tail))
    (h : t.opensWith d = true) : d = c := by
  have first : t.sign?.bind List.head? = some d := by
    cases t <;> first | exact beq_iff_eq.1 h | cases ht
  rw [ht] at first
  exact (Option.some.inj first).symm

theorem Mark.stops {L : Lexicon} {inside : Bool} {c : Char} {tail : List Char}
    (h : Mark L inside t cs rest) (ht : t.sign? = some (c :: tail)) (hc : p c = false)
    (hs : p ' ' = false) : Stops p cs := by
  obtain ⟨lexeme, hword⟩ := h
  exact hword.stops (fun d hd => opensWith_sign ht hd ▸ hc) hs

theorem Many.stops_further {α : Type} {item : Construction α} {as : List α}
    (h : Many (Further item) as cs mid) (hmid : Stops p mid) (hc : p ',' = false)
    (hs : p ' ' = false) : Stops p cs := by
  cases h with
  | nil => exact hmid
  | cons hitem =>
    obtain ⟨next, hcomma, -⟩ := hitem
    exact hcomma.stops rfl hc hs

end

end Stencil.Path
