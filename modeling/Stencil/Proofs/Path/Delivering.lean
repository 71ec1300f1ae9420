import Stencil.Proofs.Path.Embedding
import Stencil.Proofs.Path.Positions
import Stencil.Proofs.Path.Tokens

/-!
# Delivered tokens

What a reader delivers, token by token. A token is read one character too far at most, so the text
behind the last token can be put in place of another that this token ends in front of, and the same
tokens are delivered.
-/

namespace Stencil.Path

/-! ## The ends of tokens -/

section

variable {t a : Token} {m n : Mode} {comma inside : Bool} {lexeme cs rest : List Char}

/-- The token ends in front of the text. -/
def Token.EndsAt (rest : List Char) (t : Token) : Prop :=
  t.Bounded rest ∧ Lexicon.longest.Ends rest t

theorem Token.EndsAt.of_head {rest' : List Char} (h : t.EndsAt rest)
    (hhead : rest'.head? = rest.head?) : t.EndsAt rest' := by
  unfold EndsAt Token.Bounded Lexicon.Ends Stops goesOn at *
  rw [hhead]
  exact h

theorem endsAt_nil (t : Token) : t.EndsAt [] := by
  constructor
  · cases t
    case child => exact nofun
    case number | regex => exact nofun
    case operator => exact fun _ => nofun
    all_goals trivial
  · cases t
    case propertyName => exact fun _ => rfl
    case operator => exact fun _ => rfl
    all_goals trivial

theorem Word.first (h : Word .longest inside t lexeme cs rest) :
    ∃ c tail, cs = c :: tail ∧ (c = ' ' ∨ t.opensWith c = true) := by
  obtain ⟨text, ⟨gap, rfl, hgap⟩, hw, -⟩ := h
  rcases gap with _ | ⟨c, gap⟩
  · obtain ⟨c, tail, rfl, hc⟩ := hw.head
    exact ⟨c, _, rfl, .inr hc⟩
  · exact ⟨c, _, rfl, .inl (hgap c List.mem_cons_self).2⟩

theorem Entry.first (h : Entry comma inside t lexeme cs rest) :
    ∃ c tail, cs = c :: tail ∧
      (c = ' ' ∨ comma = true ∧ c = ',' ∨ comma = false ∧ t.opensWith c = true) := by
  cases comma with
  | false =>
    obtain ⟨c, tail, rfl, hc⟩ := Word.first h
    exact ⟨c, tail, rfl, hc.imp_right fun hc => .inr ⟨rfl, hc⟩⟩
  | true =>
    obtain ⟨mid, ⟨gap, rfl, hgap⟩, -⟩ := h
    rcases gap with _ | ⟨c, gap⟩
    · exact ⟨',', mid, rfl, .inr (.inl ⟨rfl, rfl⟩)⟩
    · exact ⟨c, _, rfl, .inl (hgap c List.mem_cons_self).2⟩

theorem Follows.bounded (hf : Follows a m comma t n) (h : Entry comma inside t lexeme cs rest) :
    a.Bounded cs := by
  obtain ⟨c, tail, rfl, hc⟩ := h.first
  cases a
  case child =>
    obtain ⟨rfl, ht, -⟩ := hf.name (.inl rfl)
    intro hdot
    obtain rfl : c = '.' := Option.some.inj hdot
    rcases ht with rfl | rfl <;> simp [Token.opensWith, Token.sign?, isNameStart] at hc
  case number =>
    have next : comma = true ∨ t = .slice ∨ t = .endFilter ∨ t = .endList ∨ t = .endExpression := by
      cases hf <;> simp_all [Token.isNode, Token.isLiteral]
    refine stops_cons ?_
    rcases hc with rfl | ⟨-, rfl⟩ | ⟨rfl, hc⟩
    · rfl
    · rfl
    · rcases next with he | rfl | rfl | rfl | rfl
      · cases he
      all_goals
        simp [Token.opensWith, Token.sign?] at hc
        subst hc
        rfl
  case regex =>
    have next : comma = false ∧ t = .endExpression := by
      cases hf <;> simp_all [Token.isNode, Token.isLiteral]
    obtain ⟨rfl, rfl⟩ := next
    refine stops_cons ?_
    simp [Token.opensWith, Token.sign?] at hc
    rcases hc with rfl | rfl <;> rfl
  case operator op =>
    intro hop hequal
    obtain rfl : c = '=' := Option.some.inj hequal
    have comparison : op ≠ .isEmpty := by
      rintro rfl
      simp at hop
    obtain ⟨rfl, next⟩ := hf.comparison comparison
    rcases next with ⟨rfl | rfl | (rfl | rfl) | rfl, -⟩ | ⟨rfl, -⟩ <;>
      simp [Token.opensWith, Token.sign?, isNumberStart] at hc
  all_goals trivial

theorem Word.ends (h : Word .longest inside t lexeme cs rest) : Lexicon.longest.Ends rest t := by
  obtain ⟨text, -, -, hends⟩ := h
  exact hends

theorem Entry.ends (h : Entry comma inside t lexeme cs rest) : Lexicon.longest.Ends rest t := by
  cases comma with
  | false => exact Word.ends h
  | true =>
    obtain ⟨mid, -, hw⟩ := h
    exact hw.ends

/-! Behind a token any text may stand that it ends in front of. -/

theorem Word.swap (h : Word .longest inside t lexeme cs rest) :
    ∃ front, cs = front ++ rest ∧ ∀ tail, Lexicon.longest.Ends tail t →
      Word .longest inside t lexeme (front ++ tail) tail := by
  obtain ⟨text, ⟨gap, rfl, hgap⟩, hw, -⟩ := h
  refine ⟨gap ++ text, by simp, fun tail hends => ?_⟩
  exact ⟨text, ⟨gap, by simp, hgap⟩, hw, hends⟩

theorem Entry.swap (h : Entry comma inside t lexeme cs rest) :
    ∃ front, cs = front ++ rest ∧ ∀ tail, Lexicon.longest.Ends tail t →
      Entry comma inside t lexeme (front ++ tail) tail := by
  cases comma with
  | false => exact Word.swap h
  | true =>
    obtain ⟨mid, ⟨gap, rfl, hgap⟩, hw⟩ := h
    obtain ⟨front, rfl, swap⟩ := hw.swap
    refine ⟨gap ++ ',' :: front, by simp, fun tail hends => ?_⟩
    exact ⟨front ++ tail, ⟨gap, by simp, hgap⟩, swap tail hends⟩

end

namespace Reader

variable {r s u v : Reader} {a : Token} {m : Mode}

/-! ## One token -/

/-- The same place in front of another text. -/
def ahead (r : Reader) (cs : List Char) : Reader := { r with rest := cs }

theorem Is.ahead (hr : r.Is a m) (cs : List Char) : (r.ahead cs).Is a m :=
  ⟨hr.token, hr.mode, hr.done, hr.embedded⟩

theorem Is.eq_of (hr : r.Is a m) (hs : s.Is a m) (hrest : r.rest = s.rest)
    (hposition : r.position = s.position) (hlexeme : r.lexeme = s.lexeme) : r = s := by
  obtain ⟨rt, rm, rd, re⟩ := hr
  obtain ⟨st, sm, sd, se⟩ := hs
  cases r
  cases s
  simp_all

theorem Is.read (hr : r.Is a m) (h : r.read = (.ok true, s)) :
    ∃ t n, s.Is t n ∧ Lexicon.longest.Ends s.rest t := by
  obtain ⟨comma, t, n, -, hs, hentry, -⟩ := reads_sound hr h
  exact ⟨t, n, hs, hentry.ends⟩

theorem read_swap (hr : r.Is a m) (h : r.read = (.ok true, s)) :
    ∃ t n front, s.Is t n ∧ r.rest = front ++ s.rest ∧ Lexicon.longest.Ends s.rest t ∧
      a.Bounded r.rest ∧ ∀ tail, t.EndsAt tail →
        (r.ahead (front ++ tail)).read = (.ok true, s.ahead tail) := by
  obtain ⟨comma, t, n, hf, hs, hentry, hfits⟩ := reads_sound hr h
  obtain ⟨front, hrest, swap⟩ := hentry.swap
  refine ⟨t, n, front, hs, hrest, hentry.ends, hf.bounded hentry, fun tail ⟨hb, hends⟩ => ?_⟩
  obtain ⟨s', hread, hs', hlexeme, hrest'⟩ :=
    reads_complete (hr.ahead (front ++ tail)) hf (swap tail hends) hb hfits
  have position : s'.position = s.position := by
    have onward := read_advances r
    have onward' := read_advances (r.ahead (front ++ tail))
    rw [h] at onward
    rw [hread] at onward'
    have passed : (r.ahead (front ++ tail)).rest = front ++ s'.rest := by
      rw [hrest']
      rfl
    rw [onward.position_eq hrest, onward'.position_eq passed]
    rfl
  rw [hread, hs'.eq_of (hs.ahead tail) hrest' position hlexeme]

/-! ## All tokens -/

/-- A token that was read, its text and the position behind it. -/
abbrev Delivery := Option Token × String × Nat

def delivery (r : Reader) : Delivery := (r.token, r.text, r.position)

/-- What is read from a reader on, up to the end of the path or to what is no token. -/
def deliveries (r : Reader) : List Delivery :=
  match _h : r.read with
  | (.ok true, s) => s.delivery :: s.deliveries
  | _ => []
termination_by r.rest.length
decreasing_by exact read_lt _h

theorem deliveries_eq (r : Reader) :
    r.deliveries = match r.read with
      | (.ok true, s) => s.delivery :: s.deliveries
      | _ => [] := by
  rw [deliveries]
  split <;> next h => simp [h]

/-- The second reader stands behind tokens that follow the first. -/
inductive Delivers : Reader → List Delivery → Reader → Prop where
  | nil (r : Reader) : Delivers r [] r
  | cons {r s u : Reader} {ds : List Delivery} :
    r.read = (.ok true, s) → Delivers s ds u → Delivers r (s.delivery :: ds) u

variable {ds : List Delivery}

theorem Delivers.deliveries (h : Delivers r ds u) : r.deliveries = ds ++ u.deliveries := by
  induction h with
  | nil r => rfl
  | cons hread _ ih =>
    rw [deliveries_eq, hread]
    dsimp only
    rw [ih, List.cons_append]

theorem readToEnd_eq (r : Reader) :
    r.readToEnd = match r.read with
      | (.error e, _) => .error e
      | (.ok false, s) => .ok s.position
      | (.ok true, s) => s.readToEnd := by
  rw [readToEnd]
  split <;> next h => simp [h]

theorem Delivers.readToEnd (h : Delivers r ds u) : r.readToEnd = u.readToEnd := by
  induction h with
  | nil r => rfl
  | cons hread _ ih =>
    rw [readToEnd_eq, hread]
    exact ih

theorem Delivers.advances (h : Delivers r ds u) : r.Advances u := by
  induction h with
  | nil r => exact .refl r
  | @cons r s u ds hread _ ih =>
    have onward := read_advances r
    rw [hread] at onward
    exact onward.trans ih

theorem Delivers.is (h : Delivers r ds u) (hr : r.Is a m) :
    ∃ b n, u.Is b n ∧ (Lexicon.longest.Ends r.rest a → Lexicon.longest.Ends u.rest b) := by
  induction h generalizing a m with
  | nil r => exact ⟨a, m, hr, id⟩
  | cons hread _ ih =>
    obtain ⟨t, n, hs, hends⟩ := hr.read hread
    obtain ⟨b, k, hu, ends⟩ := ih hs
    exact ⟨b, k, hu, fun _ => ends hends⟩

theorem Delivers.getLast?_tokens (h : Delivers r ds u) (hr : r.Is a m) (hu : u.tokens = []) :
    (r.token.toList ++ r.tokens).getLast? = u.token := by
  induction h generalizing a m with
  | nil r =>
    rw [hu, hr.token]
    rfl
  | @cons r s u ds hread hd ih =>
    obtain ⟨t, n, hs, -⟩ := hr.read hread
    have last := ih hs hu
    rw [tokens_eq r, hread]
    dsimp only
    rw [List.getLast?_append, last]
    rcases hu' : u.token with _ | b
    · obtain ⟨b, n, hb, -⟩ := hd.is hs
      cases hu'.symm.trans hb.token
    · rfl

theorem delivers_of_readToEnd {k : Nat} (h : r.readToEnd = .ok k) :
    ∃ ds u v, Delivers r ds u ∧ u.read = (.ok false, v) ∧ v.position = k := by
  fun_induction Reader.readToEnd r with
  | case1 => cases h
  | case2 r s hread =>
    cases h
    exact ⟨[], r, s, .nil r, hread, rfl⟩
  | case3 r s hread ih =>
    obtain ⟨ds, u, v, hd, hend, hk⟩ := ih h
    exact ⟨_, u, v, .cons hread hd, hend, hk⟩

theorem delivers_embed_iff (hr : r.Is a m) :
    Delivers r.embed ds v ↔ ∃ u, Delivers r ds u ∧ v = u.embed := by
  constructor
  · intro h
    generalize he : r.embed = e at h
    induction h generalizing r a m with
    | nil => exact ⟨r, .nil r, he.symm⟩
    | cons hread _ ih =>
      subst he
      obtain ⟨s, hs, rfl⟩ := (read_embed_iff hr).1 hread
      obtain ⟨t, n, his, -⟩ := hr.read hs
      obtain ⟨u, hu, rfl⟩ := ih his rfl
      exact ⟨u, .cons (s := s) hs hu, rfl⟩
  · rintro ⟨u, h, rfl⟩
    induction h generalizing a m with
    | nil r => exact .nil r.embed
    | @cons r s u ds hread _ ih =>
      obtain ⟨t, n, his, -⟩ := hr.read hread
      exact .cons (s := s.embed) ((read_embed_iff hr).2 ⟨s, hread, rfl⟩) (ih his)

/-- Tokens that were delivered are delivered in front of every text that the last of them ends in
front of. -/
theorem Delivers.swap (h : Delivers r ds u) (hr : r.Is a m)
    (hends : Lexicon.longest.Ends r.rest a) :
    ∃ front, r.rest = front ++ u.rest ∧ ∀ tail, (∀ t, u.token = some t → t.EndsAt tail) →
      a.EndsAt (front ++ tail) ∧ Delivers (r.ahead (front ++ tail)) ds (u.ahead tail) := by
  induction h generalizing a m with
  | nil r => exact ⟨[], rfl, fun tail htail => ⟨htail a hr.token, .nil _⟩⟩
  | @cons r s u ds hread _ ih =>
    obtain ⟨t, n, lexeme, hs, hrest, hends', hb, swap⟩ := read_swap hr hread
    obtain ⟨front, hrest', further⟩ := ih hs hends'
    refine ⟨lexeme ++ front, by rw [hrest, hrest', List.append_assoc], fun tail htail => ?_⟩
    obtain ⟨endsAt, delivers⟩ := further tail htail
    rw [List.append_assoc]
    constructor
    · -- The token is not empty, so the text in front of which `a` ends starts as before.
      have shorter := read_lt hread
      rw [hrest] at shorter
      have starts : lexeme ≠ [] := by
        rintro rfl
        exact Nat.lt_irrefl _ shorter
      refine Token.EndsAt.of_head ⟨hb, hends⟩ ?_
      obtain ⟨c, lexeme, rfl⟩ := List.exists_cons_of_ne_nil starts
      rw [hrest]
      rfl
    · exact .cons (s := s.ahead (front ++ tail)) (swap _ endsAt) delivers

/-! ## The ends of a path -/

theorem readToEnd_eq_ok (hr : r.Is a m) {k : Nat} :
    r.readToEnd = .ok k ↔
      ∃ ds u, Delivers r ds u ∧ u.isComplete = true ∧ u.rest = [] ∧ u.position = k := by
  constructor
  · intro h
    obtain ⟨ds, u, v, hd, hend, hk⟩ := delivers_of_readToEnd h
    obtain ⟨b, n, hu, -⟩ := hd.is hr
    obtain ⟨hc, hrest, rfl⟩ := (read_end_complete_iff hu).1 hend
    exact ⟨ds, u, hd, hc, hrest, hk⟩
  · rintro ⟨ds, u, hd, hc, hrest, rfl⟩
    obtain ⟨b, n, hu, -⟩ := hd.is hr
    rw [hd.readToEnd, readToEnd_eq, (read_end_complete_iff hu).2 ⟨hc, hrest, rfl⟩]

theorem readToEnd_embed_eq_ok (hr : r.Is a m) {k : Nat} :
    r.embed.readToEnd = .ok k ↔
      ∃ ds u, Delivers r ds u ∧ u.isComplete = true ∧ ¬ StartsStep u.rest ∧ u.position = k := by
  constructor
  · intro h
    obtain ⟨ds, e, v, he, hend, hk⟩ := delivers_of_readToEnd h
    obtain ⟨u, hd, rfl⟩ := (delivers_embed_iff hr).1 he
    obtain ⟨b, n, hu, -⟩ := hd.is hr
    obtain ⟨hc, hrest, rfl⟩ := (read_embed_end_iff hu).1 hend
    exact ⟨ds, u, hd, hc, hrest, hk⟩
  · rintro ⟨ds, u, hd, hc, hrest, rfl⟩
    obtain ⟨b, n, hu, -⟩ := hd.is hr
    have hd' := (delivers_embed_iff hr).2 ⟨u, hd, rfl⟩
    rw [hd'.readToEnd, readToEnd_eq, (read_embed_end_iff hu).2 ⟨hc, hrest, rfl⟩]
    rfl

end Reader

end Stencil.Path
