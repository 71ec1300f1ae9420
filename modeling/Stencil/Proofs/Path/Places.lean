import Stencil.Proofs.Path.Lexing

/-!
# Tokens by place

Which tokens may stand behind a token. Reading takes exactly those of them that the text has at the
place.
-/

namespace Stencil.Path

/-- A token behind which a step may follow. -/
def Token.isNode (m : Mode) : Token → Bool
  | .root | .current | .propertyName | .endFilter => true
  | .wildcard => !m.inBracket
  | _ => false

/-- Whether a number behind a token may have a fraction. -/
def Token.allowsFraction (m : Mode) : Token → Bool
  | .operator _ | .startList => true
  | .string | .number => m == .list
  | _ => false

def Token.isLiteral (t : Token) : Prop := t = .string ∨ t = .number

/-- The tokens that may stand behind a token, with the modes in front of them and behind, and
whether a comma stands between. -/
inductive Follows : Token → Mode → Bool → Token → Mode → Prop where
  | step {a t : Token} {m : Mode} :
    a.isNode m = true → t = .child ∨ t = .deepScan → Follows a m false t m
  | opening {a : Token} {m : Mode} : a.isNode m = true → Follows a m false .startFilter m.opened
  | operator {a : Token} {op : Operator} :
    a.isNode .operand = true → Follows a .operand false (.operator op) .operand
  | member {a t : Token} {m : Mode} :
    a = .child ∨ a = .deepScan → t = .propertyName ∨ t = .wildcard → Follows a m false t m
  | content {t : Token} {m : Mode} :
    t.isLiteral ∨ t = .slice ∨ t = .wildcard → Follows .startFilter m false t m
  | expression {m : Mode} :
    m.inExpression = false → Follows .startFilter m false .startExpression .operand
  | further {a : Token} {m : Mode} :
    a.isLiteral → m.inBracket = true → Follows a m true a m
  | slice {m : Mode} : m.inBracket = true → Follows .number m false .slice m
  | stop {m : Mode} : Follows .slice m false .number m
  | closing {a : Token} {m : Mode} :
    (a.isLiteral ∨ a = .wildcard) ∧ m.inBracket = true ∨
      a = .slice ∨ a = .endExpression → Follows a m false .endFilter m.closed
  | operandPath {a t : Token} {m : Mode} :
    (a = .startExpression ∨ ∃ op, op ≠ .isEmpty ∧ a = .operator op) → t = .current ∨ t = .root →
      Follows a m false t m
  | operand {op : Operator} {t : Token} {m : Mode} :
    op ≠ .isEmpty → t.isLiteral ∨ t = .regex → Follows (.operator op) m false t m
  | list {op : Operator} {m : Mode} :
    op ≠ .isEmpty → Follows (.operator op) m false .startList .list
  | item {t : Token} {m : Mode} : t.isLiteral → Follows .startList m false t m
  | furtherItem {a t : Token} : a.isLiteral → t.isLiteral → Follows a .list true t .list
  | listEnd {a : Token} {m : Mode} :
    a = .startList ∨ a.isLiteral ∧ m = .list → Follows a m false .endList .operand
  | expressionEnd {a : Token} :
    a.isNode .operand = true ∨ a.isLiteral ∨ a = .regex ∨ a = .endList ∨ a = .operator .isEmpty →
      Follows a .operand false .endExpression .bracket

/-- The text starts with the token. -/
def Cut (t : Token) (lexeme cs rest : List Char) : Prop :=
  ∃ text, cs = text ++ rest ∧ Written .longest t lexeme text ∧ Lexicon.longest.Ends rest t

theorem Cut.head {t : Token} {lexeme cs rest : List Char} (h : Cut t lexeme cs rest) :
    ∃ c tail, cs = c :: tail ∧ t.opensWith c = true := by
  obtain ⟨text, rfl, hw, -⟩ := h
  obtain ⟨c, tail, rfl, hc⟩ := hw.head
  exact ⟨c, tail ++ rest, rfl, hc⟩

theorem Cut.sign {t : Token} {text lexeme cs rest : List Char} (h : Cut t lexeme cs rest)
    (ht : t.sign? = some text) : lexeme = text ∧ cs = text ++ rest := by
  obtain ⟨text', rfl, hw, -⟩ := h
  cases hw with
  | sign ht' =>
    obtain rfl := Option.some.inj (ht'.symm.trans ht)
    exact ⟨rfl, rfl⟩
  | name | string | number | regex => cases ht

/-- The text starts with the token, or with a comma and the token. -/
def Behind (comma : Bool) (t : Token) (lexeme cs rest : List Char) : Prop :=
  if comma then ∃ mid, cs = ',' :: mid ∧ Cut t lexeme (lead true mid) rest
  else Cut t lexeme cs rest

theorem word_iff {inside : Bool} {t : Token} {lexeme cs rest : List Char} :
    Word .longest inside t lexeme cs rest ↔ Cut t lexeme (lead inside cs) rest := by
  have spaced {text : List Char} (hw : Written .longest t lexeme text) :
      Spaced inside text cs rest ↔ lead inside cs = text ++ rest := by
    obtain ⟨c, tail, ht, hc⟩ := hw.head
    refine spaced_iff ht fun he => ?_
    rw [he, opensWith_space] at hc
    cases hc
  constructor
  · rintro ⟨text, hs, hw, hends⟩
    exact ⟨text, (spaced hw).1 hs, hw, hends⟩
  · rintro ⟨text, hs, hw, hends⟩
    exact ⟨text, (spaced hw).2 hs, hw, hends⟩

/-- A token at the start of a text, behind spaces, or behind a comma. -/
def Entry (comma inside : Bool) (t : Token) (lexeme cs rest : List Char) : Prop :=
  if comma then ∃ mid, Spaced true [','] cs mid ∧ Word .longest true t lexeme mid rest
  else Word .longest inside t lexeme cs rest

theorem Follows.entry_iff {a t : Token} {m n : Mode} {comma : Bool} {lexeme cs rest : List Char}
    (h : Follows a m comma t n) :
    Entry comma (m != .path) t lexeme cs rest ↔
      Behind comma t lexeme (lead (m != .path) cs) rest := by
  cases comma with
  | false => exact word_iff
  | true =>
    have inside : (m != .path) = true := by
      cases h with
      | further _ hm => cases m <;> first | rfl | cases hm
      | furtherItem => rfl
    have comma_iff (mid : List Char) : Spaced true [','] cs mid ↔ lead true cs = ',' :: mid :=
      spaced_iff rfl (by decide)
    rw [inside]
    constructor
    · rintro ⟨mid, hs, hw⟩
      exact ⟨mid, (comma_iff mid).1 hs, word_iff.1 hw⟩
    · rintro ⟨mid, hs, hc⟩
      exact ⟨mid, (comma_iff mid).2 hs, word_iff.2 hc⟩

/-- The reader stands behind a token. -/
structure Reader.Is (r : Reader) (t : Token) (m : Mode) : Prop where
  token : r.token = some t
  mode : r.mode = m
  done : r.done = false
  embedded : r.embedded = false

/-- What the reader has for a number may be one at the place. -/
def Fits (a : Token) (m : Mode) (t : Token) (lexeme : List Char) : Prop :=
  t = .number → a.allowsFraction m = false → (Text.int? lexeme).isSome = true

namespace Reader

/-- `s` stands behind a token that may follow `a`. -/
def Passes (r : Reader) (a : Token) (s : Reader) : Prop :=
  ∃ comma t m, Follows a r.mode comma t m ∧ s.Is t m ∧ Behind comma t s.lexeme r.rest s.rest ∧
    Fits a r.mode t s.lexeme

end Reader

/-! ## What follows -/

section

variable {a t : Token} {b m n : Mode} {comma : Bool}

theorem Follows.node (h : Follows a m comma t n) (ha : a.isNode m = true)
    (hm : m.inBracket = false) :
    comma = false ∧
      ((t = .child ∨ t = .deepScan) ∧ n = m ∨ t = .startFilter ∧ n = m.opened ∨
        m = .operand ∧
          (t = .endExpression ∧ n = .bracket ∨ ∃ op, t = .operator op ∧ n = .operand)) := by
  cases h <;> grind [Token.isNode, Token.isLiteral]

theorem Follows.name (h : Follows a m comma t n) (ha : a = .child ∨ a = .deepScan) :
    comma = false ∧ (t = .propertyName ∨ t = .wildcard) ∧ n = m := by
  cases h <;> grind [Token.isNode, Token.isLiteral]

theorem Follows.startFilter (h : Follows .startFilter m comma t n) :
    comma = false ∧ ((t.isLiteral ∨ t = .slice ∨ t = .wildcard) ∧ n = m ∨
      m.inExpression = false ∧ t = .startExpression ∧ n = .operand) := by
  cases h <;> grind [Token.isNode, Token.isLiteral]

theorem Follows.string (h : Follows .string b comma t n) (hb : b.inBracket = true) :
    comma = true ∧ t = .string ∧ n = b ∨ comma = false ∧ t = .endFilter ∧ n = b.closed := by
  cases h <;> grind [Token.isNode, Token.isLiteral, Mode.inBracket]

theorem Follows.number (h : Follows .number b comma t n) (hb : b.inBracket = true) :
    comma = true ∧ t = .number ∧ n = b ∨
      comma = false ∧ (t = .slice ∧ n = b ∨ t = .endFilter ∧ n = b.closed) := by
  cases h <;> grind [Token.isNode, Token.isLiteral, Mode.inBracket]

theorem Follows.colon (h : Follows .slice b comma t n) :
    comma = false ∧ (t = .number ∧ n = b ∨ t = .endFilter ∧ n = b.closed) := by
  cases h <;> grind [Token.isNode, Token.isLiteral]

theorem Follows.wildcard (h : Follows .wildcard b comma t n) (hb : b.inBracket = true) :
    comma = false ∧ t = .endFilter ∧ n = b.closed := by
  cases h <;> grind [Token.isNode, Token.isLiteral, Mode.inBracket]

theorem Follows.startExpression (h : Follows .startExpression m comma t n) :
    comma = false ∧ (t = .current ∨ t = .root) ∧ n = m := by
  cases h <;> grind [Token.isNode, Token.isLiteral]

theorem Follows.comparison {op : Operator} (h : Follows (.operator op) m comma t n)
    (hop : op ≠ .isEmpty) :
    comma = false ∧ ((t = .current ∨ t = .root ∨ t.isLiteral ∨ t = .regex) ∧ n = m ∨
      t = .startList ∧ n = .list) := by
  cases h <;> grind [Token.isNode, Token.isLiteral]

theorem Follows.side (h : Follows a .operand comma t n)
    (ha : a.isLiteral ∨ a = .regex ∨ a = .endList ∨ a = .operator .isEmpty) :
    comma = false ∧ t = .endExpression ∧ n = .bracket := by
  cases h <;> grind [Token.isNode, Token.isLiteral, Mode.inBracket]

theorem Follows.listStart (h : Follows .startList m comma t n) :
    comma = false ∧ (t.isLiteral ∧ n = m ∨ t = .endList ∧ n = .operand) := by
  cases h <;> grind [Token.isNode, Token.isLiteral]

theorem Follows.listItem (h : Follows a .list comma t n) (ha : a.isLiteral) :
    comma = true ∧ t.isLiteral ∧ n = .list ∨ comma = false ∧ t = .endList ∧ n = .operand := by
  cases h <;> grind [Token.isNode, Token.isLiteral, Mode.inBracket]

theorem Follows.endExpression (h : Follows .endExpression m comma t n) :
    comma = false ∧ t = .endFilter ∧ n = m.closed := by
  cases h <;> grind [Token.isNode, Token.isLiteral]

theorem Reader.Is.of_token {r : Reader} {x : Token} (hr : r.Is t n) (h : r.token = some x) :
    t = x := Option.some.inj (hr.token.symm.trans h)

theorem Mode.inside_of_inBracket (h : b.inBracket = true) : (b != .path) = true := by
  cases b <;> first | rfl | cases h

theorem Mode.ne_list_of_inBracket (h : b.inBracket = true) : (b == .list) = false := by
  cases b <;> first | rfl | cases h

end

end Stencil.Path
