import Stencil.Proofs.Path.Tree

/-!
# The grammar of paths

Which texts are paths, and the steps that each of them writes. A relation between a text, what a
construct at its start says and the text behind the construct stands for each construct.
-/

namespace Stencil.Path

/-! ## Tokens -/

/-- How a text is cut into tokens: wherever the grammar lets a token end, or only where a name goes
no further, a backslash in a regular expression always taking the character behind it. -/
inductive Lexicon where
  | literal
  | longest

/-- The text goes on with a character of a name. -/
def goesOn (rest : List Char) : Bool := (rest.head?.map isNameChar).getD false

/-- The text between the slashes of a regular expression. -/
inductive IsPattern (L : Lexicon) : List Char → Prop where
  | nil : IsPattern L []
  | escaped (c : Char) {cs : List Char} : IsPattern L cs → IsPattern L ('\\' :: c :: cs)
  | plain {c : Char} {cs : List Char} :
    c ≠ '/' → (L = .longest → c ≠ '\\') → IsPattern L cs → IsPattern L (c :: cs)

def IsDigits (cs : List Char) : Prop := cs ≠ [] ∧ ∀ c ∈ cs, c.isDigit = true

def IsSign (cs : List Char) : Prop := cs = [] ∨ cs = ['-']

inductive IsNumeral : List Char → Prop where
  | whole {sign ds : List Char} : IsSign sign → IsDigits ds → IsNumeral (sign ++ ds)
  | fraction {sign ds fs : List Char} :
    IsSign sign → IsDigits ds → IsDigits fs → IsNumeral (sign ++ ds ++ '.' :: fs)

/-- The text of a token that is always written the same way. -/
def Token.sign? : Token → Option (List Char)
  | root => some ['$']
  | current => some ['@']
  | child => some ['.']
  | deepScan => some ['.', '.']
  | wildcard => some ['*']
  | startFilter => some ['[']
  | endFilter => some [']']
  | slice => some [':']
  | startExpression => some ['?', '(']
  | endExpression => some [')']
  | startList => some ['[']
  | endList => some [']']
  | operator op => some op.symbol.toList
  | propertyName | string | number | regex => none

/-- A token, what it says and the text that it is written as. -/
inductive Written (L : Lexicon) : Token → List Char → List Char → Prop where
  | sign {t : Token} {text : List Char} : t.sign? = some text → Written L t text text
  | name {c : Char} {cs : List Char} :
    isNameStart c = true → (∀ d ∈ cs, isNameChar d = true) →
      Written L .propertyName (c :: cs) (c :: cs)
  | string {body : List Char} : '\'' ∉ body → Written L .string body ('\'' :: (body ++ ['\'']))
  | number {text : List Char} : IsNumeral text → Written L .number text text
  | regex {body flags : List Char} :
    IsPattern L body → (∀ c ∈ flags, Regex.isFlag c = true) →
      Written L .regex ('/' :: (body ++ '/' :: flags)) ('/' :: (body ++ '/' :: flags))

/-- Where a token may end. -/
def Lexicon.Ends (L : Lexicon) (rest : List Char) : Token → Prop
  | .propertyName => L = .longest → goesOn rest = false
  | .operator op => op ∈ Operator.words → goesOn rest = false
  | _ => True

/-- A text behind spaces, which stand only inside a bracket. -/
def Spaced (inside : Bool) (text cs rest : List Char) : Prop :=
  ∃ gap, cs = gap ++ (text ++ rest) ∧ ∀ c ∈ gap, inside = true ∧ c = ' '

/-- A token at the start of a text. -/
def Word (L : Lexicon) (inside : Bool) (t : Token) (lexeme cs rest : List Char) : Prop :=
  ∃ text, Spaced inside text cs rest ∧ Written L t lexeme text ∧ L.Ends rest t

/-- A token that says no more than that it is there. -/
def Mark (L : Lexicon) (inside : Bool) (t : Token) (cs rest : List Char) : Prop :=
  ∃ lexeme, Word L inside t lexeme cs rest

/-! ## Repetition -/

/-- A construct: what it says, a text that starts with it and the text behind it. -/
abbrev Construction (α : Type) := α → List Char → List Char → Prop

variable {α : Type}

inductive Many (item : Construction α) : Construction (List α) where
  | nil (cs : List Char) : Many item [] cs cs
  | cons {a : α} {as : List α} {cs mid rest : List Char} :
    item a cs mid → Many item as mid rest → Many item (a :: as) cs rest

/-- A further item of a list. -/
def Further (item : Construction α) : Construction α :=
  fun a cs rest => ∃ mid, Spaced true [','] cs mid ∧ item a mid rest

/-- Items with commas between them, at least one. -/
inductive Listed (item : Construction α) : Construction (List α) where
  | mk {a : α} {as : List α} {cs mid rest : List Char} :
    item a cs mid → Many (Further item) as mid rest → Listed item (a :: as) cs rest

inductive Maybe (item : Construction α) : Construction (Option α) where
  | none (cs : List Char) : Maybe item none cs cs
  | some {a : α} {cs rest : List Char} : item a cs rest → Maybe item (some a) cs rest

/-! ## Steps -/

section

variable (L : Lexicon)

def IsString : Construction String :=
  fun s cs rest => ∃ lexeme, Word L true .string lexeme cs rest ∧ s = String.ofList lexeme

def IsIndex : Construction Int :=
  fun i cs rest => ∃ lexeme, Word L true .number lexeme cs rest ∧ Text.int? lexeme = some i

/-- What stands in a bracket, and the closing bracket. -/
inductive IsBracket : Construction Selector where
  | names {names : List String} {cs mid rest : List Char} :
    Listed (IsString L) names cs mid → Mark L true .endFilter mid rest →
      IsBracket (.names names) cs rest
  | index {i : Int} {cs mid rest : List Char} :
    IsIndex L i cs mid → Mark L true .endFilter mid rest → IsBracket (.index i) cs rest
  | indices {i j : Int} {is : List Int} {cs mid rest : List Char} :
    Listed (IsIndex L) (i :: j :: is) cs mid → Mark L true .endFilter mid rest →
      IsBracket (.indices (i :: j :: is)) cs rest
  | slice {start stop : Option Int} {cs a b c rest : List Char} :
    Maybe (IsIndex L) start cs a → Mark L true .slice a b → Maybe (IsIndex L) stop b c →
      Mark L true .endFilter c rest → IsBracket (.slice start stop) cs rest
  | wildcard {cs mid rest : List Char} :
    Mark L true .wildcard cs mid → Mark L true .endFilter mid rest → IsBracket .children cs rest

/-- A step without an expression. -/
inductive IsSelector (inside : Bool) : Construction Selector where
  | child {name cs mid rest : List Char} :
    Mark L inside .child cs mid → Word L inside .propertyName name mid rest →
      IsSelector inside (.child (String.ofList name)) cs rest
  | children {cs mid rest : List Char} :
    Mark L inside .child cs mid → Mark L inside .wildcard mid rest →
      IsSelector inside .children cs rest
  | deep {name cs mid rest : List Char} :
    Mark L inside .deepScan cs mid → Word L inside .propertyName name mid rest →
      IsSelector inside (.deep (String.ofList name)) cs rest
  | descendants {cs mid rest : List Char} :
    Mark L inside .deepScan cs mid → Mark L inside .wildcard mid rest →
      IsSelector inside .descendants cs rest
  | bracket {s : Selector} {cs mid rest : List Char} :
    Mark L inside .startFilter cs mid → IsBracket L s mid rest → IsSelector inside s cs rest

/-! ## Expressions -/

def Origin.token : Origin → Token
  | current => .current
  | document => .root

inductive IsReference : Construction Reference where
  | mk {origin : Origin} {steps : List Selector} {cs mid rest : List Char} :
    Mark L true origin.token cs mid → Many (IsSelector L true) steps mid rest →
      IsReference ⟨origin, steps⟩ cs rest

/-- A number within reach of decimals. -/
def IsDecimal : Construction Decimal :=
  fun d cs rest => ∃ lexeme, Word L true .number lexeme cs rest ∧
    Decimal.parse? (String.ofList lexeme) = some d

inductive IsSide : Construction Side where
  | reference {p : Reference} {cs rest : List Char} :
    IsReference L p cs rest → IsSide (.reference p) cs rest
  | number {d : Decimal} {cs rest : List Char} :
    IsDecimal L d cs rest → IsSide (.literal (.number d)) cs rest
  | string {s : String} {cs rest : List Char} :
    IsString L s cs rest → IsSide (.literal (.string s)) cs rest
  | regex {lexeme cs rest : List Char} :
    Word L true .regex lexeme cs rest → IsSide (.literal (.regex (String.ofList lexeme))) cs rest
  | empty {cs mid rest : List Char} :
    Mark L true .startList cs mid → Mark L true .endList mid rest →
      IsSide (.literal (.strings [])) cs rest
  | strings {items : List String} {cs a b rest : List Char} :
    Mark L true .startList cs a → Listed (IsString L) items a b → Mark L true .endList b rest →
      IsSide (.literal (.strings items)) cs rest
  | numbers {items : List Decimal} {cs a b rest : List Char} :
    Mark L true .startList cs a → Listed (IsDecimal L) items a b → Mark L true .endList b rest →
      IsSide (.literal (.numbers items)) cs rest

/-- An expression and the closing parenthesis. -/
inductive IsCondition : Construction Condition where
  | isTruthy {left : Reference} {cs mid rest : List Char} :
    IsReference L left cs mid → Mark L true .endExpression mid rest →
      IsCondition (.isTruthy left) cs rest
  | isEmpty {left : Reference} {cs a b rest : List Char} :
    IsReference L left cs a → Mark L true (.operator .isEmpty) a b →
      Mark L true .endExpression b rest → IsCondition (.isEmpty left) cs rest
  | compare {left : Reference} {op : Operator} {right : Side} {cs a b c rest : List Char} :
    IsReference L left cs a → op ≠ .isEmpty → Mark L true (.operator op) a b →
      IsSide L right b c → Mark L true .endExpression c rest →
        IsCondition (.compare left op right) cs rest

/-! ## Paths -/

inductive IsPathStep : Construction PathStep where
  | select {s : Selector} {cs rest : List Char} :
    IsSelector L false s cs rest → IsPathStep (.select s) cs rest
  | filter {c : Condition} {cs a b d rest : List Char} :
    Mark L false .startFilter cs a → Mark L true .startExpression a b → IsCondition L c b d →
      Mark L true .endFilter d rest → IsPathStep (.filter c) cs rest

/-- The text is a path with the given steps. -/
def IsPath (path : String) (steps : List PathStep) : Prop :=
  ∃ cs, Mark L false .root path.toList cs ∧ Many (IsPathStep L) steps cs []

end

/-! ## Tokens at a place -/

section

variable {L : Lexicon} {inside : Bool} {t : Token} {lexeme : List Char}

theorem Word.here (text rest : List Char) (h : Written L t lexeme text) (hends : L.Ends rest t) :
    Word L inside t lexeme (text ++ rest) rest :=
  ⟨text, ⟨[], rfl, nofun⟩, h, hends⟩

theorem Word.behind_space (text rest : List Char) (h : Written L t lexeme text)
    (hends : L.Ends rest t) : Word L true t lexeme (' ' :: (text ++ rest)) rest :=
  ⟨text, ⟨[' '], rfl, by simp⟩, h, hends⟩

theorem Mark.here (text rest : List Char) (h : t.sign? = some text) (hends : L.Ends rest t) :
    Mark L inside t (text ++ rest) rest :=
  ⟨text, Word.here text rest (.sign h) hends⟩

theorem Mark.behind_space (text rest : List Char) (h : t.sign? = some text)
    (hends : L.Ends rest t) : Mark L true t (' ' :: (text ++ rest)) rest :=
  ⟨text, Word.behind_space text rest (.sign h) hends⟩

end

/-! ## The literal reading -/

section

variable {cs rest : List Char} {inside : Bool}

theorem IsPattern.literal {L : Lexicon} (h : IsPattern L cs) : IsPattern .literal cs := by
  induction h with
  | nil => exact .nil
  | escaped c _ ih => exact .escaped c ih
  | plain hc _ _ ih => exact .plain hc nofun ih

theorem Word.literal {L : Lexicon} {t : Token} {lexeme : List Char}
    (h : Word L inside t lexeme cs rest) : Word .literal inside t lexeme cs rest := by
  obtain ⟨text, hs, hw, hends⟩ := h
  refine ⟨text, hs, ?_, ?_⟩
  · cases hw with
    | sign ht => exact .sign ht
    | name hc hcs => exact .name hc hcs
    | string hb => exact .string hb
    | number hn => exact .number hn
    | regex hb hf => exact .regex hb.literal hf
  · cases t with
    | propertyName => exact nofun
    | operator op => exact hends
    | _ => trivial

theorem Mark.literal {L : Lexicon} {t : Token} (h : Mark L inside t cs rest) :
    Mark .literal inside t cs rest := h.imp fun _ => Word.literal

variable {α : Type} {R S : Construction α}

theorem Many.imp {as : List α} (h : Many R as cs rest)
    (f : ∀ a cs rest, R a cs rest → S a cs rest) : Many S as cs rest := by
  induction h with
  | nil => exact .nil _
  | cons ha _ ih => exact .cons (f _ _ _ ha) ih

theorem Listed.imp {as : List α} (h : Listed R as cs rest)
    (f : ∀ a cs rest, R a cs rest → S a cs rest) : Listed S as cs rest := by
  cases h with
  | mk ha hmore =>
    exact .mk (f _ _ _ ha) (hmore.imp fun a cs rest h => h.imp fun _ h => ⟨h.1, f _ _ _ h.2⟩)

theorem Maybe.imp {a : Option α} (h : Maybe R a cs rest)
    (f : ∀ a cs rest, R a cs rest → S a cs rest) : Maybe S a cs rest := by
  cases h with
  | none => exact .none _
  | some ha => exact .some (f _ _ _ ha)

end

section

variable {L : Lexicon}

theorem IsString.literal (s : String) (cs rest : List Char) (h : IsString L s cs rest) :
    IsString .literal s cs rest := h.imp fun _ h => ⟨h.1.literal, h.2⟩

theorem IsIndex.literal (i : Int) (cs rest : List Char) (h : IsIndex L i cs rest) :
    IsIndex .literal i cs rest := h.imp fun _ h => ⟨h.1.literal, h.2⟩

theorem IsDecimal.literal (d : Decimal) (cs rest : List Char) (h : IsDecimal L d cs rest) :
    IsDecimal .literal d cs rest := h.imp fun _ h => ⟨h.1.literal, h.2⟩

theorem IsBracket.literal {s : Selector} {cs rest : List Char} (h : IsBracket L s cs rest) :
    IsBracket .literal s cs rest := by
  cases h with
  | names hs he => exact .names (hs.imp IsString.literal) he.literal
  | index hi he => exact .index (IsIndex.literal _ _ _ hi) he.literal
  | indices hs he => exact .indices (hs.imp IsIndex.literal) he.literal
  | slice ha hc hb he =>
    exact .slice (ha.imp IsIndex.literal) hc.literal (hb.imp IsIndex.literal) he.literal
  | wildcard hw he => exact .wildcard hw.literal he.literal

theorem IsSelector.literal {inside : Bool} (s : Selector) (cs rest : List Char)
    (h : IsSelector L inside s cs rest) : IsSelector .literal inside s cs rest := by
  cases h with
  | child hd hn => exact .child hd.literal hn.literal
  | children hd hw => exact .children hd.literal hw.literal
  | deep hd hn => exact .deep hd.literal hn.literal
  | descendants hd hw => exact .descendants hd.literal hw.literal
  | bracket ho hb => exact .bracket ho.literal hb.literal

theorem IsReference.literal {p : Reference} {cs rest : List Char} (h : IsReference L p cs rest) :
    IsReference .literal p cs rest := by
  cases h with
  | mk ho hs => exact .mk ho.literal (hs.imp IsSelector.literal)

theorem IsSide.literal {s : Side} {cs rest : List Char} (h : IsSide L s cs rest) :
    IsSide .literal s cs rest := by
  cases h with
  | reference hp => exact .reference hp.literal
  | number hd => exact .number (IsDecimal.literal _ _ _ hd)
  | string hs => exact .string (IsString.literal _ _ _ hs)
  | regex hw => exact .regex hw.literal
  | empty ho he => exact .empty ho.literal he.literal
  | strings ho hs he => exact .strings ho.literal (hs.imp IsString.literal) he.literal
  | numbers ho hs he => exact .numbers ho.literal (hs.imp IsDecimal.literal) he.literal

theorem IsCondition.literal {c : Condition} {cs rest : List Char} (h : IsCondition L c cs rest) :
    IsCondition .literal c cs rest := by
  cases h with
  | isTruthy hl he => exact .isTruthy hl.literal he.literal
  | isEmpty hl ho he => exact .isEmpty hl.literal ho.literal he.literal
  | compare hl hne ho hr he => exact .compare hl.literal hne ho.literal hr.literal he.literal

theorem IsPathStep.literal (s : PathStep) (cs rest : List Char) (h : IsPathStep L s cs rest) :
    IsPathStep .literal s cs rest := by
  cases h with
  | select hs => exact .select (IsSelector.literal _ _ _ hs)
  | filter ho hx hc he => exact .filter ho.literal hx.literal hc.literal he.literal

theorem IsPath.literal {path : String} {steps : List PathStep} (h : IsPath L path steps) :
    IsPath .literal path steps :=
  h.imp fun _ h => ⟨h.1.literal, h.2.imp IsPathStep.literal⟩

end

end Stencil.Path
