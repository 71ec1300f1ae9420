import Stencil.Proofs.Slot.Lexing

/-!
# One reading of slot text

A text can be split into items in one way only, since one token at most may stand at a place, and
the texts in quotes are shorter than the text.
-/

namespace Stencil.Slot

open Lexer (next_complete)
open Stencil.Path (Many)

/-! ## Where constructs end -/

section

variable {size : Nat} {cs rest : List Char}

theorem IsConditions.suffix {conditions : List Branches} (h : IsConditions conditions cs rest) :
    rest <:+ cs := by
  induction h with
  | close stop => exact stop.suffix
  | short condition first stop =>
    exact (stop.suffix.trans first.suffix).trans condition.suffix
  | full condition first else_ second _ ih =>
    exact (((ih.trans second.suffix).trans else_.suffix).trans first.suffix).trans condition.suffix

theorem IsChoice.suffix {choice : Option Test × List Branches} (h : IsChoice choice cs rest) :
    rest <:+ cs := by
  cases h with
  | plain h => exact h.suffix
  | tested operator comparand h =>
    exact (h.suffix.trans comparand.suffix).trans operator.suffix

theorem suffix_of_modifiers {modifiers : List Modifier}
    (h : Many (IsModifier size) modifiers cs rest) : rest <:+ cs := by
  induction h with
  | nil => exact List.suffix_refl _
  | cons hmodifier _ ih =>
    obtain ⟨t, word, -⟩ := hmodifier
    exact ih.trans word.suffix

theorem IsHole.suffix {h : Hole} (hole : IsHole size h cs rest) : rest <:+ cs := by
  cases hole with
  | mk reference modifiers choice =>
    exact (choice.suffix.trans (suffix_of_modifiers modifiers)).trans reference.suffix

theorem IsHole.opens {h : Hole} (hole : IsHole size h cs rest) : opensSlot cs = true := by
  cases hole with
  | mk reference => exact opensSlot_of_reference reference

theorem IsItem.suffix {item : Item} (h : IsItem size item cs rest) : rest <:+ cs := by
  cases h with
  | text piece => exact piece.suffix
  | slot hole => exact hole.suffix.trans (List.suffix_cons _ _)

end

/-! ## One way to split -/

section

variable {size : Nat} {cs rest rest' : List Char}

theorem Takes.unique {last : Option Token} {t t' : Token} (h : Takes last t cs rest)
    (h' : Takes last t' cs rest') : t = t' ∧ rest = rest' := by
  have read := next_complete (Nat.le_refl _) h
  rw [next_complete (Nat.le_refl _) h'] at read
  injection read with token behind
  injection token with token
  injection token with token
  exact ⟨token.symm, (congrArg Lexer.rest behind).symm⟩

theorem Word.unique {last t t' : Token} (ht : Expects t last) (ht' : Expects t' last)
    (h : Word t cs rest) (h' : Word t' cs rest') : t = t' ∧ rest = rest' :=
  Takes.unique (.word rfl ht h) (.word rfl ht' h')

theorem Word.unique_joining {t t' : Token} (ht : t.joins = true) (ht' : t'.joins = true)
    (h : Word t cs rest) (h' : Word t' cs rest') : t = t' ∧ rest = rest' :=
  h.unique (show Expects _ (.literal "") from ht) ht' h'

theorem Word.unique_continuing {t t' : Token} (ht : t.continues = true) (ht' : t'.continues = true)
    (h : Word t cs rest) (h' : Word t' cs rest') : t = t' ∧ rest = rest' :=
  h.unique (show Expects _ (.reference "") from ht) ht' h'

theorem Word.unique_literal {body body' : String} (h : Word (.literal body) cs rest)
    (h' : Word (.literal body') cs rest') : body = body' ∧ rest = rest' := by
  have same := h.unique (expects_branch body) (expects_branch body') h'
  exact ⟨Token.literal.inj same.1, same.2⟩

theorem IsConditions.starts {conditions : List Branches} (h : IsConditions conditions cs rest) :
    ∃ t mid, (t = .condition ∨ t = .stop) ∧ Word t cs mid := by
  cases h with
  | close stop => exact ⟨_, _, .inr rfl, stop⟩
  | short condition => exact ⟨_, _, .inl rfl, condition⟩
  | full condition => exact ⟨_, _, .inl rfl, condition⟩

theorem IsConditions.unique {conditions conditions' : List Branches}
    (h : IsConditions conditions cs rest) (h' : IsConditions conditions' cs rest') :
    conditions = conditions' ∧ rest = rest' := by
  induction h generalizing conditions' with
  | close stop =>
    cases h' with
    | close stop' => exact ⟨rfl, (stop.unique_joining rfl rfl stop').2⟩
    | short condition | full condition =>
      cases (stop.unique_joining rfl rfl condition).1
  | short condition first stop =>
    cases h' with
    | close stop' => cases (stop'.unique_joining rfl rfl condition).1
    | short condition' first' stop' =>
      obtain ⟨-, rfl⟩ := condition.unique_joining rfl rfl condition'
      obtain ⟨rfl, rfl⟩ := first.unique_literal first'
      exact ⟨rfl, (stop.unique_joining rfl rfl stop').2⟩
    | full condition' first' else_ =>
      obtain ⟨-, rfl⟩ := condition.unique_joining rfl rfl condition'
      obtain ⟨rfl, rfl⟩ := first.unique_literal first'
      cases (stop.unique_joining rfl rfl else_).1
  | full condition first else_ second _ ih =>
    cases h' with
    | close stop => cases (stop.unique_joining rfl rfl condition).1
    | short condition' first' stop =>
      obtain ⟨-, rfl⟩ := condition.unique_joining rfl rfl condition'
      obtain ⟨rfl, rfl⟩ := first.unique_literal first'
      cases (stop.unique_joining rfl rfl else_).1
    | full condition' first' else' second' more' =>
      obtain ⟨-, rfl⟩ := condition.unique_joining rfl rfl condition'
      obtain ⟨rfl, rfl⟩ := first.unique_literal first'
      obtain ⟨-, rfl⟩ := else_.unique_joining rfl rfl else'
      obtain ⟨rfl, rfl⟩ := second.unique_literal second'
      obtain ⟨rfl, rfl⟩ := ih more'
      exact ⟨rfl, rfl⟩

theorem IsChoice.starts {choice : Option Test × List Branches} (h : IsChoice choice cs rest) :
    ∃ t mid, t.continues = true ∧ t.setsText = false ∧ Word t cs mid := by
  cases h with
  | plain h =>
    obtain ⟨t, mid, rfl | rfl, word⟩ := h.starts
    · exact ⟨_, mid, rfl, rfl, word⟩
    · exact ⟨_, mid, rfl, rfl, word⟩
  | tested operator => exact ⟨_, _, rfl, rfl, operator⟩

theorem IsChoice.unique {choice choice' : Option Test × List Branches}
    (h : IsChoice choice cs rest) (h' : IsChoice choice' cs rest') :
    choice = choice' ∧ rest = rest' := by
  have apart {conditions : List Branches} {op : Comparison} {a b : List Char}
      (h : IsConditions conditions cs a) (operator : Word (.operator op) cs b) : False := by
    obtain ⟨t, mid, rfl | rfl, word⟩ := h.starts
    · cases (word.unique_continuing rfl rfl operator).1
    · cases (word.unique_continuing rfl rfl operator).1
  cases h with
  | plain h =>
    cases h' with
    | plain h' =>
      obtain ⟨rfl, rfl⟩ := h.unique h'
      exact ⟨rfl, rfl⟩
    | tested operator => exact (apart h operator).elim
  | tested operator literal h =>
    cases h' with
    | plain h' => exact (apart h' operator).elim
    | tested operator' literal' h' =>
      obtain ⟨hop, rfl⟩ := operator.unique_continuing rfl rfl operator'
      cases hop
      obtain ⟨rfl, rfl⟩ := literal.unique_literal literal'
      obtain ⟨hconditions, rfl⟩ := h.unique h'
      cases hconditions
      exact ⟨rfl, rfl⟩

theorem modifiers_unique {modifiers modifiers' : List Modifier}
    {choice choice' : Option Test × List Branches} {mid mid' : List Char}
    (h : Many (IsModifier size) modifiers cs mid) (hchoice : IsChoice choice mid rest)
    (h' : Many (IsModifier size) modifiers' cs mid') (hchoice' : IsChoice choice' mid' rest') :
    modifiers = modifiers' ∧ choice = choice' ∧ rest = rest' := by
  have apart {modifier : Modifier} {choice : Option Test × List Branches} {cs a b : List Char}
      (h : IsModifier size modifier cs a) (hchoice : IsChoice choice cs b) : False := by
    obtain ⟨t, word, ht⟩ := h
    obtain ⟨t', _, continues, sets, word'⟩ := hchoice.starts
    have modified := Token.setsText_of_modifier ht
    obtain ⟨rfl, -⟩ := word.unique_continuing modified.2 continues word'
    rw [modified.1] at sets
    cases sets
  induction h generalizing modifiers' with
  | nil =>
    cases h' with
    | nil => exact ⟨rfl, hchoice.unique hchoice'⟩
    | cons hmodifier => exact (apart hmodifier hchoice).elim
  | cons hmodifier _ ih =>
    cases h' with
    | nil => exact (apart hmodifier hchoice').elim
    | cons hmodifier' hmore' =>
      obtain ⟨t, word, ht⟩ := hmodifier
      obtain ⟨t', word', ht'⟩ := hmodifier'
      obtain ⟨rfl, rfl⟩ := word.unique_continuing (Token.setsText_of_modifier ht).2
        (Token.setsText_of_modifier ht').2 word'
      obtain rfl := Option.some.inj (ht.symm.trans ht')
      obtain ⟨rfl, same⟩ := ih hchoice hmore'
      exact ⟨rfl, same⟩

theorem IsHole.unique {h h' : Hole} (hole : IsHole size h cs rest)
    (hole' : IsHole size h' cs rest') :
    h = h' ∧ rest = rest' := by
  cases hole with
  | @mk key _ _ _ _ _ _ _ reference modifiers choice =>
    cases hole' with
    | @mk key' _ _ _ _ _ _ _ reference' modifiers' choice' =>
      obtain ⟨hkey, rfl⟩ :=
        reference.unique (expects_reference key) (expects_reference key') reference'
      cases hkey
      obtain ⟨rfl, hchoice, rfl⟩ := modifiers_unique modifiers choice modifiers' choice'
      cases hchoice
      exact ⟨rfl, rfl⟩

theorem IsItem.unique {item item' : Item} (h : IsItem size item cs rest)
    (h' : IsItem size item' cs rest') : item = item' ∧ rest = rest' := by
  have apart {s : String} {inner a : List Char} (piece : Piece s ('\x7b' :: inner) a)
      (opens : opensSlot inner = true) : False := by
    cases (Takes.unique (.text (show isTextual none = true from rfl) piece) (.start rfl opens)).1
  cases h with
  | text piece =>
    cases h' with
    | text piece' =>
      obtain ⟨hs, rfl⟩ :=
        Takes.unique (.text (show isTextual none = true from rfl) piece) (.text rfl piece')
      cases hs
      exact ⟨rfl, rfl⟩
    | slot hole => exact (apart piece hole.opens).elim
  | slot hole =>
    cases h' with
    | text piece => exact (apart piece hole.opens).elim
    | slot hole' =>
      obtain ⟨rfl, rfl⟩ := hole.unique hole'
      exact ⟨rfl, rfl⟩

theorem IsItem.not_nil {item : Item} : ¬ IsItem size item [] rest := by
  intro h
  cases h with
  | text piece =>
    have shorter := Lexer.next_lt (next_complete (Nat.le_refl _)
      (.text (show isTextual none = true from rfl) piece))
    cases shorter

theorem items_unique {items items' : List Item} (h : Many (IsItem size) items cs [])
    (h' : Many (IsItem size) items' cs []) : items = items' := by
  induction items generalizing items' cs with
  | nil =>
    cases h with
    | nil =>
      cases h' with
      | nil => rfl
      | cons hitem => exact absurd hitem IsItem.not_nil
  | cons item items ih =>
    cases h with
    | cons hitem hmore =>
      cases h' with
      | nil => exact absurd hitem IsItem.not_nil
      | cons hitem' hmore' =>
        obtain ⟨rfl, rfl⟩ := hitem.unique hitem'
        rw [ih hmore hmore']

end

theorem isText_plain {text : String} (hne : text.toList ≠ [])
    (h : text.toList.all isPlain = true) : IsText text [.text text] := by
  have piece : Piece (String.ofList text.toList) (text.toList ++ []) [] :=
    .plain hne (List.all_eq_true.1 h) nofun
  rw [List.append_nil, String.ofList_toList] at piece
  exact .cons (.text piece) (.nil [])

/-! ## Texts in quotes -/

section

variable {size : Nat} {cs rest : List Char}

theorem literal_length {body : String} (h : Word (.literal body) cs rest) :
    body.toList.length < cs.length :=
  Lexer.literal_lt (next_word (Nat.le_refl _) (expects_branch body) h)

theorem conditions_length {conditions : List Branches} (h : IsConditions conditions cs rest) :
    ∀ body ∈ conditions.flatMap Branches.quoted, body.toList.length < cs.length := by
  induction h with
  | close => simp
  | short condition first =>
    have length := literal_length first
    have shorter := condition.suffix.length_le
    simp [Branches.quoted]
    omega
  | full condition first else_ second _ ih =>
    have lengthFirst := literal_length first
    have lengthSecond := literal_length second
    have behindCondition := condition.suffix.length_le
    have behindFirst := first.suffix.length_le
    have behindElse := else_.suffix.length_le
    have behindSecond := second.suffix.length_le
    intro body hbody
    rw [List.flatMap_cons, List.mem_append] at hbody
    rcases hbody with hbody | hbody
    · simp only [Branches.quoted, List.mem_cons, List.not_mem_nil, or_false] at hbody
      rcases hbody with rfl | rfl <;> omega
    · have := ih body hbody
      omega

theorem item_length {item : Item} (h : IsItem size item cs rest) :
    ∀ body ∈ item.quoted, body.toList.length < cs.length := by
  intro body hbody
  cases h with
  | text => cases hbody
  | slot hole =>
    cases hole with
    | mk reference modifiers choice =>
      have behindReference := reference.suffix.length_le
      have behindModifiers := (suffix_of_modifiers modifiers).length_le
      rw [List.length_cons]
      cases choice with
      | plain h =>
        have length := conditions_length h body (by simpa [Item.quoted] using hbody)
        omega
      | tested operator literal h =>
        have lengthLiteral := literal_length literal
        have behindOperator := operator.suffix.length_le
        have behindLiteral := literal.suffix.length_le
        have lengths := conditions_length h
        simp only [Item.quoted, Option.toList, Test.quoted, List.flatMap_cons, List.flatMap_nil,
          List.append_nil, List.cons_append, List.mem_cons] at hbody
        rcases hbody with rfl | hbody
        · omega
        · have := lengths body (by simpa using hbody)
          omega

theorem items_length {items : List Item} (h : Many (IsItem size) items cs rest) :
    ∀ item ∈ items, ∀ body ∈ item.quoted, body.toList.length < cs.length := by
  induction h with
  | nil => simp
  | cons hitem _ ih =>
    intro item hmem body hbody
    have shorter := hitem.suffix.length_le
    rcases List.mem_cons.1 hmem with rfl | hmem
    · exact item_length hitem body hbody
    · have := ih item hmem body hbody
      omega

end

end Stencil.Slot
