import Stencil.Proofs.Path.Places

/-!
# Taking tokens

A scan takes a token that may stand behind the last one where the text has it and it is bounded.
-/

namespace Stencil.Path

namespace Reader

variable {r : Reader} {a : Token} {m : Mode}

/-- A token was taken, and `rest` follows it. -/
def Takes (t : Token) (m : Mode) (lexeme rest : List Char) : Scan → Prop
  | .token s => s.Is t m ∧ s.lexeme = lexeme ∧ s.rest = rest
  | _ => False

theorem takes_past (hr : r.Is a m) (t : Token) (lexeme rest : List Char) :
    Takes t m lexeme rest (.token (r.past t lexeme rest)) :=
  ⟨⟨rfl, hr.mode, hr.done, hr.embedded⟩, rfl, rfl⟩

theorem takes_enter (hr : r.Is a m) (t : Token) (lexeme rest : List Char) (n : Mode) :
    Takes t n lexeme rest (.token ((r.past t lexeme rest).enter n)) :=
  ⟨⟨rfl, rfl, hr.done, hr.embedded⟩, rfl, rfl⟩

theorem Is.pastComma (hr : r.Is a m) (rest : List Char) : (r.pastComma rest).Is a m :=
  ⟨hr.token, hr.mode, hr.done, hr.embedded⟩

theorem takes_string {lexeme rest : List Char} (hr : r.Is a m)
    (h : Cut .string lexeme r.rest rest) : Takes .string m lexeme rest r.scanString := by
  obtain ⟨text, hrest, hw, -⟩ := h
  cases hw with
  | sign ht => cases ht
  | string hbody =>
    have quote : Stops (· != '\'') ('\'' :: rest) := by
      intro c hc
      cases hc
      rfl
    have inside : ∀ c ∈ lexeme, (c != '\'') = true := fun c hc =>
      bne_iff_ne.2 fun he => hbody (he ▸ hc)
    unfold scanString
    rw [hrest, List.cons_append, List.append_assoc]
    simp only [List.cons_append, List.nil_append, takeWhile_run inside quote,
      dropWhile_run inside quote]
    exact ⟨⟨rfl, hr.mode, hr.done, hr.embedded⟩, rfl, rfl⟩

theorem takes_number {fraction : Bool} {lexeme rest : List Char} (hr : r.Is a m)
    (h : Cut .number lexeme r.rest rest) (hb : Token.Bounded rest .number)
    (hwhole : fraction = false → (Text.int? lexeme).isSome = true) :
    Takes .number m lexeme rest (r.scanNumber fraction) := by
  obtain ⟨text, hrest, hw, -⟩ := h
  cases hw with
  | sign ht => cases ht
  | number hn =>
    rw [scanNumber_complete hrest hn hb hwhole]
    exact takes_past hr ..

theorem takes_member {t : Token} {lexeme rest : List Char} (hr : r.Is a m)
    (ht : t = .propertyName ∨ t = .wildcard) (h : Cut t lexeme r.rest rest) :
    Takes t m lexeme rest r.scanMember := by
  rcases ht with rfl | rfl
  · obtain ⟨text, hrest, hw, hends⟩ := h
    cases hw with
    | sign ht => cases ht
    | @name c cs hc hcs =>
      have stops := (stops_name_iff rest).2 (hends rfl)
      unfold scanMember
      rw [hrest, List.cons_append]
      split
      · next he =>
        cases he
        exact absurd hc (by decide)
      · next he =>
        cases he
        rw [if_pos hc, takeWhile_run hcs stops, dropWhile_run hcs stops]
        exact takes_past hr ..
      · next he => cases he
  · obtain ⟨rfl, hrest⟩ := h.sign rfl
    unfold scanMember
    rw [hrest]
    exact takes_past hr ..

theorem takes_regex {lexeme rest : List Char} (hr : r.Is a m) (h : Cut .regex lexeme r.rest rest)
    (hb : Token.Bounded rest .regex) : Takes .regex m lexeme rest r.scanRegex := by
  obtain ⟨text, hrest, hw, -⟩ := h
  cases hw with
  | sign ht => cases ht
  | @regex body flags hbody hflags =>
    have cut : Regex.cutLiteral? r.rest = some ('/' :: (body ++ '/' :: flags), rest) := by
      rw [hrest, List.cons_append, List.append_assoc, List.cons_append]
      unfold Regex.cutLiteral?
      simp only [patternBody?_complete hbody, Option.map_some, takeWhile_run hflags hb,
        dropWhile_run hflags hb, List.cons_append]
    unfold scanRegex
    rw [cut]
    exact takes_past hr ..

theorem takes_endFilter {lexeme rest : List Char} (hr : r.Is a m)
    (h : Cut .endFilter lexeme r.rest rest) :
    Takes .endFilter m.closed lexeme rest r.scanEndFilter := by
  obtain ⟨rfl, hrest⟩ := h.sign rfl
  unfold scanEndFilter
  rw [hrest]
  simp only [List.cons_append, List.nil_append, hr.mode]
  exact takes_enter hr ..

theorem takes_endExpression {lexeme rest : List Char} (hr : r.Is a .operand)
    (h : Cut .endExpression lexeme r.rest rest) :
    Takes .endExpression .bracket lexeme rest r.scanEndExpression := by
  obtain ⟨rfl, hrest⟩ := h.sign rfl
  unfold scanEndExpression
  rw [hrest, hr.mode]
  exact takes_enter hr ..

/-! A number is taken where nothing else starts with its first character. -/

theorem scanFilterStart_number {c : Char} {cs : List Char} (h : r.rest = c :: cs)
    (hc : isNumberStart c = true) : r.scanFilterStart = r.scanNumber false := by
  unfold scanFilterStart
  rw [h]
  split
  case h_5 d _ he => rw [← (List.cons.inj he).1, if_pos hc]
  case h_6 he => cases he
  all_goals
    next he =>
    rw [(List.cons.inj he).1] at hc
    exact absurd hc (by decide)

theorem scanListItem_number {c : Char} {cs : List Char} (h : r.rest = c :: cs)
    (hc : isNumberStart c = true) : r.scanListItem = r.scanNumber true := by
  unfold scanListItem
  rw [h]
  split
  case h_2 d _ he => rw [← (List.cons.inj he).1, if_pos hc]
  case h_3 he => cases he
  all_goals
    next he =>
    rw [(List.cons.inj he).1] at hc
    exact absurd hc (by decide)

theorem scanOperand_number {c : Char} {cs : List Char} (h : r.rest = c :: cs)
    (hc : isNumberStart c = true) : r.scanOperand = r.scanNumber true := by
  unfold scanOperand
  rw [h]
  split
  case h_6 d _ he => rw [← (List.cons.inj he).1, if_pos hc]
  case h_7 he => cases he
  all_goals
    next he =>
    rw [(List.cons.inj he).1] at hc
    exact absurd hc (by decide)

theorem scan_node (hr : r.Is a m) (ha : a.isNode m = true) : r.scan = r.scanAfterNode := by
  unfold scan
  rw [hr.token]
  cases a
  case wildcard =>
    have outside : m.inBracket = false := by simpa [Token.isNode] using ha
    simp only [hr.mode, outside, Bool.false_eq_true, if_false]
  case root | current | propertyName | endFilter => rfl
  all_goals cases ha

theorem takes_step {t : Token} {lexeme rest : List Char} (hr : r.Is a m)
    (ht : t = .child ∨ t = .deepScan) (h : Cut t lexeme r.rest rest) (hb : t.Bounded rest) :
    Takes t m lexeme rest r.scanAfterNode := by
  rcases ht with rfl | rfl
  · obtain ⟨rfl, hrest⟩ := h.sign rfl
    unfold scanAfterNode
    rw [hrest]
    split
    · next he =>
      -- A second dot would belong to the token.
      obtain rfl := (List.cons.inj he).2
      exact absurd rfl hb
    · next he =>
      cases he
      exact takes_past hr ..
    · next he => cases he
    · next he => cases he
    · next plain _ _ => exact absurd rfl (plain rest)
  · obtain ⟨rfl, hrest⟩ := h.sign rfl
    unfold scanAfterNode
    rw [hrest]
    exact takes_past hr ..

theorem takes_opening {lexeme rest : List Char} (hr : r.Is a m)
    (h : Cut .startFilter lexeme r.rest rest) :
    Takes .startFilter m.opened lexeme rest r.scanAfterNode := by
  obtain ⟨rfl, hrest⟩ := h.sign rfl
  unfold scanAfterNode
  rw [hrest]
  simp only [List.cons_append, List.nil_append, hr.mode]
  exact takes_enter hr ..

theorem takes_nodeEnd {lexeme rest : List Char} (hr : r.Is a .operand)
    (h : Cut .endExpression lexeme r.rest rest) :
    Takes .endExpression .bracket lexeme rest r.scanAfterNode := by
  have closes := takes_endExpression hr h
  obtain ⟨rfl, hrest⟩ := h.sign rfl
  unfold scanAfterNode
  rw [hrest]
  simp only [List.cons_append, List.nil_append]
  rw [if_pos hr.mode]
  exact closes

theorem takes_operator {op : Operator} {lexeme rest : List Char} (hr : r.Is a .operand)
    (h : Cut (.operator op) lexeme r.rest rest) (hb : (Token.operator op).Bounded rest) :
    Takes (.operator op) .operand lexeme rest r.scanAfterNode := by
  obtain ⟨text, hrest', hw, hends⟩ := h
  obtain ⟨rfl, hrest⟩ := Cut.sign ⟨text, hrest', hw, hends⟩ rfl
  have scanned := scanOperator_complete hrest hends hb
  have node : r.scanAfterNode = r.scanOperator := by
    unfold scanAfterNode
    split
    case h_5 => rw [if_pos hr.mode]
    -- No operator starts like a step or like the end of the expression.
    all_goals
      next he =>
      rw [hrest] at he
      cases op <;> cases he
  rw [node, scanned]
  exact takes_past hr ..

theorem takes_content {t : Token} {lexeme rest : List Char} (hr : r.Is .startFilter m)
    (ht : t.isLiteral ∨ t = .slice ∨ t = .wildcard) (h : Cut t lexeme r.rest rest)
    (hb : t.Bounded rest) (hfits : Fits .startFilter m t lexeme) :
    Takes t m lexeme rest r.scanFilterStart := by
  rcases ht with (rfl | rfl) | rfl | rfl
  · have taken := takes_string hr h
    obtain ⟨c, tail, hrest, hc⟩ := h.head
    obtain rfl : c = '\'' := beq_iff_eq.1 hc
    unfold scanFilterStart
    rw [hrest]
    exact taken
  · obtain ⟨c, tail, hrest, hc⟩ := h.head
    rw [scanFilterStart_number hrest hc]
    exact takes_number hr h hb (hfits rfl)
  · obtain ⟨rfl, hrest⟩ := h.sign rfl
    unfold scanFilterStart
    rw [hrest]
    exact takes_past hr ..
  · obtain ⟨rfl, hrest⟩ := h.sign rfl
    unfold scanFilterStart
    rw [hrest]
    exact takes_past hr ..

theorem takes_expression {lexeme rest : List Char} (hr : r.Is .startFilter m)
    (hm : m.inExpression = false) (h : Cut .startExpression lexeme r.rest rest) :
    Takes .startExpression .operand lexeme rest r.scanFilterStart := by
  obtain ⟨rfl, hrest⟩ := h.sign rfl
  unfold scanFilterStart
  rw [hrest]
  simp only [List.cons_append, List.nil_append]
  rw [if_neg (by rw [hr.mode, hm]; exact Bool.false_ne_true)]
  exact takes_enter hr ..

theorem takes_listItem {t : Token} {lexeme rest : List Char} (hr : r.Is a m) (ht : t.isLiteral)
    (h : Cut t lexeme r.rest rest) (hb : t.Bounded rest) :
    Takes t m lexeme rest r.scanListItem := by
  rcases ht with rfl | rfl
  · have taken := takes_string hr h
    obtain ⟨c, tail, hrest, hc⟩ := h.head
    obtain rfl : c = '\'' := beq_iff_eq.1 hc
    unfold scanListItem
    rw [hrest]
    exact taken
  · obtain ⟨c, tail, hrest, hc⟩ := h.head
    rw [scanListItem_number hrest hc]
    exact takes_number hr h hb nofun

theorem Is.not_list (hr : r.Is a m) (hm : m.inBracket = true) : r.mode ≠ .list := by
  rw [hr.mode]
  rintro rfl
  cases hm

theorem takes_further {lexeme mid rest : List Char} (hr : r.Is a m) (ha : a.isLiteral)
    (hm : m.inBracket = true) (hmid : r.rest = ',' :: mid) (h : Cut a lexeme (lead true mid) rest)
    (hb : a.Bounded rest) (hfits : Fits a m a lexeme) : Takes a m lexeme rest r.scan := by
  have next := hr.pastComma mid
  have bracket := hr.not_list hm
  obtain ⟨c, tail, hc, opens⟩ := h.head
  unfold scan
  rw [hr.token]
  rcases ha with rfl | rfl
  · have taken := takes_string next h
    obtain rfl : c = '\'' := beq_iff_eq.1 opens
    simp only [scanAfterLiteral]
    rw [if_neg bracket, if_pos (hr.mode ▸ hm), hmid]
    simp only
    rw [show (r.pastComma mid).rest = '\'' :: tail from hc]
    exact taken
  · have whole : Token.allowsFraction m .number = false :=
      beq_eq_false_iff_ne.2 (hr.mode ▸ bracket)
    have taken : Takes .number m lexeme rest ((r.pastComma mid).scanNumber false) :=
      takes_number next h hb fun _ => hfits rfl whole
    simp only [scanAfterLiteral]
    rw [if_neg bracket, if_pos (hr.mode ▸ hm), hmid]
    simp only
    rw [show (r.pastComma mid).rest = c :: tail from hc]
    simp only
    rw [if_pos (show isNumberStart c = true from opens)]
    exact taken

theorem takes_furtherItem {t : Token} {lexeme mid rest : List Char} (hr : r.Is a .list)
    (ha : a.isLiteral) (ht : t.isLiteral) (hmid : r.rest = ',' :: mid)
    (h : Cut t lexeme (lead true mid) rest) (hb : t.Bounded rest) :
    Takes t .list lexeme rest r.scan := by
  have taken := takes_listItem (hr.pastComma mid) ht h hb
  unfold scan
  rw [hr.token]
  rcases ha with rfl | rfl
  all_goals
    simp only [scanAfterLiteral]
    rw [if_pos hr.mode, hmid]
    exact taken

theorem takes_slice {lexeme rest : List Char} (hr : r.Is .number m) (hm : m.inBracket = true)
    (h : Cut .slice lexeme r.rest rest) : Takes .slice m lexeme rest r.scan := by
  have bracket := hr.not_list hm
  obtain ⟨rfl, hrest⟩ := h.sign rfl
  unfold scan
  rw [hr.token]
  simp only [scanAfterLiteral]
  rw [if_neg bracket, if_pos (hr.mode ▸ hm), hrest]
  exact takes_past hr ..

theorem takes_stop {lexeme rest : List Char} (hr : r.Is .slice m)
    (h : Cut .number lexeme r.rest rest) (hb : Token.Bounded rest .number)
    (hfits : Fits .slice m .number lexeme) : Takes .number m lexeme rest r.scan := by
  have taken : Takes .number m lexeme rest (r.scanNumber false) :=
    takes_number hr h hb fun _ => hfits rfl rfl
  obtain ⟨c, tail, hrest, hc⟩ := h.head
  unfold scan
  rw [hr.token]
  simp only [scanAfterSlice]
  rw [hrest]
  simp only
  rw [if_pos (show isNumberStart c = true from hc)]
  exact taken

theorem takes_closing {lexeme rest : List Char} (hr : r.Is a m)
    (ha : (a.isLiteral ∨ a = .wildcard) ∧ m.inBracket = true ∨ a = .slice ∨ a = .endExpression)
    (h : Cut .endFilter lexeme r.rest rest) : Takes .endFilter m.closed lexeme rest r.scan := by
  have closes := takes_endFilter hr h
  have hrest := (h.sign rfl).2
  unfold scan
  rw [hr.token]
  rcases ha with ⟨ha, hm⟩ | rfl | rfl
  · have bracket : r.mode ≠ .list := by
      rw [hr.mode]
      rintro rfl
      cases hm
    rcases ha with (rfl | rfl) | rfl
    all_goals simp only [scanAfterLiteral]
    · rw [if_neg bracket, if_pos (hr.mode ▸ hm), hrest]
      exact closes
    · rw [if_neg bracket, if_pos (hr.mode ▸ hm), hrest]
      exact closes
    · rw [if_pos (hr.mode ▸ hm)]
      exact closes
  · simp only [scanAfterSlice]
    rw [hrest]
    exact closes
  · exact closes

theorem takes_operandPath {t : Token} {lexeme rest : List Char} (hr : r.Is a m)
    (ht : t = .current ∨ t = .root) (h : Cut t lexeme r.rest rest) :
    Takes t m lexeme rest r.scanOperandPath := by
  rcases ht with rfl | rfl
  all_goals
    obtain ⟨rfl, hrest⟩ := h.sign rfl
    unfold scanOperandPath
    rw [hrest]
    exact takes_past hr ..

theorem scan_operator {op : Operator} (hr : r.token = some (.operator op)) (hop : op ≠ .isEmpty) :
    r.scan = r.scanOperand := by
  unfold scan
  rw [hr]
  cases op
  case isEmpty => exact absurd rfl hop
  all_goals rfl

theorem takes_operand {op : Operator} {t : Token} {lexeme rest : List Char}
    (hr : r.Is (.operator op) m) (hop : op ≠ .isEmpty) (ht : t.isLiteral ∨ t = .regex)
    (h : Cut t lexeme r.rest rest) (hb : t.Bounded rest) : Takes t m lexeme rest r.scan := by
  rw [scan_operator hr.token hop]
  obtain ⟨c, tail, hrest, hc⟩ := h.head
  rcases ht with (rfl | rfl) | rfl
  · have taken := takes_string hr h
    obtain rfl : c = '\'' := beq_iff_eq.1 hc
    unfold scanOperand
    rw [hrest]
    exact taken
  · rw [scanOperand_number hrest hc]
    exact takes_number hr h hb nofun
  · have taken := takes_regex hr h hb
    obtain rfl : c = '/' := beq_iff_eq.1 hc
    unfold scanOperand
    rw [hrest]
    exact taken

theorem takes_listStart {t : Token} {lexeme rest : List Char} (hr : r.Is .startList m)
    (ht : t.isLiteral) (h : Cut t lexeme r.rest rest) (hb : t.Bounded rest) :
    Takes t m lexeme rest r.scan := by
  have taken := takes_listItem hr ht h hb
  obtain ⟨c, tail, hrest, hc⟩ := h.head
  unfold scan
  rw [hr.token]
  simp only [scanListStart]
  split
  · next he =>
    obtain rfl := (List.cons.inj (hrest.symm.trans he)).1
    rcases ht with rfl | rfl <;> cases hc
  · exact taken

theorem takes_listEnd {lexeme rest : List Char} (hr : r.Is a m)
    (ha : a = .startList ∨ a.isLiteral ∧ m = .list) (h : Cut .endList lexeme r.rest rest) :
    Takes .endList .operand lexeme rest r.scan := by
  obtain ⟨rfl, hrest⟩ := h.sign rfl
  unfold scan
  rw [hr.token]
  rcases ha with rfl | ⟨rfl | rfl, rfl⟩
  · simp only [scanListStart]
    rw [hrest]
    exact takes_enter hr ..
  all_goals
    simp only [scanAfterLiteral]
    rw [if_pos hr.mode, hrest]
    exact takes_enter hr ..

theorem takes_expressionEnd {lexeme rest : List Char} (hr : r.Is a .operand)
    (ha : a.isNode .operand = true ∨ a.isLiteral ∨ a = .regex ∨ a = .endList ∨
      a = .operator .isEmpty) (h : Cut .endExpression lexeme r.rest rest) :
    Takes .endExpression .bracket lexeme rest r.scan := by
  have closes := takes_endExpression hr h
  have atNode := takes_nodeEnd hr h
  unfold scan
  rw [hr.token]
  rcases ha with ha | (rfl | rfl) | rfl | rfl | rfl
  · cases a <;> cases ha
    case wildcard.refl =>
      simp only [hr.mode]
      exact atNode
    all_goals exact atNode
  · simp only [scanAfterLiteral, hr.mode]
    exact closes
  · simp only [scanAfterLiteral, hr.mode]
    exact closes
  · exact closes
  · exact closes
  · exact closes

theorem takes_of_follows {comma : Bool} {t : Token} {n : Mode} {lexeme rest : List Char}
    (hr : r.Is a m) (hf : Follows a m comma t n) (h : Behind comma t lexeme r.rest rest)
    (hb : t.Bounded rest) (hfits : Fits a m t lexeme) : Takes t n lexeme rest r.scan := by
  cases hf with
  | step ha ht => exact (scan_node hr ha).symm ▸ takes_step hr ht h hb
  | opening ha => exact (scan_node hr ha).symm ▸ takes_opening hr h
  | operator ha => exact (scan_node hr ha).symm ▸ takes_operator hr h hb
  | member ha ht =>
    have taken := takes_member hr ht h
    unfold scan
    rw [hr.token]
    rcases ha with rfl | rfl <;> exact taken
  | content ht =>
    unfold scan
    rw [hr.token]
    exact takes_content hr ht h hb hfits
  | expression hm =>
    unfold scan
    rw [hr.token]
    exact takes_expression hr hm h
  | further ha hm =>
    obtain ⟨mid, hmid, cut⟩ := h
    exact takes_further hr ha hm hmid cut hb hfits
  | slice hm => exact takes_slice hr hm h
  | stop => exact takes_stop hr h hb hfits
  | closing ha => exact takes_closing hr ha h
  | operandPath ha ht =>
    have taken := takes_operandPath hr ht h
    rcases ha with rfl | ⟨op, hop, rfl⟩
    · unfold scan
      rw [hr.token]
      exact taken
    · rw [scan_operator hr.token hop]
      obtain ⟨c, tail, hrest, hc⟩ := h.head
      unfold scanOperand
      rcases ht with rfl | rfl
      · obtain rfl : '@' = c := by simpa [Token.opensWith, Token.sign?] using hc
        rw [hrest]
        exact taken
      · obtain rfl : '$' = c := by simpa [Token.opensWith, Token.sign?] using hc
        rw [hrest]
        exact taken
  | operand hop ht => exact takes_operand hr hop ht h hb
  | list hop =>
    obtain ⟨rfl, hrest⟩ := Cut.sign h rfl
    rw [scan_operator hr.token hop]
    unfold scanOperand
    rw [hrest]
    exact takes_enter hr ..
  | item ht => exact takes_listStart hr ht h hb
  | furtherItem ha ht =>
    obtain ⟨mid, hmid, cut⟩ := h
    exact takes_furtherItem hr ha ht hmid cut hb
  | listEnd ha => exact takes_listEnd hr ha h
  | expressionEnd ha => exact takes_expressionEnd hr ha h

end Reader

end Stencil.Path
