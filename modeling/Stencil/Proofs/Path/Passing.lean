import Stencil.Proofs.Path.Places

/-!
# Tokens that are taken

What a scan takes behind a token is a token that may stand there, and the text has it at the place.
-/

namespace Stencil.Path

namespace Reader

variable {r s : Reader} {a : Token} {m : Mode}

theorem passes_sign {t : Token} {n : Mode} {text rest : List Char} (hr : r.Is a m)
    (hf : Follows a m false t n) (ht : t.sign? = some text) (hrest : r.rest = text ++ rest)
    (hends : Lexicon.longest.Ends rest t) : r.Passes a ((r.past t text rest).enter n) := by
  refine ⟨false, t, n, hr.mode ▸ hf, ⟨rfl, rfl, hr.done, hr.embedded⟩, ?_, ?_⟩
  · exact ⟨text, hrest, .sign ht, hends⟩
  · rintro rfl
    cases ht

theorem passes_still {t : Token} {text rest : List Char} (hr : r.Is a m)
    (hf : Follows a m false t m) (ht : t.sign? = some text) (hrest : r.rest = text ++ rest)
    (hends : Lexicon.longest.Ends rest t) : r.Passes a (r.past t text rest) := by
  obtain rfl := hr.mode
  exact passes_sign hr hf ht hrest hends

/-- `u` stands where the next token starts, behind the comma if there is one. -/
structure Enters (r : Reader) (comma : Bool) (u : Reader) : Prop where
  mode : u.mode = r.mode
  done : u.done = r.done
  embedded : u.embedded = r.embedded
  behind {t : Token} {lexeme rest : List Char} :
    Cut t lexeme u.rest rest → Behind comma t lexeme r.rest rest

theorem Enters.refl (r : Reader) : r.Enters false r := ⟨rfl, rfl, rfl, id⟩

theorem enters_comma {rest : List Char} (h : r.rest = ',' :: rest) :
    r.Enters true (r.pastComma rest) :=
  ⟨rfl, rfl, rfl, fun cut => ⟨rest, h, cut⟩⟩

theorem Enters.passes {u : Reader} {t : Token} {comma : Bool} {lexeme rest : List Char}
    {position : Nat} (hu : r.Enters comma u) (hr : r.Is a m) (hf : Follows a m comma t m)
    (cut : Cut t lexeme u.rest rest) (fits : Fits a m t lexeme) :
    r.Passes a ⟨rest, position, some t, lexeme, u.mode, u.done, u.embedded⟩ :=
  ⟨comma, t, m, hr.mode ▸ hf,
    ⟨rfl, hu.mode.trans hr.mode, hu.done.trans hr.done, hu.embedded.trans hr.embedded⟩,
    hu.behind cut, hr.mode ▸ fits⟩

theorem scanString_sound (h : r.scanString = .token s) :
    ∃ body rest position, r.rest = '\'' :: (body ++ '\'' :: rest) ∧ '\'' ∉ body ∧
      s = ⟨rest, position, some .string, body, r.mode, r.done, r.embedded⟩ := by
  unfold scanString at h
  split at h
  · next cs hcs =>
    split at h
    · cases h
    · next c rest hrest =>
      cases h
      have run : cs.takeWhile (· != '\'') ++ cs.dropWhile (· != '\'') = cs :=
        List.takeWhile_append_dropWhile
      have hc : (c != '\'') = false := by
        have := stops_dropWhile (· != '\'') cs
        rw [hrest] at this
        exact this c rfl
      obtain rfl : c = '\'' := by simpa using hc
      refine ⟨_, rest, _, ?_, fun hmem => ?_, rfl⟩
      · rw [hcs]
        exact congrArg _ (run.symm.trans (by rw [hrest]; rfl))
      · exact absurd (mem_takeWhile (p := (· != '\'')) hmem) (by decide)
  · cases h

theorem passes_string {comma : Bool} {u : Reader} (hr : r.Is a m) (hu : r.Enters comma u)
    (hf : Follows a m comma .string m) (h : u.scanString = .token s) : r.Passes a s := by
  obtain ⟨body, rest, position, hrest, hbody, rfl⟩ := scanString_sound h
  have text : u.rest = '\'' :: (body ++ ['\'']) ++ rest := by
    rw [hrest]
    simp
  exact hu.passes hr hf ⟨_, text, .string hbody, trivial⟩ nofun

theorem passes_number {comma : Bool} {u : Reader} (hr : r.Is a m) (hu : r.Enters comma u)
    (hf : Follows a m comma .number m) (h : u.scanNumber (a.allowsFraction m) = .token s) :
    r.Passes a s := by
  obtain ⟨text, rest, hrest, rfl, numeral, whole⟩ := scanNumber_sound h
  exact hu.passes hr hf ⟨text, hrest, .number numeral, trivial⟩ fun _ => whole

theorem passes_member (hr : r.Is a m) (ha : a = .child ∨ a = .deepScan)
    (h : r.scanMember = .token s) : r.Passes a s := by
  unfold scanMember at h
  split at h
  · next rest hrest =>
    cases h
    exact passes_still hr (.member ha (.inr rfl)) rfl hrest trivial
  · next c cs _ hrest =>
    split at h
    · next hc =>
      cases h
      refine (Enters.refl r).passes hr (.member ha (.inl rfl))
        ⟨c :: cs.takeWhile isNameChar, ?_, ?_, ?_⟩ nofun
      · rw [List.cons_append, List.takeWhile_append_dropWhile, hrest]
      · exact .name hc fun d => mem_takeWhile
      · exact fun _ => (stops_name_iff _).1 (stops_dropWhile isNameChar cs)
    · cases h
  · cases h

theorem passes_regex {op : Operator} (hr : r.Is (.operator op) m) (hop : op ≠ .isEmpty)
    (h : r.scanRegex = .token s) : r.Passes (.operator op) s := by
  unfold scanRegex Regex.cutLiteral? at h
  split at h
  · next literal rest hlit =>
    cases h
    split at hlit
    · next cs hrest =>
      obtain ⟨⟨body, tail⟩, hbody, he⟩ := Option.map_eq_some_iff.1 hlit
      cases he
      obtain ⟨rfl, pattern⟩ := patternBody?_sound hbody
      refine (Enters.refl r).passes hr (.operand hop (.inr rfl)) ⟨_, ?_,
        .regex pattern fun c => mem_takeWhile (p := Regex.isFlag), trivial⟩ nofun
      rw [hrest]
      simp
    · cases hlit
  · cases h

theorem passes_endFilter (hr : r.Is a m) (hf : Follows a m false .endFilter m.closed)
    (h : r.scanEndFilter = .token s) : r.Passes a s := by
  unfold scanEndFilter at h
  split at h
  · next rest hrest =>
    cases h
    rw [hr.mode]
    exact passes_sign hr hf rfl hrest trivial
  · cases h

theorem passes_endExpression (hr : r.Is a m)
    (ha : a.isNode .operand = true ∨ a.isLiteral ∨ a = .regex ∨ a = .endList ∨
      a = .operator .isEmpty) (h : r.scanEndExpression = .token s) : r.Passes a s := by
  unfold scanEndExpression at h
  split at h
  · next rest hrest hm =>
    cases h
    obtain rfl := hr.mode.symm.trans hm
    exact passes_sign hr (.expressionEnd ha) rfl hrest trivial
  · cases h

theorem passes_node (hr : r.Is a m) (ha : a.isNode m = true) (h : r.scanAfterNode = .token s) :
    r.Passes a s := by
  unfold scanAfterNode at h
  split at h
  · next rest hrest =>
    cases h
    exact passes_still hr (.step ha (.inr rfl)) rfl hrest trivial
  · next rest _ hrest =>
    cases h
    exact passes_still hr (.step ha (.inl rfl)) rfl hrest trivial
  · next rest hrest =>
    cases h
    rw [hr.mode]
    exact passes_sign hr (.opening ha) rfl hrest trivial
  · split at h
    · next hm =>
      obtain rfl := hr.mode.symm.trans hm
      exact passes_endExpression hr (.inl ha) h
    · cases h
  · split at h
    · next hm =>
      obtain rfl := hr.mode.symm.trans hm
      obtain ⟨op, rest, hrest, hends, rfl⟩ := scanOperator_sound h
      exact passes_still hr (.operator ha) rfl hrest hends
    · cases h

theorem passes_filterStart (hr : r.Is .startFilter m) (h : r.scanFilterStart = .token s) :
    r.Passes .startFilter s := by
  unfold scanFilterStart at h
  split at h
  · exact passes_string hr (.refl r) (.content (.inl (.inl rfl))) h
  · next rest hrest =>
    cases h
    exact passes_still hr (.content (.inr (.inl rfl))) rfl hrest trivial
  · next rest hrest =>
    cases h
    exact passes_still hr (.content (.inr (.inr rfl))) rfl hrest trivial
  · next rest hrest =>
    split at h
    · cases h
    · next hm =>
      cases h
      rw [hr.mode] at hm
      exact passes_sign hr (.expression (Bool.eq_false_iff.2 hm)) rfl hrest trivial
  · split at h
    · exact passes_number hr (.refl r) (.content (.inl (.inr rfl))) h
    · cases h
  · cases h

theorem passes_listItem {comma : Bool} {u : Reader} (hr : r.Is a m) (hu : r.Enters comma u)
    (hf : ∀ t : Token, t.isLiteral → Follows a m comma t m) (ha : a.allowsFraction m = true)
    (h : u.scanListItem = .token s) : r.Passes a s := by
  unfold scanListItem at h
  split at h
  · exact passes_string hr hu (hf _ (.inl rfl)) h
  · split at h
    · rw [← ha] at h
      exact passes_number hr hu (hf _ (.inr rfl)) h
    · cases h
  · cases h

theorem passes_listStart (hr : r.Is .startList m) (h : r.scanListStart = .token s) :
    r.Passes .startList s := by
  unfold scanListStart at h
  split at h
  · next rest hrest =>
    cases h
    exact passes_sign hr (.listEnd (.inl rfl)) rfl hrest trivial
  · exact passes_listItem hr (.refl r) (fun t ht => .item ht) rfl h

theorem passes_literal {isNumber : Bool} (hr : r.Is a m)
    (ha : a = if isNumber then .number else .string)
    (h : r.scanAfterLiteral isNumber = .token s) : r.Passes a s := by
  have literal : a.isLiteral := by
    cases isNumber
    · exact .inl ha
    · exact .inr ha
  unfold scanAfterLiteral at h
  split at h
  · next hm =>
    -- In a list of operands, where either kind of literal may come next.
    obtain rfl := hr.mode.symm.trans hm
    split at h
    · next rest hrest =>
      refine passes_listItem hr (enters_comma hrest) (fun t ht => .furtherItem literal ht) ?_ h
      rcases literal with rfl | rfl <;> rfl
    · next rest hrest =>
      cases h
      exact passes_sign hr (.listEnd (.inr ⟨literal, rfl⟩)) rfl hrest trivial
    · cases h
  · next hlist =>
    split at h
    · next hm =>
      -- In a bracket, where the next literal is of the same kind.
      rw [hr.mode] at hlist hm
      split at h
      · next rest hrest =>
        simp only at h
        split at h
        · exact passes_string hr (enters_comma hrest) (ha ▸ .further (.inl rfl) hm) h
        · split at h
          · refine passes_number hr (enters_comma hrest) (ha ▸ .further (.inr rfl) hm) ?_
            rw [ha]
            show scanNumber (m == .list) _ = _
            rw [beq_eq_false_iff_ne.2 hlist]
            exact h
          · cases h
        · cases h
      · next rest hrest =>
        split at h
        · next hn =>
          cases h
          rw [if_pos hn] at ha
          subst ha
          exact passes_still hr (.slice hm) rfl hrest trivial
        · cases h
      · exact passes_endFilter hr (.closing (.inl ⟨.inl literal, hm⟩)) h
    · exact passes_endExpression hr (.inr (.inl literal)) h

theorem passes_slice (hr : r.Is .slice m) (h : r.scanAfterSlice = .token s) :
    r.Passes .slice s := by
  unfold scanAfterSlice at h
  split at h
  · split at h
    · exact passes_number hr (.refl r) .stop h
    · exact passes_endFilter hr (.closing (.inr (.inl rfl))) h
  · cases h

theorem passes_operandPath (hr : r.Is a m)
    (ha : a = .startExpression ∨ ∃ op, op ≠ .isEmpty ∧ a = .operator op)
    (h : r.scanOperandPath = .token s) : r.Passes a s := by
  unfold scanOperandPath at h
  split at h
  · next rest hrest =>
    cases h
    exact passes_still hr (.operandPath ha (.inl rfl)) rfl hrest trivial
  · next rest hrest =>
    cases h
    exact passes_still hr (.operandPath ha (.inr rfl)) rfl hrest trivial
  · cases h

theorem passes_operand {op : Operator} (hr : r.Is (.operator op) m) (hop : op ≠ .isEmpty)
    (h : r.scanOperand = .token s) : r.Passes (.operator op) s := by
  unfold scanOperand at h
  split at h
  · exact passes_operandPath hr (.inr ⟨op, hop, rfl⟩) h
  · exact passes_operandPath hr (.inr ⟨op, hop, rfl⟩) h
  · exact passes_string hr (.refl r) (.operand hop (.inl (.inl rfl))) h
  · exact passes_regex hr hop h
  · next rest hrest =>
    cases h
    exact passes_sign hr (.list hop) rfl hrest trivial
  · split at h
    · exact passes_number hr (.refl r) (.operand hop (.inl (.inr rfl))) h
    · cases h
  · cases h

theorem passes_of_scan (hr : r.Is a m) (h : r.scan = .token s) : r.Passes a s := by
  unfold scan at h
  rw [hr.token] at h
  cases a
  case root | current | propertyName | endFilter => exact passes_node hr rfl h
  case wildcard =>
    simp only at h
    split at h
    · next hm =>
      rw [hr.mode] at hm
      exact passes_endFilter hr (.closing (.inl ⟨.inr rfl, hm⟩)) h
    · next hm =>
      rw [hr.mode] at hm
      exact passes_node hr (by simpa [Token.isNode] using hm) h
  case child => exact passes_member hr (.inl rfl) h
  case deepScan => exact passes_member hr (.inr rfl) h
  case startFilter => exact passes_filterStart hr h
  case string => exact passes_literal hr rfl h
  case number => exact passes_literal hr rfl h
  case slice => exact passes_slice hr h
  case startExpression => exact passes_operandPath hr (.inl rfl) h
  case endExpression => exact passes_endFilter hr (.closing (.inr (.inr rfl))) h
  case regex => exact passes_endExpression hr (.inr (.inr (.inl rfl))) h
  case startList => exact passes_listStart hr h
  case endList => exact passes_endExpression hr (.inr (.inr (.inr (.inl rfl)))) h
  case operator op =>
    cases op
    case isEmpty => exact passes_endExpression hr (.inr (.inr (.inr (.inr rfl)))) h
    all_goals exact passes_operand hr (by decide) h

end Reader

end Stencil.Path
