import Stencil.Proofs.Path.Steps

/-!
# Expressions

The condition of a filter is read where the grammar has it, with the operands and the list that it
has there.
-/

namespace Stencil.Path

open Reader (bind_eq_ok)

variable {r s u : Reader} {rest : List Char} {m : Mode}

/-! ## Operands -/

theorem readSelector_eq_ok {sel : Selector} :
    readSelector u = .ok (sel, s) ↔ readStep u = .ok (.selector sel, s) := by
  unfold readSelector
  rcases readStep u with e | ⟨step, t⟩
  · simp
  · cases step <;> simp

theorem read_ne_end (hr : r.AtNode .operand) : r.read ≠ (.ok false, s) := by
  intro h
  obtain ⟨a, hr, -⟩ := hr
  have complete := ((Reader.read_end_iff hr).1 ⟨s, h⟩).2
  unfold Reader.isComplete at complete
  rw [hr.mode] at complete
  cases complete

theorem readReference_sound {a : Token} {p : Reference} (hr : r.Is a .operand)
    (h : readReference r = .ok (p, s)) :
    a = p.origin.token ∧
      ∃ v, Many (IsSelector .longest true) p.steps r.rest v.rest ∧ OperandEnds v s := by
  unfold readReference at h
  rcases ho : r.origin? with _ | origin <;> rw [ho] at h
  · cases h
  have ha : a = origin.token := by
    unfold Reader.origin? at ho
    rw [hr.token] at ho
    cases a <;> cases ho <;> rfl
  obtain ⟨⟨steps, v⟩, hsteps, h⟩ := bind_eq_ok h
  cases h
  refine ⟨ha, ?_⟩
  have node : r.AtNode .operand := ⟨a, hr, by cases origin <;> rw [ha] <;> rfl, nofun⟩
  obtain ⟨v, hmany, hv, hend⟩ := readSteps_sound (.inr rfl)
    (fun r u a s starts h => readStep_sound (.inr rfl) starts (readSelector_eq_ok.1 h)) node hsteps
  rcases hend with hread | ⟨-, -, ends⟩
  · exact absurd hread (read_ne_end hv)
  · exact ⟨v, hmany, ends⟩

theorem readReference_complete {a : Token} {p : Reference} {mid : List Char} (hr : r.Is a .operand)
    (ha : a = p.origin.token) (h : Many (IsSelector .longest true) p.steps r.rest mid) :
    ∃ v, v.AtNode .operand ∧ v.rest = mid ∧
      ∀ s, v.read = (.ok true, s) → OperandEnds v s → readReference r = .ok (p, s) := by
  have node : r.AtNode .operand := ⟨a, hr, by rw [ha]; cases p.origin <;> rfl, nofun⟩
  have origin : r.origin? = some p.origin := by
    unfold Reader.origin?
    rw [hr.token, ha]
    cases p.origin <;> rfl
  obtain ⟨v, hv, hrest, hend⟩ := readSteps_complete readSelector readSelector_forward
    (fun r a rest hr h => by
      obtain ⟨u, s, hread, starts, hs, rest⟩ := readStep_complete hr (.inr rfl) h
      exact ⟨u, s, hread, starts, readSelector_eq_ok.2 hs, rest⟩) node h
  refine ⟨v, hv, hrest, fun s hread ends => ?_⟩
  unfold readReference
  rw [origin]
  simp only [hend s (.inr ⟨hread, rfl, ends⟩), bind, Except.bind]
  rfl

/-! ## Lists -/

theorem decimal_eq_ok {d : Decimal} : r.decimal = .ok d ↔ Decimal.parse? r.text = some d := by
  unfold Reader.decimal
  cases Decimal.parse? r.text <;> simp

/-- An item of a list of operands was read. -/
def ItemRead (comma : Bool) (r u : Reader) : Prop :=
  ∃ t, t.isLiteral ∧ u.Is t .list ∧ Entry comma true t u.lexeme r.rest u.rest

/-- The end of a list of operands was read. -/
def ListCloses (r u : Reader) : Prop :=
  u.Is .endList .operand ∧ Mark .longest true .endList r.rest u.rest

theorem listItem_reads {a : Token} (hr : r.Is a .list) (ha : a.isLiteral)
    (h : r.read = (.ok true, u)) : ItemRead true r u ∨ ListCloses r u := by
  obtain ⟨comma, t, n, hf, hu, hentry, -⟩ := Reader.reads_sound hr h
  rcases hf.listItem ha with ⟨rfl, ht, rfl⟩ | ⟨rfl, rfl, rfl⟩
  · exact .inl ⟨t, ht, hu, hentry⟩
  · exact .inr ⟨hu, _, hentry⟩

theorem listItem_read {a t : Token} (hr : r.Is a .list) (ha : a.isLiteral)
    (h : r.read = (.ok true, u)) (ht : u.token = some t) (hlit : t.isLiteral) :
    u.Is t .list ∧ Entry true true t u.lexeme r.rest u.rest := by
  rcases listItem_reads hr ha h with ⟨t', -, hu, hentry⟩ | ⟨hu, -⟩
  · obtain rfl := hu.of_token ht
    exact ⟨hu, hentry⟩
  · obtain rfl := hu.of_token ht
    rcases hlit with he | he <;> cases he

theorem listEnd_read {a : Token} (hr : r.Is a .list) (ha : a.isLiteral)
    (h : r.read = (.ok true, u)) (ht : u.token = some .endList) : ListCloses r u := by
  rcases listItem_reads hr ha h with ⟨t, hlit, hu, -⟩ | closes
  · obtain rfl := hu.of_token ht
    rcases hlit with he | he <;> cases he
  · exact closes

theorem listStart_reads (hr : r.Is .startList .list) (h : r.read = (.ok true, u)) :
    ItemRead false r u ∨ ListCloses r u := by
  obtain ⟨comma, t, n, hf, hu, hentry, -⟩ := Reader.reads_sound hr h
  rcases hf.listStart with ⟨rfl, ⟨ht, rfl⟩ | ⟨rfl, rfl⟩⟩
  · exact .inl ⟨t, ht, hu, hentry⟩
  · exact .inr ⟨hu, _, hentry⟩

theorem readList_next {strings : List String} {numbers : List Decimal}
    (h : r.read = (.ok true, u)) :
    readList strings numbers r =
      match u.token with
      | some .string => readList (strings ++ [u.text]) numbers u
      | some .number => u.decimal >>= fun d => readList strings (numbers ++ [d]) u
      | some .endList =>
        if numbers.isEmpty then .ok (.strings strings, u)
        else if strings.isEmpty then .ok (.numbers numbers, u)
        else .error (.malformed u.position .mixedList)
      | _ => .error u.unexpected := by
  have hn : r.next "']'" = .ok u := Reader.next_eq_ok.2 h
  rw [readList]
  split
  · next he => cases he.symm.trans hn
  · next he =>
    cases he.symm.trans hn
    rcases u.token with _ | t
    · rfl
    cases t
    case number => rcases u.decimal with e | d <;> rfl
    all_goals rfl

/-- What is left of a list behind an item: items of one kind, none of the other before. -/
def ListEnds (strings : List String) (numbers : List Decimal) (o : Operand) (r s : Reader) : Prop :=
  (numbers = [] ∧ ∃ more mid, o = .strings (strings ++ more) ∧
      Many (Further (IsString .longest)) more r.rest mid ∧ Mark .longest true .endList mid s.rest) ∨
    strings = [] ∧ ∃ more mid, o = .numbers (numbers ++ more) ∧
      Many (Further (IsDecimal .longest)) more r.rest mid ∧ Mark .longest true .endList mid s.rest

theorem readList_sound_more {a : Token} {strings : List String} {numbers : List Decimal}
    {o : Operand} (hr : r.Is a .list) (ha : a.isLiteral)
    (h : readList strings numbers r = .ok (o, s)) :
    s.Is .endList .operand ∧ ListEnds strings numbers o r s := by
  -- Items of the other kind may be read on, but then the end of the list is an error.
  fun_induction readList strings numbers r generalizing a with
  | case1 | case3 | case7 | case8 => cases h
  | case2 strings numbers r u hn ht ih =>
    obtain ⟨hu, next, hcomma, hword⟩ :=
      listItem_read hr ha (Reader.next_eq_ok.1 hn) ht (.inl rfl)
    obtain ⟨hs, ⟨rfl, more, mid, rfl, hmore, hend⟩ | ⟨he, -⟩⟩ := ih hu (.inl rfl) h
    · exact ⟨hs, .inl ⟨rfl, u.text :: more, mid, by rw [List.append_assoc]; rfl,
        .cons ⟨next, hcomma, _, hword, rfl⟩ hmore, hend⟩⟩
    · simp at he
  | case4 strings numbers r u hn ht d hd ih =>
    obtain ⟨hu, next, hcomma, hword⟩ :=
      listItem_read hr ha (Reader.next_eq_ok.1 hn) ht (.inr rfl)
    obtain ⟨hs, ⟨he, -⟩ | ⟨rfl, more, mid, rfl, hmore, hend⟩⟩ := ih hu (.inr rfl) h
    · simp at he
    · exact ⟨hs, .inr ⟨rfl, d :: more, mid, by rw [List.append_assoc]; rfl,
        .cons ⟨next, hcomma, _, hword, decimal_eq_ok.1 hd⟩ hmore, hend⟩⟩
  | case5 strings numbers r u hn ht hempty =>
    cases h
    obtain ⟨hu, hend⟩ := listEnd_read hr ha (Reader.next_eq_ok.1 hn) ht
    exact ⟨hu, .inl ⟨List.isEmpty_iff.1 hempty, [], r.rest, by rw [List.append_nil], .nil _,
      hend⟩⟩
  | case6 strings numbers r u hn ht hsome hempty =>
    cases h
    obtain ⟨hu, hend⟩ := listEnd_read hr ha (Reader.next_eq_ok.1 hn) ht
    exact ⟨hu, .inr ⟨List.isEmpty_iff.1 hempty, [], r.rest, by rw [List.append_nil], .nil _,
      hend⟩⟩

theorem readList_sound {o : Operand} {cs : List Char} (hr : r.Is .startList .list)
    (hcs : Mark .longest true .startList cs r.rest) (h : readList [] [] r = .ok (o, s)) :
    s.Is .endList .operand ∧ IsSide .longest (.literal o) cs s.rest := by
  have hread : ∃ u, r.read = (.ok true, u) := by
    rw [readList] at h
    split at h
    · cases h
    · next hn => exact ⟨_, Reader.next_eq_ok.1 hn⟩
  obtain ⟨u, hread⟩ := hread
  rw [readList_next hread] at h
  rcases listStart_reads hr hread with ⟨t, rfl | rfl, hu, hword⟩ | ⟨hu, hend⟩ <;> rw [hu.token] at h
  · obtain ⟨hs, ⟨-, more, mid, rfl, hmore, hend⟩ | ⟨he, -⟩⟩ := readList_sound_more hu (.inl rfl) h
    · exact ⟨hs, .strings hcs (.mk ⟨_, hword, rfl⟩ hmore) hend⟩
    · cases he
  · obtain ⟨d, hd, h⟩ := bind_eq_ok h
    obtain ⟨hs, ⟨he, -⟩ | ⟨-, more, mid, rfl, hmore, hend⟩⟩ := readList_sound_more hu (.inr rfl) h
    · cases he
    · exact ⟨hs, .numbers hcs (.mk ⟨_, hword, decimal_eq_ok.1 hd⟩ hmore) hend⟩
  · cases h
    exact ⟨hu, .empty hcs hend⟩

theorem reads_listEnd {a : Token} (hr : r.Is a .list) (ha : a = .startList ∨ a.isLiteral)
    (h : Mark .longest true .endList r.rest rest) :
    ∃ u, r.read = (.ok true, u) ∧ u.Is .endList .operand ∧ u.rest = rest :=
  reads_behind hr (.listEnd (ha.imp_right fun ha => ⟨ha, rfl⟩)) h trivial nofun

theorem readList_complete_strings {a : Token} {more : List String} {mid : List Char}
    (strings : List String) (hr : r.Is a .list) (ha : a.isLiteral)
    (h : Many (Further (IsString .longest)) more r.rest mid)
    (hend : Mark .longest true .endList mid rest) :
    ∃ s, readList strings [] r = .ok (.strings (strings ++ more), s) ∧ s.Is .endList .operand ∧
      s.rest = rest := by
  induction more generalizing r a strings with
  | nil =>
    cases h
    obtain ⟨u, hread, hu, hrest⟩ := reads_listEnd hr (.inr ha) hend
    refine ⟨u, ?_, hu, hrest⟩
    rw [readList_next hread, hu.token, List.append_nil]
    rfl
  | cons x more ih =>
    cases h with
    | cons hitem hmore =>
      obtain ⟨next, hcomma, lexeme, hword, rfl⟩ := hitem
      obtain ⟨u, hread, hu, rfl, rfl⟩ := Reader.reads_complete hr (.furtherItem ha (.inl rfl))
        ⟨next, hcomma, hword⟩ trivial nofun
      obtain ⟨s, hs, hclosed, hrest⟩ := ih (strings ++ [u.text]) hu (.inl rfl) hmore
      refine ⟨s, ?_, hclosed, hrest⟩
      rw [readList_next hread, hu.token]
      exact hs.trans (by rw [List.append_assoc]; rfl)

theorem readList_complete_numbers {a : Token} {more : List Decimal} {mid : List Char}
    (numbers : List Decimal) (hnumbers : numbers ≠ []) (hr : r.Is a .list) (ha : a.isLiteral)
    (h : Many (Further (IsDecimal .longest)) more r.rest mid)
    (hend : Mark .longest true .endList mid rest) :
    ∃ s, readList [] numbers r = .ok (.numbers (numbers ++ more), s) ∧ s.Is .endList .operand ∧
      s.rest = rest := by
  have stops : Stops isNumberPart mid := hend.stops rfl rfl rfl
  induction more generalizing r a numbers with
  | nil =>
    cases h
    obtain ⟨u, hread, hu, hrest⟩ := reads_listEnd hr (.inr ha) hend
    refine ⟨u, ?_, hu, hrest⟩
    rw [readList_next hread, hu.token, List.append_nil]
    simp [hnumbers]
  | cons d more ih =>
    cases h with
    | cons hitem hmore =>
      obtain ⟨next, hcomma, lexeme, hword, hd⟩ := hitem
      have whole : Fits a .list .number lexeme := by
        rcases ha with rfl | rfl <;> nofun
      obtain ⟨u, hread, hu, rfl, rfl⟩ := Reader.reads_complete hr (.furtherItem ha (.inr rfl))
        ⟨next, hcomma, hword⟩ (hmore.stops_further stops rfl rfl) whole
      obtain ⟨s, hs, hclosed, hrest⟩ := ih (numbers ++ [d]) (by simp) hu (.inr rfl) hmore
      refine ⟨s, ?_, hclosed, hrest⟩
      rw [readList_next hread, hu.token]
      simp only [decimal_eq_ok.2 hd, bind, Except.bind]
      exact hs.trans (by rw [List.append_assoc]; rfl)

/-! ## Right sides -/

/-- A token that ends what an operator compares with. -/
def Token.endsSide (a : Token) : Prop :=
  a.isLiteral ∨ a = .regex ∨ a = .endList ∨ a = .operator .isEmpty

/-- The end of an expression was read. -/
def ExpressionCloses (r s : Reader) : Prop :=
  s.Is .endExpression .bracket ∧ Mark .longest true .endExpression r.rest s.rest

theorem expressionCloses {a : Token} (hr : r.Is a .operand) (ha : a.endsSide)
    (h : r.nextToken .endExpression = .ok s) : ExpressionCloses r s := by
  obtain ⟨comma, t, n, hf, hs, hentry, -⟩ := Reader.reads_sound hr (Reader.nextToken_eq_ok.1 h).1
  obtain ⟨rfl, rfl, rfl⟩ := hf.side ha
  exact ⟨hs, _, hentry⟩

theorem nextToken_expression {a : Token} (hr : r.Is a .operand)
    (ha : a.isNode .operand = true ∨ a.endsSide)
    (h : Mark .longest true .endExpression r.rest rest) :
    ∃ s, r.nextToken .endExpression = .ok s ∧ r.read = (.ok true, s) ∧
      s.Is .endExpression .bracket ∧ s.rest = rest := by
  obtain ⟨s, hread, hs, hrest⟩ := reads_behind hr (.expressionEnd ha) h trivial nofun
  exact ⟨s, Reader.nextToken_eq_ok.2 ⟨hread, hs.token⟩, hread, hs, hrest⟩

theorem OperandEnds.closes (h : OperandEnds r s) (ht : s.token = some .endExpression) :
    ExpressionCloses r s := by
  rcases h with h | ⟨op, hs, -⟩
  · exact h
  · cases hs.of_token ht

theorem readSide_sound {op : Operator} {side : Side} (hr : r.Is (.operator op) .operand)
    (hop : op ≠ .isEmpty) (h : readSide r = .ok (side, s)) :
    ∃ mid, IsSide .longest side r.rest mid ∧ Mark .longest true .endExpression mid s.rest ∧
      s.Is .endExpression .bracket := by
  unfold readSide at h
  obtain ⟨u, hn, h⟩ := bind_eq_ok h
  obtain ⟨comma, t, n, hf, hu, hentry, -⟩ := Reader.reads_sound hr (Reader.next_eq_ok.1 hn)
  have path (origin : Origin) (ht : t = origin.token) (hm : n = .operand)
      (hmark : Mark .longest true t r.rest u.rest)
      (h : (readReference u >>= fun x => if x.2.token = some Token.endExpression then
        pure (Side.reference x.1, x.2) else throw x.2.unexpected) = .ok (side, s)) :
      ∃ mid, IsSide .longest side r.rest mid ∧ Mark .longest true .endExpression mid s.rest ∧
        s.Is .endExpression .bracket := by
    subst hm
    obtain ⟨⟨p, v⟩, hp, h⟩ := bind_eq_ok h
    simp only at h
    split at h
    · next hv =>
      cases h
      obtain ⟨ht', w, hsteps, hends⟩ := readReference_sound hu hp
      obtain ⟨hs, hend⟩ := hends.closes hv
      exact ⟨w.rest, .reference (.mk (ht' ▸ hmark) hsteps), hend, hs⟩
    · cases h
  rcases hf.comparison hop with ⟨rfl, ⟨rfl | rfl | (rfl | rfl) | rfl, rfl⟩ | ⟨rfl, rfl⟩⟩ <;>
    simp only [hu.token] at h
  · exact path .current rfl rfl ⟨_, hentry⟩ h
  · exact path .document rfl rfl ⟨_, hentry⟩ h
  · obtain ⟨v, hv, h⟩ := bind_eq_ok h
    cases h
    obtain ⟨hs, hend⟩ := expressionCloses hu (.inl (.inl rfl)) hv
    exact ⟨u.rest, .string ⟨_, hentry, rfl⟩, hend, hs⟩
  · obtain ⟨d, hd, h⟩ := bind_eq_ok h
    obtain ⟨v, hv, h⟩ := bind_eq_ok h
    cases h
    obtain ⟨hs, hend⟩ := expressionCloses hu (.inl (.inr rfl)) hv
    exact ⟨u.rest, .number ⟨_, hentry, decimal_eq_ok.1 hd⟩, hend, hs⟩
  · obtain ⟨v, hv, h⟩ := bind_eq_ok h
    cases h
    obtain ⟨hs, hend⟩ := expressionCloses hu (.inr (.inl rfl)) hv
    exact ⟨u.rest, .regex hentry, hend, hs⟩
  · obtain ⟨⟨o, v⟩, ho, h⟩ := bind_eq_ok h
    obtain ⟨w, hw, h⟩ := bind_eq_ok h
    cases h
    obtain ⟨hv, hside⟩ := readList_sound hu ⟨_, hentry⟩ ho
    obtain ⟨hs, hend⟩ := expressionCloses hv (.inr (.inr (.inl rfl))) hw
    exact ⟨v.rest, hside, hend, hs⟩

theorem reads_origin {a : Token} {origin : Origin} (hr : r.Is a .operand)
    (ha : a = .startExpression ∨ ∃ op, op ≠ .isEmpty ∧ a = .operator op)
    (h : Mark .longest true origin.token r.rest rest) :
    ∃ u, r.read = (.ok true, u) ∧ u.Is origin.token .operand ∧ u.rest = rest := by
  cases origin with
  | current => exact reads_behind hr (.operandPath ha (.inl rfl)) h trivial nofun
  | document => exact reads_behind hr (.operandPath ha (.inr rfl)) h trivial nofun

theorem reads_side {op : Operator} {t : Token} {lexeme mid : List Char}
    (hr : r.Is (.operator op) .operand) (hop : op ≠ .isEmpty) (ht : t.isLiteral ∨ t = .regex)
    (h : Word .longest true t lexeme r.rest mid) (hb : t.Bounded mid)
    (hend : Mark .longest true .endExpression mid rest) :
    ∃ u s, r.next "operand" = .ok u ∧ u.token = some t ∧ u.lexeme = lexeme ∧
      u.nextToken .endExpression = .ok s ∧ s.Is .endExpression .bracket ∧ s.rest = rest := by
  obtain ⟨u, hread, hu, hlexeme, rfl⟩ := Reader.reads_complete hr (.operand hop ht) h hb nofun
  have ends : t.endsSide := by
    rcases ht with ht | ht
    · exact .inl ht
    · exact .inr (.inl ht)
  obtain ⟨s, hs, -, hclosed, hrest⟩ := nextToken_expression hu (.inr ends) hend
  exact ⟨u, s, Reader.next_eq_ok.2 hread, hu.token, hlexeme, hs, hclosed, hrest⟩

theorem readSide_complete_list {op : Operator} {o : Operand} {a b : List Char}
    (hr : r.Is (.operator op) .operand) (hop : op ≠ .isEmpty)
    (hopen : Mark .longest true .startList r.rest a)
    (hlist : ∀ u : Reader, u.Is .startList .list → u.rest = a →
      ∃ v, readList [] [] u = .ok (o, v) ∧ v.Is .endList .operand ∧ v.rest = b)
    (hend : Mark .longest true .endExpression b rest) :
    ∃ s, readSide r = .ok (.literal o, s) ∧ s.Is .endExpression .bracket ∧ s.rest = rest := by
  obtain ⟨u, hread, hu, hua⟩ := reads_behind hr (.list hop) hopen trivial nofun
  obtain ⟨v, hv, hclosed, rfl⟩ := hlist u hu hua
  obtain ⟨s, hs, -, hclosed, hrest⟩ :=
    nextToken_expression hclosed (.inr (.inr (.inr (.inl rfl)))) hend
  refine ⟨s, ?_, hclosed, hrest⟩
  unfold readSide
  rw [Reader.next_eq_ok.2 hread]
  simp only [bind, Except.bind, hu.token, hv, hs]
  rfl

theorem readSide_complete_reference {op : Operator} {origin : Origin} {steps : List Selector}
    {next mid : List Char} (hr : r.Is (.operator op) .operand) (hop : op ≠ .isEmpty)
    (hmark : Mark .longest true origin.token r.rest next)
    (hsteps : Many (IsSelector .longest true) steps next mid)
    (hend : Mark .longest true .endExpression mid rest) :
    ∃ s, readSide r = .ok (.reference ⟨origin, steps⟩, s) ∧ s.Is .endExpression .bracket ∧
      s.rest = rest := by
  obtain ⟨u, hread, hu, rfl⟩ := reads_origin hr (.inr ⟨op, hop, rfl⟩) hmark
  obtain ⟨v, ⟨a, hv, ha, -⟩, rfl, hcomplete⟩ :=
    readReference_complete (p := ⟨origin, steps⟩) hu rfl hsteps
  obtain ⟨s, -, hread', hs, hrest⟩ := nextToken_expression hv (.inl ha) hend
  refine ⟨s, ?_, hs, hrest⟩
  have href := hcomplete s hread' (.inl ⟨hs, hrest ▸ hend⟩)
  unfold readSide
  rw [Reader.next_eq_ok.2 hread]
  simp only [bind, Except.bind, hu.token]
  cases origin <;> simp only [Origin.token, href, hs.token] <;> rfl

theorem readSide_complete {op : Operator} {side : Side} {mid : List Char}
    (hr : r.Is (.operator op) .operand) (hop : op ≠ .isEmpty)
    (h : IsSide .longest side r.rest mid) (hend : Mark .longest true .endExpression mid rest) :
    ∃ s, readSide r = .ok (side, s) ∧ s.Is .endExpression .bracket ∧ s.rest = rest := by
  have stops {p : Char → Bool} (hp : p ')' = false) (hs : p ' ' = false) : Stops p mid :=
    hend.stops rfl hp hs
  cases h with
  | reference href =>
    cases href with
    | mk hmark hsteps => exact readSide_complete_reference hr hop hmark hsteps hend
  | number hd =>
    obtain ⟨lexeme, hword, hd⟩ := hd
    obtain ⟨u, s, hread, hu, rfl, hs, hclosed, hrest⟩ :=
      reads_side hr hop (.inl (.inr rfl)) hword (stops rfl rfl) hend
    refine ⟨s, ?_, hclosed, hrest⟩
    unfold readSide
    rw [hread]
    simp only [bind, Except.bind, hu, decimal_eq_ok.2 hd, hs]
    rfl
  | string hstring =>
    obtain ⟨lexeme, hword, rfl⟩ := hstring
    obtain ⟨u, s, hread, hu, rfl, hs, hclosed, hrest⟩ :=
      reads_side hr hop (.inl (.inl rfl)) hword trivial hend
    refine ⟨s, ?_, hclosed, hrest⟩
    unfold readSide
    rw [hread]
    simp only [bind, Except.bind, hu, hs]
    rfl
  | regex hword =>
    obtain ⟨u, s, hread, hu, rfl, hs, hclosed, hrest⟩ :=
      reads_side hr hop (.inr rfl) hword (stops rfl rfl) hend
    refine ⟨s, ?_, hclosed, hrest⟩
    unfold readSide
    rw [hread]
    simp only [bind, Except.bind, hu, hs]
    rfl
  | empty hopen hclose =>
    refine readSide_complete_list hr hop hopen (fun u hu hua => ?_) hend
    obtain ⟨v, hread, hv, hrest⟩ := reads_listEnd hu (.inl rfl) (hua ▸ hclose)
    refine ⟨v, ?_, hv, hrest⟩
    rw [readList_next hread, hv.token]
    rfl
  | strings hopen hitems hclose =>
    refine readSide_complete_list hr hop hopen (fun u hu hua => ?_) hend
    cases hitems with
    | mk hfirst hmore =>
      obtain ⟨lexeme, hword, rfl⟩ := hfirst
      subst hua
      obtain ⟨v, hread, hv, rfl, rfl⟩ :=
        Reader.reads_complete hu (.item (.inl rfl)) hword trivial nofun
      obtain ⟨w, hw, hclosed, hrest⟩ :=
        readList_complete_strings [v.text] hv (.inl rfl) hmore hclose
      refine ⟨w, ?_, hclosed, hrest⟩
      rw [readList_next hread, hv.token]
      exact hw
  | numbers hopen hitems hclose =>
    refine readSide_complete_list hr hop hopen (fun u hu hua => ?_) hend
    cases hitems with
    | @mk d _ _ _ _ hfirst hmore =>
      obtain ⟨lexeme, hword, hd⟩ := hfirst
      subst hua
      obtain ⟨v, hread, hv, rfl, rfl⟩ := Reader.reads_complete hu (.item (.inr rfl)) hword
        (hmore.stops_further (hclose.stops rfl rfl rfl) rfl rfl) nofun
      obtain ⟨w, hw, hclosed, hrest⟩ :=
        readList_complete_numbers [d] (by simp) hv (.inr rfl) hmore hclose
      refine ⟨w, ?_, hclosed, hrest⟩
      rw [readList_next hread, hv.token]
      simp only [decimal_eq_ok.2 hd, bind, Except.bind]
      exact hw

/-! ## Expressions -/

theorem readCondition_sound {c : Condition} (hr : r.Is .startExpression .operand)
    (h : readCondition r = .ok (c, s)) :
    IsCondition .longest c r.rest s.rest ∧ s.Is .endExpression .bracket := by
  unfold readCondition at h
  obtain ⟨u, hn, h⟩ := bind_eq_ok h
  obtain ⟨⟨left, v⟩, hleft, h⟩ := bind_eq_ok h
  obtain ⟨comma, t, n, hf, hu, hentry, -⟩ := Reader.reads_sound hr (Reader.next_eq_ok.1 hn)
  obtain ⟨rfl, -, rfl⟩ := hf.startExpression
  obtain ⟨rfl, w, hsteps, hends⟩ := readReference_sound hu hleft
  have href : IsReference .longest left r.rest w.rest := .mk ⟨_, hentry⟩ hsteps
  dsimp only at h
  rcases hends with ⟨hv, hmark⟩ | ⟨op, hv, hmark⟩
  · rw [hv.token] at h
    cases h
    exact ⟨.isTruthy href hmark, hv⟩
  · by_cases hop : op = .isEmpty
    · subst hop
      rw [hv.token] at h
      obtain ⟨x, hx, h⟩ := bind_eq_ok h
      cases h
      obtain ⟨hs, hend⟩ := expressionCloses hv (.inr (.inr (.inr rfl))) hx
      exact ⟨.isEmpty href hmark hend, hs⟩
    · have compared : (readSide v >>= fun p => pure (Condition.compare left op p.1, p.2)) =
          Except.ok (c, s) := by
        rw [hv.token] at h
        cases op
        case isEmpty => exact absurd rfl hop
        all_goals exact h
      obtain ⟨⟨right, x⟩, hright, hc⟩ := bind_eq_ok compared
      cases hc
      obtain ⟨mid, hside, hend, hs⟩ := readSide_sound hv hop hright
      exact ⟨.compare href hop hmark hside hend, hs⟩

theorem IsSide.stops {L : Lexicon} {side : Side} {cs rest : List Char} (h : IsSide L side cs rest) :
    Stops (· == '=') cs := by
  have number {lexeme rest : List Char} (h : Word L true .number lexeme cs rest) :
      Stops (· == '=') cs := by
    refine h.stops (fun c hc => ?_) rfl
    cases he : c == '=' with
    | false => rfl
    | true =>
      obtain rfl := beq_iff_eq.1 he
      cases hc
  cases h with
  | reference href =>
    cases href with
    | @mk origin _ _ _ _ hmark => cases origin <;> exact hmark.stops rfl rfl rfl
  | number hd =>
    obtain ⟨lexeme, hword, -⟩ := hd
    exact number hword
  | string hstring =>
    obtain ⟨lexeme, hword, -⟩ := hstring
    refine hword.stops (fun c hc => ?_) rfl
    obtain rfl : c = '\'' := beq_iff_eq.1 hc
    rfl
  | regex hword =>
    refine hword.stops (fun c hc => ?_) rfl
    obtain rfl : c = '/' := beq_iff_eq.1 hc
    rfl
  | empty hopen => exact hopen.stops rfl rfl rfl
  | strings hopen => exact hopen.stops rfl rfl rfl
  | numbers hopen => exact hopen.stops rfl rfl rfl

theorem reads_operator {a : Token} {op : Operator} (hr : r.Is a .operand)
    (ha : a.isNode .operand = true) (h : Mark .longest true (.operator op) r.rest rest)
    (hb : Stops (· == '=') rest) :
    ∃ u, r.read = (.ok true, u) ∧ u.Is (.operator op) .operand ∧ u.rest = rest :=
  reads_behind hr (.operator ha) h (fun _ he => absurd (hb '=' he) (by decide)) nofun

theorem readCondition_left {left : Reference} {mid : List Char}
    (hr : r.Is .startExpression .operand) (h : IsReference .longest left r.rest mid) :
    ∃ u v a, r.next "'@' or '$'" = .ok u ∧ v.Is a .operand ∧ a.isNode .operand = true ∧
      v.rest = mid ∧ ∀ s, v.read = (.ok true, s) → OperandEnds v s →
        readReference u = .ok (left, s) := by
  cases h with
  | @mk origin steps _ next _ hmark hsteps =>
    obtain ⟨u, hread, hu, rfl⟩ := reads_origin hr (.inl rfl) hmark
    obtain ⟨v, ⟨a, hv, ha, -⟩, hrest, hcomplete⟩ :=
      readReference_complete (p := ⟨origin, steps⟩) hu rfl hsteps
    exact ⟨u, v, a, Reader.next_eq_ok.2 hread, hv, ha, hrest, hcomplete⟩

theorem readCondition_complete {c : Condition} (hr : r.Is .startExpression .operand)
    (h : IsCondition .longest c r.rest rest) :
    ∃ s, readCondition r = .ok (c, s) ∧ s.Is .endExpression .bracket ∧ s.rest = rest := by
  cases h with
  | isTruthy hleft hend =>
    obtain ⟨u, v, a, hu, hv, ha, rfl, hcomplete⟩ := readCondition_left hr hleft
    obtain ⟨s, -, hread, hs, hrest⟩ := nextToken_expression hv (.inl ha) hend
    refine ⟨s, ?_, hs, hrest⟩
    unfold readCondition
    rw [hu]
    simp only [bind, Except.bind, hcomplete s hread (.inl ⟨hs, hrest ▸ hend⟩), hs.token]
    rfl
  | isEmpty hleft hop hend =>
    obtain ⟨u, v, a, hu, hv, ha, rfl, hcomplete⟩ := readCondition_left hr hleft
    obtain ⟨w, hread, hw, rfl⟩ := reads_operator hv ha hop (hend.stops rfl rfl rfl)
    obtain ⟨s, hs, -, hclosed, hrest⟩ :=
      nextToken_expression hw (.inr (.inr (.inr (.inr rfl)))) hend
    refine ⟨s, ?_, hclosed, hrest⟩
    unfold readCondition
    rw [hu]
    simp only [bind, Except.bind, hcomplete w hread (.inr ⟨_, hw, hop⟩), hw.token, hs]
    rfl
  | @compare left op right _ _ _ _ _ hleft hne hop hright hend =>
    obtain ⟨u, v, a, hu, hv, ha, rfl, hcomplete⟩ := readCondition_left hr hleft
    obtain ⟨w, hread, hw, rfl⟩ := reads_operator hv ha hop hright.stops
    obtain ⟨s, hs, hclosed, hrest⟩ := readSide_complete hw hne hright hend
    refine ⟨s, ?_, hclosed, hrest⟩
    unfold readCondition
    rw [hu]
    simp only [bind, Except.bind, hcomplete w hread (.inr ⟨_, hw, hop⟩), hw.token]
    cases op
    case isEmpty => exact absurd rfl hne
    all_goals
      simp only [hs]
      rfl

end Stencil.Path
