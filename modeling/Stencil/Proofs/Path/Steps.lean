import Stencil.Proofs.Path.Bracket

/-!
# Steps

The steps behind a node are read as far as the grammar has them, one after the other.
-/

namespace Stencil.Path

open Reader (bind_eq_ok)

variable {r s u : Reader} {rest : List Char} {m : Mode}

/-! ## Nodes -/

/-- The reader stands behind a value of a path or of an operand. -/
def Reader.AtNode (r : Reader) (m : Mode) : Prop :=
  ∃ a, r.Is a m ∧ a.isNode m = true ∧ (m = .path → a ≠ .current)

/-- Where steps may stand. -/
def Mode.holdsSteps (m : Mode) : Prop := m = .path ∨ m = .operand

theorem Mode.holdsSteps.facts (h : m.holdsSteps) :
    m.inBracket = false ∧ m.opened.inBracket = true ∧ m.opened.closed = m := by
  rcases h with rfl | rfl <;> exact ⟨rfl, rfl, rfl⟩

/-- A token that starts a step was read. -/
def StepStarts (m : Mode) (r u : Reader) : Prop :=
  (u.Is .child m ∧ Mark .longest (m != .path) .child r.rest u.rest) ∨
    (u.Is .deepScan m ∧ Mark .longest (m != .path) .deepScan r.rest u.rest) ∨
      (u.Is .startFilter m.opened ∧ Mark .longest (m != .path) .startFilter r.rest u.rest)

/-- A token that ends an operand was read. -/
def OperandEnds (r u : Reader) : Prop :=
  (u.Is .endExpression .bracket ∧ Mark .longest true .endExpression r.rest u.rest) ∨
    ∃ op, u.Is (.operator op) .operand ∧ Mark .longest true (.operator op) r.rest u.rest

theorem node_reads (hr : r.AtNode m) (hm : m.holdsSteps) (h : r.read = (.ok true, u)) :
    StepStarts m r u ∨ m = .operand ∧ OperandEnds r u := by
  obtain ⟨a, hr, ha, -⟩ := hr
  obtain ⟨comma, t, n, hf, hu, hentry, -⟩ := Reader.reads_sound hr h
  rcases hf.node ha hm.facts.1 with
    ⟨rfl, ⟨rfl | rfl, rfl⟩ | ⟨rfl, rfl⟩ | ⟨rfl, ⟨rfl, rfl⟩ | ⟨op, rfl, rfl⟩⟩⟩
  · exact .inl (.inl ⟨hu, _, hentry⟩)
  · exact .inl (.inr (.inl ⟨hu, _, hentry⟩))
  · exact .inl (.inr (.inr ⟨hu, _, hentry⟩))
  · exact .inr ⟨rfl, .inl ⟨hu, _, hentry⟩⟩
  · exact .inr ⟨rfl, .inr ⟨op, hu, _, hentry⟩⟩

theorem StepStarts.opens (h : StepStarts m r u) :
    (u.token.map Token.opensStep).getD false = true ∧
      (u.token.map Token.endsOperand).getD false = false := by
  rcases h with ⟨hu, -⟩ | ⟨hu, -⟩ | ⟨hu, -⟩ <;> rw [hu.token] <;> exact ⟨rfl, rfl⟩

theorem OperandEnds.ends (h : OperandEnds r u) :
    (u.token.map Token.endsOperand).getD false = true := by
  rcases h with ⟨hu, -⟩ | ⟨op, hu, -⟩ <;> rw [hu.token] <;> rfl

/-! ## Steps -/

theorem member_reads {a : Token} (hr : r.Is a m) (ha : a = .child ∨ a = .deepScan)
    (hm : m.holdsSteps) (h : r.read = (.ok true, u)) :
    u.AtNode m ∧ (u.token = some .propertyName ∧
        Word .longest (m != .path) .propertyName u.lexeme r.rest u.rest ∨
      u.token = some .wildcard ∧ Mark .longest (m != .path) .wildcard r.rest u.rest) := by
  obtain ⟨comma, t, n, hf, hu, hentry, -⟩ := Reader.reads_sound hr h
  obtain ⟨rfl, rfl | rfl, rfl⟩ := hf.name ha
  · exact ⟨⟨_, hu, rfl, nofun⟩, .inl ⟨hu.token, hentry⟩⟩
  · refine ⟨⟨_, hu, ?_, nofun⟩, .inr ⟨hu.token, _, hentry⟩⟩
    unfold Token.isNode
    rw [hm.facts.1]
    rfl

theorem readMember_sound {a : Token} {named : String → Selector} {all : Selector} {step : Step}
    (hr : r.Is a m) (ha : a = .child ∨ a = .deepScan) (hm : m.holdsSteps)
    (h : readMember r named all = .ok (step, s)) :
    s.AtNode m ∧
      ((∃ name, step = .selector (named (String.ofList name)) ∧
          Word .longest (m != .path) .propertyName name r.rest s.rest) ∨
        step = .selector all ∧ Mark .longest (m != .path) .wildcard r.rest s.rest) := by
  unfold readMember at h
  obtain ⟨u, hn, h⟩ := bind_eq_ok h
  obtain ⟨hu, hread⟩ := member_reads hr ha hm (Reader.next_eq_ok.1 hn)
  rcases hread with ⟨ht, hword⟩ | ⟨ht, hstar⟩ <;> simp only [ht] at h <;> cases h
  · exact ⟨hu, .inl ⟨_, rfl, hword⟩⟩
  · exact ⟨hu, .inr ⟨rfl, hstar⟩⟩

theorem readStep_child (h : u.token = some .child) :
    readStep u = readMember u .child .children := by
  unfold readStep
  rw [h]

theorem readStep_deepScan (h : u.token = some .deepScan) :
    readStep u = readMember u .deep .descendants := by
  unfold readStep
  rw [h]

theorem readStep_sound {step : Step} (hm : m.holdsSteps) (hu : StepStarts m r u)
    (h : readStep u = .ok (step, s)) :
    match step with
    | .selector sel => IsSelector .longest (m != .path) sel r.rest s.rest ∧ s.AtNode m
    | .expression => m = .path ∧ s.Is .startExpression .operand ∧
        ∃ mid, Mark .longest false .startFilter r.rest mid ∧
          Mark .longest true .startExpression mid s.rest := by
  rcases hu with ⟨hu, hmark⟩ | ⟨hu, hmark⟩ | ⟨hu, hmark⟩
  · rw [readStep_child hu.token] at h
    obtain ⟨hs, ⟨name, rfl, hword⟩ | ⟨rfl, hstar⟩⟩ := readMember_sound hu (.inl rfl) hm h
    · exact ⟨.child hmark hword, hs⟩
    · exact ⟨.children hmark hstar, hs⟩
  · rw [readStep_deepScan hu.token] at h
    obtain ⟨hs, ⟨name, rfl, hword⟩ | ⟨rfl, hstar⟩⟩ := readMember_sound hu (.inr rfl) hm h
    · exact ⟨.deep hmark hword, hs⟩
    · exact ⟨.descendants hmark hstar, hs⟩
  · have read := readStep_filter_sound hu hm.facts.2.1 h
    cases step with
    | selector sel =>
      obtain ⟨hbracket, hs⟩ := read
      rw [hm.facts.2.2] at hs
      exact ⟨.bracket hmark hbracket, _, hs, rfl, nofun⟩
    | expression =>
      -- No expression starts inside another one, so the steps are those of the path.
      obtain ⟨hpath, hs, hexpr⟩ := read
      obtain rfl : m = .path := hm.resolve_right fun he => by
        rw [he] at hpath
        cases hpath
      exact ⟨rfl, hs, _, hmark, hexpr⟩

theorem reads_behind {a t : Token} {n : Mode} (hr : r.Is a m) (hf : Follows a m false t n)
    (h : Mark .longest (m != .path) t r.rest rest) (hb : t.Bounded rest) (ht : t ≠ .number) :
    ∃ u, r.read = (.ok true, u) ∧ u.Is t n ∧ u.rest = rest := by
  obtain ⟨lexeme, hword⟩ := h
  obtain ⟨u, hread, hu, -, hrest⟩ := Reader.reads_complete hr hf hword hb fun h => absurd h ht
  exact ⟨u, hread, hu, hrest⟩

theorem readMember_complete {a t : Token} {lexeme : List Char} (named : String → Selector)
    (all : Selector) (hr : r.Is a m) (ha : a = .child ∨ a = .deepScan) (hm : m.holdsSteps)
    (ht : t = .propertyName ∨ t = .wildcard)
    (h : Word .longest (m != .path) t lexeme r.rest rest) :
    ∃ s, readMember r named all = .ok (.selector
        (if t = .propertyName then named (String.ofList lexeme) else all), s) ∧
      s.AtNode m ∧ s.rest = rest := by
  obtain ⟨u, hread, hu, rfl, hrest⟩ := Reader.reads_complete hr (.member ha ht) h
    (by rcases ht with rfl | rfl <;> trivial) (by rcases ht with rfl | rfl <;> nofun)
  refine ⟨u, ?_, (member_reads hr ha hm hread).1, hrest⟩
  unfold readMember
  rw [Reader.next_eq_ok.2 hread]
  rcases ht with rfl | rfl
  · simp only [bind, Except.bind, hu.token]
    rfl
  · simp only [bind, Except.bind, hu.token]
    rfl

theorem stops_member {t : Token} {lexeme cs : List Char} {inside : Bool}
    (h : Word .longest inside t lexeme cs rest) (ht : t = .propertyName ∨ t = .wildcard) :
    cs.head? ≠ some '.' := by
  intro hdot
  have stops : Stops (· == '.') cs := by
    refine h.stops (fun c hc => ?_) rfl
    rcases ht with rfl | rfl
    · cases hd : c == '.' with
      | false => rfl
      | true =>
        obtain rfl := beq_iff_eq.1 hd
        cases hc
    · obtain rfl := opensWith_sign rfl hc
      rfl
  cases stops '.' hdot

theorem readStep_complete {sel : Selector} (hr : r.AtNode m) (hm : m.holdsSteps)
    (h : IsSelector .longest (m != .path) sel r.rest rest) :
    ∃ u s, r.read = (.ok true, u) ∧ StepStarts m r u ∧ readStep u = .ok (.selector sel, s) ∧
      s.AtNode m ∧ s.rest = rest := by
  obtain ⟨a, hr, ha, -⟩ := hr
  cases h with
  | child hdot hname =>
    obtain ⟨u, hread, hu, rfl⟩ := reads_behind hr (.step ha (.inl rfl)) hdot
      (stops_member hname (.inl rfl)) nofun
    obtain ⟨s, hs, hnode, hrest⟩ :=
      readMember_complete .child .children hu (.inl rfl) hm (.inl rfl) hname
    exact ⟨u, s, hread, .inl ⟨hu, hdot⟩, (readStep_child hu.token).trans hs, hnode, hrest⟩
  | children hdot hstar =>
    obtain ⟨lexeme, hword⟩ := hstar
    obtain ⟨u, hread, hu, rfl⟩ := reads_behind hr (.step ha (.inl rfl)) hdot
      (stops_member hword (.inr rfl)) nofun
    obtain ⟨s, hs, hnode, hrest⟩ :=
      readMember_complete .child .children hu (.inl rfl) hm (.inr rfl) hword
    exact ⟨u, s, hread, .inl ⟨hu, hdot⟩, (readStep_child hu.token).trans hs, hnode, hrest⟩
  | deep hdots hname =>
    obtain ⟨u, hread, hu, rfl⟩ := reads_behind hr (.step ha (.inr rfl)) hdots trivial nofun
    obtain ⟨s, hs, hnode, hrest⟩ :=
      readMember_complete .deep .descendants hu (.inr rfl) hm (.inl rfl) hname
    exact ⟨u, s, hread, .inr (.inl ⟨hu, hdots⟩), (readStep_deepScan hu.token).trans hs, hnode,
      hrest⟩
  | descendants hdots hstar =>
    obtain ⟨lexeme, hword⟩ := hstar
    obtain ⟨u, hread, hu, rfl⟩ := reads_behind hr (.step ha (.inr rfl)) hdots trivial nofun
    obtain ⟨s, hs, hnode, hrest⟩ :=
      readMember_complete .deep .descendants hu (.inr rfl) hm (.inr rfl) hword
    exact ⟨u, s, hread, .inr (.inl ⟨hu, hdots⟩), (readStep_deepScan hu.token).trans hs, hnode,
      hrest⟩
  | bracket hopen hbracket =>
    obtain ⟨u, hread, hu, rfl⟩ := reads_behind hr (.opening ha) hopen trivial nofun
    obtain ⟨s, hs, hclosed, hrest⟩ := readStep_filter_complete hu hm.facts.2.1 hbracket
    rw [hm.facts.2.2] at hclosed
    exact ⟨u, s, hread, .inr (.inr ⟨hu, hopen⟩), hs, ⟨_, hclosed, rfl, nofun⟩, hrest⟩

/-! ## Several steps -/

section

variable {σ : Type} {step : StepReader σ} {forward : step.Forward} {item : Construction σ}
  {as : List σ} {mid : List Char}

/-- Where steps end: the path is at its end, or a token that ends an operand was read. -/
def StepsEnd (m : Mode) (v s : Reader) : Prop :=
  v.read = (.ok false, s) ∨ v.read = (.ok true, s) ∧ m = .operand ∧ OperandEnds v s

theorem readSteps_eq_ok (h : readSteps step forward r = .ok (as, s)) :
    (as = [] ∧ (r.read = (.ok false, s) ∨
        r.read = (.ok true, s) ∧ (s.token.map Token.endsOperand).getD false = true)) ∨
      ∃ a bs u t, as = a :: bs ∧ r.read = (.ok true, u) ∧
        (u.token.map Token.endsOperand).getD false = false ∧ step u = .ok (a, t) ∧
          readSteps step forward t = .ok (bs, s) := by
  rw [readSteps_eq] at h
  split at h
  · cases h
  · next hread =>
    cases h
    exact .inl ⟨rfl, .inl hread⟩
  · next u hread =>
    split at h
    · next hends =>
      cases h
      exact .inl ⟨rfl, .inr ⟨hread, hends⟩⟩
    · next hends =>
      split at h
      · obtain ⟨⟨a, t⟩, ha, h⟩ := bind_eq_ok h
        obtain ⟨⟨bs, v⟩, hbs, h⟩ := bind_eq_ok h
        cases h
        exact .inr ⟨a, bs, u, t, rfl, hread, Bool.eq_false_iff.2 hends, ha, hbs⟩
      · cases h

theorem readSteps_sound (hm : m.holdsSteps)
    (sound : ∀ r u a s, StepStarts m r u → step u = .ok (a, s) →
      item a r.rest s.rest ∧ s.AtNode m)
    (hr : r.AtNode m) (h : readSteps step forward r = .ok (as, s)) :
    ∃ v, Many item as r.rest v.rest ∧ v.AtNode m ∧ StepsEnd m v s := by
  induction as generalizing r with
  | nil =>
    refine ⟨r, .nil _, hr, ?_⟩
    rcases readSteps_eq_ok h with ⟨-, hread | ⟨hread, hends⟩⟩ | ⟨_, _, _, _, he, -⟩
    · exact .inl hread
    · rcases node_reads hr hm hread with starts | ends
      · cases starts.opens.2.symm.trans hends
      · exact .inr ⟨hread, ends⟩
    · cases he
  | cons a as ih =>
    rcases readSteps_eq_ok h with ⟨he, -⟩ | ⟨_, _, u, t, he, hread, hends, ha, hrest⟩
    · cases he
    · cases he
      rcases node_reads hr hm hread with starts | ⟨-, ends⟩
      · obtain ⟨hitem, ht⟩ := sound r u a t starts ha
        obtain ⟨v, hmany, hv, hend⟩ := ih ht hrest
        exact ⟨v, .cons hitem hmany, hv, hend⟩
      · cases ends.ends.symm.trans hends

theorem readSteps_complete (step : StepReader σ) (forward : step.Forward)
    (complete : ∀ r a rest, r.AtNode m → item a r.rest rest →
      ∃ u s, r.read = (.ok true, u) ∧ StepStarts m r u ∧ step u = .ok (a, s) ∧ s.AtNode m ∧
        s.rest = rest)
    (hr : r.AtNode m) (h : Many item as r.rest mid) :
    ∃ v, v.AtNode m ∧ v.rest = mid ∧
      ∀ s, StepsEnd m v s → readSteps step forward r = .ok (as, s) := by
  induction as generalizing r with
  | nil =>
    cases h
    refine ⟨r, hr, rfl, fun s hs => ?_⟩
    rw [readSteps_eq]
    rcases hs with hread | ⟨hread, -, ends⟩
    · rw [hread]
    · rw [hread]
      exact if_pos ends.ends
  | cons a as ih =>
    cases h with
    | cons hitem hmore =>
      obtain ⟨u, t, hread, starts, ha, ht, rfl⟩ := complete r a _ hr hitem
      obtain ⟨v, hv, hrest, hend⟩ := ih ht hmore
      refine ⟨v, hv, hrest, fun s hs => ?_⟩
      rw [readSteps_eq, hread]
      dsimp only
      rw [starts.opens.1, starts.opens.2]
      simp only [Bool.false_eq_true, if_false, if_true, ha, hend s hs, bind, Except.bind]
      rfl

end

end Stencil.Path
