import Stencil.Path.Operand
import Stencil.Path.Progress
import Stencil.Path.Selector

/-!
# Evaluating a path

A path is evaluated while it is read. Where a step has picked several values, the rest of the path
is read again for each of them. Every step is read to its end whether or not there is a value for
it, so that a malformed path is refused on any document.
-/

namespace Stencil.Path

namespace Reader

/-- The reader behind the next token. Without one, `what` was needed there. -/
def next (r : Reader) (what : String) : Except PathError Reader :=
  match r.read with
  | (.ok true, r) => .ok r
  | (.ok false, r) => .error (.malformed r.position (.missing what))
  | (.error e, _) => .error e

/-- The token read last is out of place. -/
def unexpected (r : Reader) : PathError :=
  match r.token with
  | some t => .malformed r.position (.unexpectedToken t)
  | none => .malformed r.position .endOfPath

/-- The reader behind the given token. -/
def nextToken (r : Reader) (t : Token) : Except PathError Reader := do
  let r ← r.next t.name
  if r.token = some t then return r else throw r.unexpected

/-- The number read last as an index. -/
def index (r : Reader) : Int := (Text.int? r.lexeme).getD 0

/-- The number read last as a decimal. -/
def decimal (r : Reader) : Except PathError Decimal :=
  match Decimal.parse? r.text with
  | some d => .ok d
  | none => .error (.malformed r.position (.invalidNumber r.text))

theorem bind_eq_ok {ε α β : Type} {x : Except ε α} {f : α → Except ε β} {b : β}
    (h : (x >>= f) = .ok b) : ∃ a, x = .ok a ∧ f a = .ok b := by
  cases x with
  | error e => simp [bind, Except.bind] at h
  | ok a => exact ⟨a, rfl, h⟩

theorem eq_ok_of {ε α : Type} [DecidableEq α] {x : Except ε α} {a : α}
    (h : (match x with | .ok b => decide (b = a) | .error _ => false) = true) : x = .ok a := by
  cases x with
  | error e => cases h
  | ok b => exact congrArg _ (of_decide_eq_true h)

theorem next_lt {r s : Reader} {what : String} (h : r.next what = .ok s) :
    s.rest.length < r.rest.length := by
  unfold next at h
  split at h
  · next n hr =>
    cases h
    exact read_lt hr
  · simp at h
  · simp at h

theorem nextToken_lt {r s : Reader} {t : Token} (h : r.nextToken t = .ok s) :
    s.rest.length < r.rest.length := by
  unfold nextToken at h
  cases hn : r.next t.name with
  | error e => simp [hn, bind, Except.bind] at h
  | ok n =>
    simp only [hn, bind, Except.bind] at h
    split at h
    · cases h
      exact next_lt hn
    · simp [throw, throwThe, MonadExceptOf.throw] at h

end Reader

/-! ## Lists in brackets -/

/-- The names of a bracket, the reader behind one of them. `names` are those read before, in
order. -/
def readNames (names : List String) (r : Reader) : Except PathError (Selector × Reader) :=
  match _h : r.next "']'" with
  | .error e => .error e
  | .ok s =>
    match s.token with
    | some .string => readNames (names ++ [s.text]) s
    | some .endFilter => .ok (.names names, s)
    | _ => .error s.unexpected
termination_by r.rest.length
decreasing_by exact Reader.next_lt _h

/-- The indices of a list, the reader behind one of them. -/
def readIndexList (is : List Int) (r : Reader) : Except PathError (Selector × Reader) :=
  match _h : r.next "']'" with
  | .error e => .error e
  | .ok s =>
    match s.token with
    | some .number => readIndexList (is ++ [s.index]) s
    | some .endFilter => .ok (.indices is, s)
    | _ => .error s.unexpected
termination_by r.rest.length
decreasing_by exact Reader.next_lt _h

/-- The rest of a slice, the reader behind its colon. -/
def readSlice (start : Option Int) (r : Reader) : Except PathError (Selector × Reader) := do
  let r ← r.next "']'"
  match r.token with
  | some .endFilter => return (.slice start none, r)
  | some .number =>
    let s ← r.nextToken .endFilter
    return (.slice start (some r.index), s)
  | _ => throw r.unexpected

/-- An index, a list of indices or a slice, the reader behind its first token. -/
def readIndices (r : Reader) : Except PathError (Selector × Reader) := do
  if r.token = some .slice then readSlice none r
  else
    let s ← r.next "']'"
    match s.token with
    | some .endFilter => return (.index r.index, s)
    | some .number => readIndexList [r.index, s.index] s
    | some .slice => readSlice (some r.index) s
    | _ => throw s.unexpected

/-! ## Steps -/

/-- What the tokens of a step turn out to be. -/
inductive Step where
  | selector (s : Selector)
  /-- The start of a filter expression. -/
  | expression

def readMember (r : Reader) (named : String → Selector) (all : Selector) :
    Except PathError (Step × Reader) := do
  let r ← r.next "property name or '*'"
  match r.token with
  | some .propertyName => return (.selector (named r.text), r)
  | some .wildcard => return (.selector all, r)
  | _ => throw r.unexpected

/-- The step that the reader stands in. -/
def readStep (r : Reader) : Except PathError (Step × Reader) := do
  match r.token with
  | some .child => readMember r .child .children
  | some .deepScan => readMember r .deep .descendants
  | some .startFilter =>
    let r ← r.next "filter"
    match r.token with
    | some .string =>
      let (s, r) ← readNames [r.text] r
      return (.selector s, r)
    | some .number | some .slice =>
      let (s, r) ← readIndices r
      return (.selector s, r)
    | some .wildcard =>
      let r ← r.nextToken .endFilter
      return (.selector .children, r)
    | some .startExpression => return (.expression, r)
    | _ => throw r.unexpected
  | _ => throw r.unexpected

/-! A step that is read leaves less of the path. -/

theorem readNames_lt {names : List String} {r next : Reader} {s : Selector}
    (h : readNames names r = .ok (s, next)) : next.rest.length < r.rest.length := by
  fun_induction readNames names r with
  | case1 => simp at h
  | case2 _ _ _ hr _ ih => exact Nat.lt_trans (ih h) (Reader.next_lt hr)
  | case3 _ _ _ hr => cases h; exact Reader.next_lt hr
  | case4 => simp at h

theorem readIndexList_lt {is : List Int} {r next : Reader} {s : Selector}
    (h : readIndexList is r = .ok (s, next)) : next.rest.length < r.rest.length := by
  fun_induction readIndexList is r with
  | case1 => simp at h
  | case2 _ _ _ hr _ ih => exact Nat.lt_trans (ih h) (Reader.next_lt hr)
  | case3 _ _ _ hr => cases h; exact Reader.next_lt hr
  | case4 => simp at h

theorem readSlice_lt {start : Option Int} {r next : Reader} {s : Selector}
    (h : readSlice start r = .ok (s, next)) : next.rest.length < r.rest.length := by
  unfold readSlice at h
  obtain ⟨a, ha, h⟩ := Reader.bind_eq_ok h
  have short := Reader.next_lt ha
  split at h
  · cases h; exact short
  · obtain ⟨b, hb, h⟩ := Reader.bind_eq_ok h
    cases h
    exact Nat.lt_trans (Reader.nextToken_lt hb) short
  · cases h

theorem readIndices_lt {r next : Reader} {s : Selector}
    (h : readIndices r = .ok (s, next)) : next.rest.length < r.rest.length := by
  unfold readIndices at h
  split at h
  · exact readSlice_lt h
  · obtain ⟨a, ha, h⟩ := Reader.bind_eq_ok h
    have short := Reader.next_lt ha
    split at h
    · cases h; exact short
    · exact Nat.lt_trans (readIndexList_lt h) short
    · exact Nat.lt_trans (readSlice_lt h) short
    · cases h

theorem readMember_lt {r next : Reader} {named : String → Selector} {all : Selector} {s : Step}
    (h : readMember r named all = .ok (s, next)) : next.rest.length < r.rest.length := by
  unfold readMember at h
  obtain ⟨a, ha, h⟩ := Reader.bind_eq_ok h
  have short := Reader.next_lt ha
  split at h
  · cases h; exact short
  · cases h; exact short
  · cases h

theorem readStep_lt {r next : Reader} {s : Step} (h : readStep r = .ok (s, next)) :
    next.rest.length < r.rest.length := by
  unfold readStep at h
  split at h
  · exact readMember_lt h
  · exact readMember_lt h
  · obtain ⟨a, ha, h⟩ := Reader.bind_eq_ok h
    have short := Reader.next_lt ha
    split at h
    · obtain ⟨⟨sel, b⟩, hb, h⟩ := Reader.bind_eq_ok h
      cases h
      exact Nat.lt_trans (readNames_lt hb) short
    · obtain ⟨⟨sel, b⟩, hb, h⟩ := Reader.bind_eq_ok h
      cases h
      exact Nat.lt_trans (readIndices_lt hb) short
    · obtain ⟨⟨sel, b⟩, hb, h⟩ := Reader.bind_eq_ok h
      cases h
      exact Nat.lt_trans (readIndices_lt hb) short
    · obtain ⟨b, hb, h⟩ := Reader.bind_eq_ok h
      cases h
      exact Nat.lt_trans (Reader.nextToken_lt hb) short
    · cases h; exact short
    · cases h
  · cases h

/-! ## Walking along a path -/

/-- How a step applies to a value, or to none: what it picks, and the reader behind the step. -/
abbrev StepRule := Option Json → Reader → Except PathError (Selection × Reader)

/-- A rule that never goes back in the path. -/
def StepRule.Forward (rule : StepRule) : Prop :=
  ∀ v r s next, rule v r = .ok (s, next) → next.rest.length ≤ r.rest.length

/-- One reading for each value of a list that is not empty: the results in order, and the reader
behind the last one. -/
def forEach {α : Type} (f : Json → Except PathError (α × Reader)) (v : Json) :
    List Json → Except PathError (List α × Reader)
  | [] => do
    let (a, r) ← f v
    return ([a], r)
  | w :: ws => do
    let (a, _) ← f v
    let (as, r) ← forEach f w ws
    return (a :: as, r)

/-- Apply what is left of a path to each value of a selection, or once to none where it has no
value: the results of several values are put together, flattened once. -/
def Selection.continue (rest : Option Json → Except PathError (Selection × Reader)) :
    Selection → Except PathError (Selection × Reader)
  | .undefined => rest none
  | .single v => rest (some v)
  | .multi [] => do
    let (_, r) ← rest none
    return (.multi [], r)
  | .multi (x :: xs) => do
    let (found, r) ← forEach (fun v => rest (some v)) x xs
    return (.multi (found.flatMap Selection.flat), r)

/-- Whether a token opens a step. -/
def Token.opensStep : Token → Bool
  | .child | .deepScan | .startFilter => true
  | _ => false

/-- Whether a token ends an operand. -/
def Token.endsOperand : Token → Bool
  | .operator _ | .endExpression => true
  | _ => false

/-- Apply the steps from the reader on until the path, or the operand that it is, ends. -/
def walk (rule : StepRule) (forward : rule.Forward) (sel : Selection) (r : Reader) :
    Except PathError (Selection × Reader) :=
  match _h : r.read with
  | (.error e, _) => .error e
  | (.ok false, s) => .ok (sel, s)
  | (.ok true, s) =>
    if (s.token.map Token.endsOperand).getD false then .ok (sel, s)
    else if (s.token.map Token.opensStep).getD false then
      sel.continue fun v =>
        match _hv : rule v s with
        | .error e => .error e
        | .ok (picked, t) => walk rule forward picked t
    else .error s.unexpected
termination_by r.rest.length
decreasing_by
  have := forward _ _ _ _ _hv
  have := Reader.read_lt _h
  omega

theorem forEach_last {α : Type} {f : Json → Except PathError (α × Reader)} {v : Json}
    {vs : List Json} {as : List α} {r : Reader} (h : forEach f v vs = .ok (as, r)) :
    ∃ w a, f w = .ok (a, r) := by
  induction vs generalizing v as with
  | nil =>
    obtain ⟨⟨a, s⟩, ha, h⟩ := Reader.bind_eq_ok h
    cases h
    exact ⟨v, a, ha⟩
  | cons w ws ih =>
    obtain ⟨⟨a, s⟩, -, h⟩ := Reader.bind_eq_ok h
    obtain ⟨⟨bs, t⟩, hb, h⟩ := Reader.bind_eq_ok h
    cases h
    exact ih hb

theorem continue_last {rest : Option Json → Except PathError (Selection × Reader)}
    {sel found : Selection} {r : Reader} (h : sel.continue rest = .ok (found, r)) :
    ∃ v p, rest v = .ok (p, r) := by
  unfold Selection.continue at h
  split at h
  · exact ⟨none, found, h⟩
  · next v => exact ⟨some v, found, h⟩
  · obtain ⟨⟨p, s⟩, hp, h⟩ := Reader.bind_eq_ok h
    cases h
    exact ⟨none, p, hp⟩
  · obtain ⟨⟨ps, s⟩, hp, h⟩ := Reader.bind_eq_ok h
    cases h
    obtain ⟨w, p, hw⟩ := forEach_last hp
    exact ⟨some w, p, hw⟩

theorem walk_eq (rule : StepRule) (forward : rule.Forward) (sel : Selection) (r : Reader) :
    walk rule forward sel r =
      match r.read with
      | (.error e, _) => .error e
      | (.ok false, s) => .ok (sel, s)
      | (.ok true, s) =>
        if (s.token.map Token.endsOperand).getD false then .ok (sel, s)
        else if (s.token.map Token.opensStep).getD false then
          sel.continue fun v =>
            match rule v s with
            | .error e => .error e
            | .ok (picked, t) => walk rule forward picked t
        else .error s.unexpected := by
  rw [walk]
  split
  · next h => simp [h]
  · next h => simp [h]
  · next s h =>
    simp only [h]
    split
    · rfl
    · split
      · congr 1
        funext v
        split <;> next hv => simp [hv]
      · rfl

theorem walk_le {rule : StepRule} {forward : rule.Forward} {sel found : Selection}
    {r next : Reader} (h : walk rule forward sel r = .ok (found, next)) :
    next.rest.length ≤ r.rest.length := by
  induction hn : r.rest.length using Nat.strongRecOn generalizing sel found r next with
  | ind n ih =>
    subst hn
    rw [walk_eq] at h
    split at h
    · cases h
    · next hr =>
      cases h
      exact Reader.read_end_le hr
    · next s hr =>
      have short := Reader.read_lt hr
      split at h
      · cases h
        exact Nat.le_of_lt short
      · split at h
        · obtain ⟨v, p, hv⟩ := continue_last h
          split at hv
          · cases hv
          · next t hs =>
            have := forward _ _ _ _ hs
            have := ih t.rest.length (by omega) hv rfl
            omega
        · cases h

/-! ## Filter expressions -/

/-- A step of an operand, which holds no filter expression of its own. -/
def operandStep : StepRule := fun v r =>
  match readStep r with
  | .error e => .error e
  | .ok (.selector s, r) => .ok (s.apply v, r)
  | .ok (.expression, r) => .error r.unexpected

theorem operandStep_forward : operandStep.Forward := by
  intro v r s next h
  unfold operandStep at h
  split at h
  · simp at h
  · next hr =>
    cases h
    exact Nat.le_of_lt (readStep_lt hr)
  · simp at h

/-- An operand that is a path, the reader behind its first token. -/
def operandPath (root : Json) (v : Option Json) (r : Reader) :
    Except PathError (Operand × Reader) :=
  let start : Option Selection :=
    match r.token with
    | some .current => some (.ofOption v)
    | some .root => some (.single root)
    | _ => none
  match start with
  | none => .error r.unexpected
  | some start =>
    match walk operandStep operandStep_forward start r with
    | .error e => .error e
    | .ok (sel, r) => .ok ((sel.toJson?.map Operand.json).getD .undefined, r)

/-- The items of a list, the reader behind its bracket or one of its items. -/
def readList (strings : List String) (numbers : List Decimal) (r : Reader) :
    Except PathError (Operand × Reader) :=
  match _h : r.next "']'" with
  | .error e => .error e
  | .ok s =>
    match s.token with
    | some .string => readList (strings ++ [s.text]) numbers s
    | some .number =>
      match s.decimal with
      | .error e => .error e
      | .ok d => readList strings (numbers ++ [d]) s
    | some .endList =>
      if numbers.isEmpty then .ok (.strings strings, s)
      else if strings.isEmpty then .ok (.numbers numbers, s)
      else .error (.malformed s.position .mixedList)
    | _ => .error s.unexpected
termination_by r.rest.length
decreasing_by all_goals exact Reader.next_lt _h

/-- The right side of an operator and the closing parenthesis behind it. -/
def rightOperand (root : Json) (v : Option Json) (r : Reader) :
    Except PathError (Operand × Reader) := do
  let r ← r.next "operand"
  match r.token with
  | some .current | some .root =>
    let (operand, r) ← operandPath root v r
    if r.token = some .endExpression then return (operand, r) else throw r.unexpected
  | some .number =>
    let d ← r.decimal
    return (.number d, ← r.nextToken .endExpression)
  | some .string => return (.string r.text, ← r.nextToken .endExpression)
  | some .regex => return (.regex r.text, ← r.nextToken .endExpression)
  | some .startList =>
    let (operand, r) ← readList [] [] r
    return (operand, ← r.nextToken .endExpression)
  | _ => throw r.unexpected

/-- Whether an expression holds of a value, the reader behind its opening parenthesis. -/
def expression (root : Json) (v : Option Json) (r : Reader) : Except PathError (Bool × Reader) := do
  let r ← r.next "'@' or '$'"
  let (left, r) ← operandPath root v r
  match r.token with
  | some .endExpression => return (left.isTruthy, r)
  | some (.operator .isEmpty) =>
    let r ← r.nextToken .endExpression
    return (!left.isUndefined && left.isEmpty, r)
  | some (.operator op) =>
    let (right, r) ← rightOperand root v r
    return (← left.compare op right, r)
  | _ => throw r.unexpected

/-- The items of which the expression holds. -/
def kept (items : List Json) (holds : List Bool) : List Json :=
  ((items.zip holds).filter Prod.snd).map Prod.fst

/-- What an expression picks: of an array the items that it holds of, an object if it holds of it.
Of any other value it picks nothing. -/
def filterExpression (root : Json) (v : Option Json) (r : Reader) :
    Except PathError (Selection × Reader) := do
  match v with
  | some (.arr (x :: xs)) =>
    let (holds, r) ← forEach (fun x => expression root (some x) r) x xs
    return (.multi (kept (x :: xs) holds), r)
  | some (.arr []) =>
    let (_, r) ← expression root none r
    return (.multi [], r)
  | some (.obj ms) =>
    let (holds, r) ← expression root (some (.obj ms)) r
    return (if holds then .single (.obj ms) else .undefined, r)
  | _ =>
    let (_, r) ← expression root none r
    return (.undefined, r)

/-- A step of a path. -/
def pathStep (root : Json) : StepRule := fun v r =>
  match readStep r with
  | .error e => .error e
  | .ok (.selector s, r) => .ok (s.apply v, r)
  | .ok (.expression, r) =>
    match filterExpression root v r with
    | .error e => .error e
    | .ok (sel, r) =>
      match r.nextToken .endFilter with
      | .error e => .error e
      | .ok r => .ok (sel, r)

theorem operandPath_le {root : Json} {v : Option Json} {r next : Reader} {o : Operand}
    (h : operandPath root v r = .ok (o, next)) : next.rest.length ≤ r.rest.length := by
  unfold operandPath at h
  simp only at h
  split at h
  · simp at h
  · split at h
    · simp at h
    · next hw =>
      cases h
      exact walk_le hw

theorem readList_le {strings : List String} {numbers : List Decimal} {r next : Reader}
    {o : Operand} (h : readList strings numbers r = .ok (o, next)) :
    next.rest.length ≤ r.rest.length := by
  fun_induction readList strings numbers r with
  | case1 => simp at h
  | case2 _ _ _ _ hr _ ih => exact Nat.le_trans (ih h) (Nat.le_of_lt (Reader.next_lt hr))
  | case3 => simp at h
  | case4 _ _ _ _ hr _ _ _ ih => exact Nat.le_trans (ih h) (Nat.le_of_lt (Reader.next_lt hr))
  | case5 _ _ _ _ hr => cases h; exact Nat.le_of_lt (Reader.next_lt hr)
  | case6 _ _ _ _ hr => cases h; exact Nat.le_of_lt (Reader.next_lt hr)
  | case7 => simp at h
  | case8 => simp at h

theorem rightOperand_le {root : Json} {v : Option Json} {r next : Reader} {o : Operand}
    (h : rightOperand root v r = .ok (o, next)) : next.rest.length ≤ r.rest.length := by
  unfold rightOperand at h
  obtain ⟨a, ha, h⟩ := Reader.bind_eq_ok h
  have short := Nat.le_of_lt (Reader.next_lt ha)
  have closes {b : Reader} {p q : Operand} {last : Reader}
      (hb : (a.nextToken .endExpression >>= fun s => pure (p, s)) = .ok (q, last)) :
      last.rest.length ≤ r.rest.length := by
    obtain ⟨c, hc, hb⟩ := Reader.bind_eq_ok hb
    cases hb
    exact Nat.le_trans (Nat.le_of_lt (Reader.nextToken_lt hc)) short
  have path {last : Reader}
      (hb : (operandPath root v a >>= fun x =>
        if x.2.token = some Token.endExpression then pure (x.1, x.2) else throw x.2.unexpected) =
          Except.ok (o, last)) :
      last.rest.length ≤ r.rest.length := by
    obtain ⟨⟨c, s⟩, hc, hb⟩ := Reader.bind_eq_ok hb
    simp only at hb
    split at hb
    · cases hb
      exact Nat.le_trans (operandPath_le hc) short
    · cases hb
  split at h
  · exact path h
  · exact path h
  · obtain ⟨d, -, h⟩ := Reader.bind_eq_ok h
    exact closes (b := a) h
  · exact closes (b := a) h
  · exact closes (b := a) h
  · obtain ⟨⟨c, s⟩, hc, h⟩ := Reader.bind_eq_ok h
    obtain ⟨d, hd, h⟩ := Reader.bind_eq_ok h
    cases h
    exact Nat.le_trans (Nat.le_of_lt (Reader.nextToken_lt hd)) (Nat.le_trans (readList_le hc) short)
  · cases h

theorem expression_le {root : Json} {v : Option Json} {r next : Reader} {b : Bool}
    (h : expression root v r = .ok (b, next)) : next.rest.length ≤ r.rest.length := by
  unfold expression at h
  obtain ⟨a, ha, h⟩ := Reader.bind_eq_ok h
  obtain ⟨⟨left, s⟩, hs, h⟩ := Reader.bind_eq_ok h
  have short := Nat.le_trans (operandPath_le hs) (Nat.le_of_lt (Reader.next_lt ha))
  simp only at h
  split at h
  · cases h; exact short
  · obtain ⟨c, hc, h⟩ := Reader.bind_eq_ok h
    cases h
    exact Nat.le_trans (Nat.le_of_lt (Reader.nextToken_lt hc)) short
  · obtain ⟨⟨right, t⟩, ht, h⟩ := Reader.bind_eq_ok h
    obtain ⟨c, -, h⟩ := Reader.bind_eq_ok h
    cases h
    exact Nat.le_trans (rightOperand_le ht) short
  · cases h

theorem filterExpression_le {root : Json} {v : Option Json} {r next : Reader} {s : Selection}
    (h : filterExpression root v r = .ok (s, next)) : next.rest.length ≤ r.rest.length := by
  unfold filterExpression at h
  split at h
  · obtain ⟨⟨bs, t⟩, hb, h⟩ := Reader.bind_eq_ok h
    cases h
    obtain ⟨w, b, hw⟩ := forEach_last hb
    exact expression_le hw
  all_goals
    obtain ⟨⟨b, t⟩, hb, h⟩ := Reader.bind_eq_ok h
    cases h
    exact expression_le hb

theorem pathStep_forward (root : Json) : (pathStep root).Forward := by
  intro v r s next h
  unfold pathStep at h
  split at h
  · simp at h
  · next hr =>
    cases h
    exact Nat.le_of_lt (readStep_lt hr)
  · next t hr =>
    split at h
    · simp at h
    · next hf =>
      split at h
      · simp at h
      · next hn =>
        cases h
        have := readStep_lt hr
        have := filterExpression_le hf
        have := Reader.nextToken_lt hn
        omega

/-! ## Paths -/

/-- What a path picks from a document. -/
def select (root : Json) (path : String) : Except PathError Selection :=
  match (Reader.start path).read with
  | (.error e, _) => .error e
  | (.ok false, _) => .error (.malformed 0 .rootExpected)
  | (.ok true, r) =>
    if r.token = some .root then
      match walk (pathStep root) (pathStep_forward root) (.single root) r with
      | .error e => .error e
      | .ok (sel, _) => .ok sel
    else .error (.malformed 0 .rootExpected)

/-- The value at a path in a document: none where nothing matched, and an array where a step picked
several values. -/
def evaluate (root : Json) (path : String) : Except PathError (Option Json) :=
  match select root path with
  | .error e => .error e
  | .ok sel => .ok sel.toJson?

/-- Read from `r` to the end of the path: the position there. -/
def Reader.readToEnd (r : Reader) : Except PathError Nat :=
  match _h : r.read with
  | (.error e, _) => .error e
  | (.ok false, s) => .ok s.position
  | (.ok true, s) => s.readToEnd
termination_by r.rest.length
decreasing_by exact Reader.read_lt _h

/-- The length in bytes of the path at the start of a text. -/
def embeddedLength (text : String) : Except PathError Nat :=
  (Reader.startEmbedded text).readToEnd

end Stencil.Path
