import Stencil.Error
import Stencil.Parameter.Scope
import Stencil.Slot.Progress
import Stencil.Slot.Range
import Stencil.Slot.Registry

/-!
# Rendering slot text

Every slot is replaced by the text of its reference, changed by the modifiers from left to right. A
condition replaces that text by one of its branches, which is slot text itself. A reference to
nothing is the empty text; a malformed slot fails the whole text.
-/

namespace Stencil.Slot

/-- The first match of a regular expression in a text, empty where there is none. -/
def firstMatch (literal value : String) : Except SlotError String :=
  match Regex.compileLiteral literal with
  | .error pattern => .error (.invalidRegex pattern)
  | .ok compiled =>
    .ok (match compiled.find value.toList with
      | some (_, found) => String.ofList found
      | none => "")

/-- Whether a comparison holds. Texts are equal as they stand; the order is that of numbers, and
does not hold where either side is none. -/
def Comparison.holds (op : Comparison) (left right : String) : Bool :=
  match op with
  | .equal => left == right
  | .notEqual => left != right
  | .less => order? == some .lt
  | .lessEq => order? == some .lt || order? == some .eq
  | .greater => order? == some .gt
  | .greaterEq => order? == some .gt || order? == some .eq
where
  order? : Option Ordering := do
    return (← Decimal.parse? left).compare (← Decimal.parse? right)

/-- The branches of a condition. -/
structure Branches where
  yes : String
  no : String

def Branches.choose (b : Branches) (holds : Bool) : String := if holds then b.yes else b.no

/-- The branches behind a condition, the second one empty where it is missing, and the lexer behind
them. -/
def readBranches (l : Lexer) : Except SlotError (Branches × Lexer) :=
  match l.next with
  | (.error e, _) => .error e
  | (.ok (some (.literal yes)), m) =>
    match m.next with
    | (.error e, _) => .error e
    | (.ok (some .stop), _) => .ok (⟨yes, ""⟩, m)
    | (.ok (some .else_), n) =>
      match n.next with
      | (.error e, _) => .error e
      | (.ok (some (.literal no)), k) => .ok (⟨yes, no⟩, k)
      | (.ok _, k) => .error (.malformed k.position .elseBranchExpected)
    | (.ok _, n) => .error (.malformed n.position .branchEndExpected)
  | (.ok _, m) => .error (.malformed m.position .branchExpected)

/-- The comparand behind a comparison, and the lexer behind it. -/
def readComparand (l : Lexer) : Except SlotError (String × Lexer) :=
  match l.next with
  | (.error e, _) => .error e
  | (.ok (some (.literal body)), m) => .ok (body, m)
  | (.ok _, m) => .error (.malformed m.position .comparandExpected)

/-- The lexer behind the question mark that follows a comparison. -/
def readCondition (l : Lexer) : Except SlotError Lexer :=
  match l.next with
  | (.error e, _) => .error e
  | (.ok (some .condition), m) => .ok m
  | (.ok _, m) => .error (.malformed m.position .conditionExpected)

theorem readBranches_lt {l m : Lexer} {b : Branches} (h : readBranches l = .ok (b, m)) :
    m.rest.length < l.rest.length ∧ ∀ holds, (b.choose holds).toList.length < l.rest.length := by
  unfold readBranches at h
  split at h
  · cases h
  · next yes m' hl =>
    have short := Lexer.next_lt hl
    have small := Lexer.literal_lt hl
    split at h
    · cases h
    · cases h
      refine ⟨short, fun holds => ?_⟩
      cases holds
      · simp [Branches.choose]
        omega
      · simpa [Branches.choose] using small
    · next n hn =>
      have := Lexer.next_lt hn
      split at h
      · cases h
      · next no k hk =>
        cases h
        have := Lexer.next_lt hk
        have := Lexer.literal_lt hk
        refine ⟨by omega, fun holds => ?_⟩
        cases holds
        · simp only [Branches.choose]
          exact Nat.lt_of_lt_of_le this (by omega)
        · simpa [Branches.choose] using small
      · cases h
    · cases h
  · cases h

theorem readComparand_lt {l m : Lexer} {body : String} (h : readComparand l = .ok (body, m)) :
    m.rest.length < l.rest.length ∧ body.toList.length < l.rest.length := by
  unfold readComparand at h
  split at h
  · cases h
  · next hl =>
    cases h
    exact ⟨Lexer.next_lt hl, Lexer.literal_lt hl⟩
  · cases h

theorem readCondition_lt {l m : Lexer} (h : readCondition l = .ok m) :
    m.rest.length < l.rest.length := by
  unfold readCondition at h
  split at h
  · cases h
  · next hl =>
    cases h
    exact Lexer.next_lt hl
  · cases h

/-- The text from a lexer on. `current` is the text of the slot that the lexer stands in. -/
def renderFrom (registry : Registry) (ctx : Parameter) (current : String) (l : Lexer) :
    Except Error String :=
  match _h : l.next with
  | (.error e, _) => .error (.slot e)
  | (.ok none, _) => .ok ""
  | (.ok (some t), m) =>
    match t with
    | .text s =>
      match renderFrom registry ctx current m with
      | .error e => .error e
      | .ok rest => .ok (s ++ rest)
    | .start => renderFrom registry ctx "" m
    | .reference key =>
      match ctx.resolve key with
      | .error e => .error (.path e)
      | .ok v => renderFrom registry ctx v.text m
    | .format spec => renderFrom registry ctx (registry.apply spec current) m
    | .match_ literal =>
      match firstMatch literal current with
      | .error e => .error (.slot e)
      | .ok found => renderFrom registry ctx found m
    | .substring range =>
      match substring current range m.position with
      | .error e => .error (.slot e)
      | .ok part => renderFrom registry ctx part m
    | .condition =>
      match _hb : readBranches m with
      | .error e => .error (.slot e)
      | .ok (b, n) =>
        match renderFrom registry ctx "" (.start (b.choose (!current.isEmpty))) with
        | .error e => .error e
        | .ok chosen => renderFrom registry ctx chosen n
    | .operator op =>
      match _hc : readComparand m with
      | .error e => .error (.slot e)
      | .ok (comparand, n) =>
        match renderFrom registry ctx "" (.start comparand) with
        | .error e => .error e
        | .ok right =>
          match _hk : readCondition n with
          | .error e => .error (.slot e)
          | .ok k =>
            match _hb : readBranches k with
            | .error e => .error (.slot e)
            | .ok (b, last) =>
              match renderFrom registry ctx "" (.start (b.choose (op.holds current right))) with
              | .error e => .error e
              | .ok chosen => renderFrom registry ctx chosen last
    | .stop =>
      match renderFrom registry ctx current m with
      | .error e => .error e
      | .ok rest => .ok (current ++ rest)
    | .literal _ | .else_ => .error (.slot (.malformed m.position .strayBranch))
termination_by l.rest.length
decreasing_by
  all_goals
    have := Lexer.next_lt _h
    first
    | exact this
    | have := (readBranches_lt _hb).1
      omega
    | have := (readBranches_lt _hb).2 (!current.isEmpty)
      simp only [Lexer.start]
      omega
    | have := (readComparand_lt _hc).2
      simp only [Lexer.start]
      omega
    | have := (readComparand_lt _hc).1
      have := readCondition_lt _hk
      have := (readBranches_lt _hb).1
      omega
    | have := (readComparand_lt _hc).1
      have := readCondition_lt _hk
      have := (readBranches_lt _hb).2 (op.holds current right)
      simp only [Lexer.start]
      omega

/-- The text with every slot replaced. -/
def render (registry : Registry) (ctx : Parameter) (text : String) : Except Error String :=
  renderFrom registry ctx "" (.start text)

end Stencil.Slot
