import Stencil.Path.Evaluate

/-!
# Paths as trees

A path that is read once is a list of steps, and the expression of a filter holds the paths of its
two sides. Running the steps over a selection says what a path picks without reading anything again.
-/

namespace Stencil.Path

/-! ## Trees -/

/-- Where the path of an operand starts. -/
inductive Origin where
  | current
  | document

/-- A path inside an expression. Its steps hold no expressions of their own. -/
structure Reference where
  origin : Origin
  steps : List Selector

/-- The right side of an operator. -/
inductive Side where
  | reference (path : Reference)
  | literal (value : Operand)

/-- The expression of a filter. -/
inductive Condition where
  | isTruthy (left : Reference)
  | isEmpty (left : Reference)
  | compare (left : Reference) (op : Operator) (right : Side)

/-- A step of a path. -/
inductive PathStep where
  | select (s : Selector)
  | filter (c : Condition)

/-! ## Running steps -/

/-- Apply a function to each value of a selection, or once to none where it has no value. The
results for several values are put together, flattened once. -/
def Selection.each (f : Option Json → Selection) : Selection → Selection
  | undefined => f none
  | single v => f (some v)
  | multi xs => multi (xs.flatMap fun x => (f (some x)).flat)

/-- Run steps over a selection: each step applies to what the steps in front of it picked. -/
def run {σ : Type} (apply : σ → Option Json → Selection) : List σ → Selection → Selection
  | [], sel => sel
  | s :: ss, sel => sel.each fun v => run apply ss (apply s v)

theorem run_cons_ofOption {σ : Type} (apply : σ → Option Json → Selection) (s : σ) (ss : List σ)
    (v : Option Json) : run apply (s :: ss) (.ofOption v) = run apply ss (apply s v) := by
  cases v <;> rfl

theorem each_ofOption (f : Option Json → Selection) (sel : Selection) :
    (sel.each fun v => (Selection.ofOption v).each f) = sel.each f := by
  cases sel <;> rfl

/-! ## What filters mean -/

/-- What a path found, as one side of an operator. -/
def Selection.toOperand (sel : Selection) : Operand :=
  (sel.toJson?.map Operand.json).getD .undefined

/-- The selection that a path inside an expression starts from. -/
def Origin.selection (root : Json) (v : Option Json) : Origin → Selection
  | current => .ofOption v
  | document => .single root

def Reference.value (root : Json) (v : Option Json) (p : Reference) : Operand :=
  (run Selector.apply p.steps (p.origin.selection root v)).toOperand

def Side.value (root : Json) (v : Option Json) : Side → Operand
  | reference p => p.value root v
  | literal o => o

/-- Whether an expression holds of a value. A regular expression that cannot be read matches
nothing. -/
def Condition.holds (root : Json) (v : Option Json) : Condition → Bool
  | isTruthy left => (left.value root v).isTruthy
  | isEmpty left => !(left.value root v).isUndefined && (left.value root v).isEmpty
  | compare left op right =>
    ((left.value root v).compare op (right.value root v)).toOption.getD false

/-- What a filter picks: of an array the items that its expression holds of, of an object the object
itself if it holds of it. -/
def Condition.pick (root : Json) (c : Condition) : Option Json → Selection
  | some (.arr xs) => .multi (xs.filter fun x => c.holds root (some x))
  | some (.obj ms) => if c.holds root (some (.obj ms)) then .single (.obj ms) else .undefined
  | _ => .undefined

def PathStep.apply (root : Json) : PathStep → Option Json → Selection
  | select s => s.apply
  | filter c => c.pick root

/-- What the steps of a path pick from a document. -/
def pickFrom (root : Json) (steps : List PathStep) : Selection :=
  run (PathStep.apply root) steps (.single root)

/-! ## Regular expressions -/

/-- A side that is a regular expression can be compiled. -/
def Side.Compiles : Side → Prop
  | literal (.regex l) => (Regex.compileLiteral l).isOk
  | _ => True

def Condition.Compiles : Condition → Prop
  | compare _ _ right => right.Compiles
  | _ => True

def PathStep.Compiles : PathStep → Prop
  | filter c => c.Compiles
  | select _ => True

theorem compare_eq_error {left right : Operand} {op : Operator} {e : PathError}
    (h : left.compare op right = .error e) :
    (∃ pattern, e = .invalidRegex pattern) ∧ op = .resembles ∧
      ∃ l, right = .regex l ∧ (Regex.compileLiteral l).isOk = false := by
  unfold Operand.compare at h
  split at h
  · cases h
  · next hdef =>
    cases op <;> simp only [reduceCtorEq] at h
    unfold Operand.matchesRegex at h
    split at h
    · next t l =>
      split at h
      · cases h
      · next pattern hl =>
        cases h
        exact ⟨⟨pattern, rfl⟩, rfl, l, rfl, by rw [hl]; rfl⟩
    · cases h

end Stencil.Path
