import Stencil.Json.Basic
import Stencil.Number.Decimal
import Stencil.Path.Error
import Stencil.Regex.Literal

/-!
# Operands of filter expressions

The two sides of an operator: a value found by a path, or a literal. Numbers are compared as
decimals, and a value of one kind never equals one of another.
-/

namespace Stencil

/-- The number as a decimal, if it is within reach of decimals. -/
def JsonNumber.toDecimal? (n : JsonNumber) : Option Decimal := Decimal.parse? n.text

end Stencil

namespace Stencil.Path

inductive Operand where
  /-- What a path found. -/
  | json (value : Json)
  | number (value : Decimal)
  | string (value : String)
  /-- A literal between slashes, with its flags. -/
  | regex (literal : String)
  | strings (items : List String)
  | numbers (items : List Decimal)
  | undefined

/-- A value that can be compared with others of its kind. -/
inductive Scalar where
  | number (value : Decimal)
  | text (value : String)
  | bool (value : Bool)

def Scalar.equal : Scalar → Scalar → Bool
  | number a, number b => a.equal b
  | text a, text b => a == b
  | bool a, bool b => a == b
  | _, _ => false

def Scalar.ofJson? : Json → Option Scalar
  | .num n => n.toDecimal?.map number
  | .str s => some (text s)
  | .bool b => some (bool b)
  | _ => none

namespace Operand

def isUndefined : Operand → Bool
  | undefined => true
  | _ => false

/-- Nothing, null, false, zero and what is empty do not count as true, apart from an object. -/
def isTruthy : Operand → Bool
  | json .null => false
  | json (.bool b) => b
  | json (.num n) => (n.toDecimal?.map fun d => !d.isZero).getD true
  | json (.str s) => !s.isEmpty
  | json (.arr xs) => !xs.isEmpty
  | json (.obj _) => true
  | number d => !d.isZero
  | string s => !s.isEmpty
  | regex s => !s.isEmpty
  | strings items => !items.isEmpty
  | numbers items => !items.isEmpty
  | undefined => false

def isEmpty : Operand → Bool
  | json (.str s) => s.isEmpty
  | json (.arr xs) => xs.isEmpty
  | json (.obj ms) => ms.isEmpty
  | json .null => true
  | string s => s.isEmpty
  | strings items => items.isEmpty
  | numbers items => items.isEmpty
  | _ => false

def scalar? : Operand → Option Scalar
  | json v => Scalar.ofJson? v
  | number d => some (.number d)
  | string s => some (.text s)
  | _ => none

/-- Two scalars are equal as such; other values found by paths are equal as they stand. -/
def equal (left right : Operand) : Bool :=
  match left.scalar?, right.scalar? with
  | some l, some r => l.equal r
  | _, _ =>
    match left, right with
    | json l, json r => l.equal r
    | _, _ => false

/-- The order of two numbers. -/
def order? (left right : Operand) : Option Ordering :=
  match left.scalar?, right.scalar? with
  | some (.number l), some (.number r) => some (l.compare r)
  | _, _ => none

/-- Whether a text found by a path matches an expression. -/
def matchesRegex (left right : Operand) : Except PathError Bool :=
  match left, right with
  | json (.str text), regex literal =>
    match Regex.compileLiteral literal with
    | .ok compiled => .ok (compiled.isMatch text.toList)
    | .error pattern => .error (.invalidRegex pattern)
  | _, _ => .ok false

/-- The scalars in a list. -/
def members? : Operand → Option (List Scalar)
  | strings items => some (items.map .text)
  | numbers items => some (items.map .number)
  | json (.arr xs) => some (xs.filterMap Scalar.ofJson?)
  | _ => none

def contains (list : Operand) (needle : Scalar) : Bool :=
  (list.members?.map fun ms => ms.any fun m => m.equal needle).getD false

/-- Whether a scalar is among the members of a list. -/
def isIn (left right : Operand) : Bool :=
  (left.scalar?.map right.contains).getD false

/-- Whether a value is a scalar among the members of a list. -/
def holdsItem (list : Operand) (item : Json) : Bool :=
  ((Scalar.ofJson? item).map list.contains).getD false

def subsetOf (left right : Operand) : Bool :=
  match left with
  | json (.arr xs) => xs.all right.holdsItem
  | _ => false

def anyOf (left right : Operand) : Bool :=
  match left with
  | json (.arr xs) => xs.any right.holdsItem
  | _ => false

/-- The number of items or characters. -/
def length? : Operand → Option Nat
  | json (.arr xs) => some xs.length
  | json (.str s) => some s.length
  | string s => some s.length
  | strings items => some items.length
  | numbers items => some items.length
  | _ => none

/-- Whether the left side is as long as the right side says or is. -/
def sizeMatches (left right : Operand) : Bool :=
  match left.length? with
  | none => false
  | some n =>
    let expected := match right with
      | number d => some d
      | json (.num k) => k.toDecimal?
      | other => other.length?.map Decimal.ofNat
    (expected.map fun d => d.equal (Decimal.ofNat n)).getD false

/-- Whether an operator holds between two sides. Nothing holds of a left side that is undefined. -/
def compare (left : Operand) (op : Operator) (right : Operand) : Except PathError Bool :=
  if left.isUndefined then .ok false
  else
    match op with
    | .equal => .ok (left.equal right)
    | .notEqual => .ok (!left.equal right)
    | .less => .ok (left.order? right == some .lt)
    | .lessEq => .ok (left.order? right == some .lt || left.order? right == some .eq)
    | .greater => .ok (left.order? right == some .gt)
    | .greaterEq => .ok (left.order? right == some .gt || left.order? right == some .eq)
    | .resembles => left.matchesRegex right
    | .isIn => .ok (left.isIn right)
    | .notIn => .ok (!left.isIn right)
    | .subsetOf => .ok (left.subsetOf right)
    | .anyOf => .ok (left.anyOf right)
    | .noneOf => .ok (!left.anyOf right)
    | .size => .ok (left.sizeMatches right)
    | .isEmpty => .ok left.isEmpty

end Operand

end Stencil.Path
