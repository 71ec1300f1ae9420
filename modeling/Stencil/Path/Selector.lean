import Stencil.Json.Basic

/-!
# Selectors

What one step of a path picks from a value, and what it picks from nothing.
-/

namespace Stencil.Path

/-- What the steps so far have picked. -/
inductive Selection where
  | undefined
  | single (value : Json)
  /-- Several values, in order; further steps apply to each. -/
  | multi (items : List Json)
deriving Inhabited

namespace Selection

/-- The value of a selection: several values are an array. -/
def toJson? : Selection → Option Json
  | undefined => none
  | single v => some v
  | multi xs => some (.arr xs)

def ofOption : Option Json → Selection
  | some v => single v
  | none => undefined

/-- The values that a selection adds to those of other elements: an array adds its items. -/
def flat : Selection → List Json
  | undefined => []
  | single (.arr xs) => xs
  | single v => [v]
  | multi xs => xs

end Selection

/-- A step without a filter expression. Indices may be negative, counted from the end. -/
inductive Selector where
  | child (name : String)
  | children
  | deep (name : String)
  | descendants
  | names (names : List String)
  | index (i : Int)
  | indices (is : List Int)
  /-- Both bounds belong to the slice. -/
  | slice (start stop : Option Int)

mutual

/-- The member of an object; of an array, what its items have under the name, flattened once. -/
def property (name : String) : Json → Selection
  | .obj ms => .ofOption (Entries.find? ms name)
  | .arr xs => .multi (propertyItems name xs)
  | _ => .undefined

def propertyItems (name : String) : List Json → List Json
  | [] => []
  | x :: xs => (property name x).flat ++ propertyItems name xs

end

def children : Json → Selection
  | .obj ms => .multi (ms.map Prod.snd)
  | .arr xs => .multi xs
  | _ => .undefined

mutual

/-- The values under a name, the search going no deeper where an object has the name. -/
def deepScan (name : String) : Json → List Json
  | .obj ms =>
    match Entries.find? ms name with
    | some v => [v]
    | none => deepScanMembers name ms
  | .arr xs => deepScanItems name xs
  | _ => []

def deepScanItems (name : String) : List Json → List Json
  | [] => []
  | x :: xs => deepScan name x ++ deepScanItems name xs

def deepScanMembers (name : String) : Json.Members → List Json
  | [] => []
  | (_, v) :: ms => deepScan name v ++ deepScanMembers name ms

end

mutual

/-- All values inside a value, each before those inside it. -/
def descendants : Json → List Json
  | .obj ms => descendantsMembers ms
  | .arr xs => descendantsItems xs
  | _ => []

def descendantsItems : List Json → List Json
  | [] => []
  | x :: xs => x :: (descendants x ++ descendantsItems xs)

def descendantsMembers : Json.Members → List Json
  | [] => []
  | (_, v) :: ms => v :: (descendants v ++ descendantsMembers ms)

end

/-- A position in 64 bits, a negative one counted from the end of `length` items. -/
def fromEnd (length position : Int64) : Int64 :=
  if position < 0 then length + position else position

/-- An index as a position in an array. One beyond 64 bits comes to the nearest within. -/
def toPosition (length : Nat) (i : Int) : Int64 := fromEnd (.ofNat length) (.ofIntClamp i)

/-- The position that an index means in an array of `length` items. -/
def resolveIndex? (i : Int) (length : Nat) : Option Nat :=
  let p := toPosition length i
  if 0 ≤ p ∧ p < .ofNat length then some p.toNatClampNeg else none

def itemAt? (xs : List Json) (i : Int) : Option Json :=
  (resolveIndex? i xs.length).bind (xs[·]?)

/-- The items between two bounds, both included; bounds beyond the array are cut to it. -/
def sliceItems (xs : List Json) (start stop : Option Int) : List Json :=
  let final := Int64.ofNat xs.length - 1
  let first := max ((start.map (toPosition xs.length)).getD 0) 0
  let last := min ((stop.map (toPosition xs.length)).getD final) final
  if last < first then []
  else (xs.take (last.toNatClampNeg + 1)).drop first.toNatClampNeg

/-- What a selector picks from a value. -/
def Selector.pick : Selector → Json → Selection
  | .child name, v => property name v
  | .children, v => Path.children v
  | .deep name, v => .multi (deepScan name v)
  | .descendants, v => .multi (Path.descendants v)
  | .names [name], v => property name v
  | .names ks, .obj ms => .multi (ks.filterMap (Entries.find? ms))
  | .names _, _ => .undefined
  | .index i, .arr xs => .ofOption (itemAt? xs i)
  | .index _, _ => .undefined
  | .indices is, .arr xs => .multi (is.filterMap (itemAt? xs))
  | .indices _, _ => .undefined
  | .slice start stop, .arr xs => .multi (sliceItems xs start stop)
  | .slice _ _, _ => .undefined

/-- What a selector picks where there may be no value. A search in depth finds no values then, and
every other step nothing. -/
def Selector.apply (s : Selector) : Option Json → Selection
  | some v => s.pick v
  | none =>
    match s with
    | .deep _ | .descendants => .multi []
    | _ => .undefined

end Stencil.Path
