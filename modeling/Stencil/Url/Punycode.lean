/-!
# Punycode

A label of any characters in letters, digits and hyphens. The ASCII characters come first, and a
hyphen behind them if there are any. What follows says, code point by code point in ascending order,
how many states to pass until the next insertion: a state is a place in the text so far together
with a code point to insert there. The counts are numbers of variable length in base 36, and how
long they grow is adapted to the counts before.
-/

namespace Stencil.Url.Punycode

/-- A digit: letters first, then decimal digits. -/
def digit (n : Nat) : Char :=
  if n < 26 then Char.ofNat ('a'.toNat + n) else Char.ofNat ('0'.toNat + (n - 26))

/-- The value of a digit. -/
def digitValue? (c : Char) : Option Nat :=
  if 'a' ≤ c ∧ c ≤ 'z' then some (c.toNat - 'a'.toNat)
  else if '0' ≤ c ∧ c ≤ '9' then some (c.toNat - '0'.toNat + 26)
  else none

/-- Digits below this value end a number; `place` counts the digits before. -/
def threshold (bias place : Nat) : Nat :=
  max 1 (min 26 (36 * (place + 1) - bias))

theorem threshold_bounds (bias place : Nat) :
    1 ≤ threshold bias place ∧ threshold bias place ≤ 26 := by
  unfold threshold
  omega

/-- Divide until the number is small; the second number counts the divisions. -/
def scaleDown (delta count : Nat) : Nat × Nat :=
  if 455 < delta then scaleDown (delta / 35) (count + 1) else (delta, count)
termination_by delta

/-- The bias after a count: `size` code points are placed by then. -/
def adapt (delta size : Nat) (first : Bool) : Nat :=
  let delta := if first then delta / 700 else delta / 2
  let (delta, count) := scaleDown (delta + delta / size) 0
  36 * count + 36 * delta / (delta + 38)

/-! ## Encoding -/

/-- The digits of a number, the lowest first. -/
def digits (bias place n : Nat) : List Char :=
  let t := threshold bias place
  if n < t then [digit n]
  else digit (t + (n - t) % (36 - t)) :: digits bias (place + 1) ((n - t) / (36 - t))
termination_by n
decreasing_by
  have := threshold_bounds bias place
  have := Nat.div_le_self (n - threshold bias place) (36 - threshold bias place)
  omega

/-- What is written so far, and how it goes on. -/
structure State where
  out : List Char
  delta : Nat
  bias : Nat
  placed : Nat

/-- Pass one place for the code point `n`, and write a count where the code point stands there. -/
def pass (basic n : Nat) (s : State) (c : Char) : State :=
  if c.toNat < n then { s with delta := s.delta + 1 }
  else if c.toNat = n then
    { out := s.out ++ digits s.bias 0 s.delta, delta := 0,
      bias := adapt s.delta (s.placed + 1) (s.placed == basic), placed := s.placed + 1 }
  else s

/-- Write the counts for the code points, which ascend, from `n` on. -/
def encodeFrom (label : List Char) (basic : Nat) : List Nat → Nat → State → State
  | [], _, s => s
  | m :: ms, n, s =>
    let s := { s with delta := s.delta + (m - n) * (s.placed + 1) }
    let s := label.foldl (pass basic m) s
    encodeFrom label basic ms (m + 1) { s with delta := s.delta + 1 }

/-- The label in ASCII. -/
def encode (label : List Char) : List Char :=
  let basic := label.filter fun c => c.toNat < 128
  let others := (label.filter fun c => 128 ≤ c.toNat).map Char.toNat
  let ascending := (others.mergeSort (· ≤ ·)).eraseReps
  let s := encodeFrom label basic.length ascending 128 ⟨[], 0, 72, basic.length⟩
  basic ++ (if basic.isEmpty then [] else ['-']) ++ s.out

/-! ## Decoding -/

/-- A number in digits of the given place and weight on, added to `n`, and what follows it. -/
def number? (bias place weight n : Nat) : List Char → Option (Nat × List Char)
  | [] => none
  | c :: cs =>
    match digitValue? c with
    | none => none
    | some d =>
      let t := threshold bias place
      if d < t then some (n + d * weight, cs)
      else number? bias (place + 1) (weight * (36 - t)) (n + d * weight) cs

theorem number?_length {bias place weight n m : Nat} {cs rest : List Char}
    (h : number? bias place weight n cs = some (m, rest)) : rest.length < cs.length := by
  induction cs generalizing place weight n with
  | nil => simp [number?] at h
  | cons c cs ih =>
    simp only [number?] at h
    split at h
    · simp at h
    · split at h
      · simp only [Option.some.injEq, Prod.mk.injEq] at h
        simp [← h.2]
      · have := ih h
        simp
        omega

/-- Insert code points as the counts say. `n` and `place` are the state that the counts start
from. -/
def decodeFrom (bias n place : Nat) (out : List Char) (cs : List Char) : Option (List Char) :=
  match _h : cs with
  | [] => some out
  | _ :: _ =>
    match _h' : number? bias 0 1 place cs with
    | none => none
    | some (state, rest) =>
      let size := out.length + 1
      let n' := n + state / size
      if n'.isValidChar then
        decodeFrom (adapt (state - place) size (place == 0)) n' (state % size + 1)
          (out.insertIdx (state % size) (Char.ofNat n')) rest
      else none
termination_by cs.length
decreasing_by
  have := number?_length _h'
  simp_all

/-- The label that a text encodes. -/
def decode? (cs : List Char) : Option (List Char) :=
  match cs.reverse.span (· != '-') with
  | (counts, _ :: basic) => decodeFrom 72 128 0 basic.reverse counts.reverse
  | (_, []) => decodeFrom 72 128 0 [] cs

end Stencil.Url.Punycode
