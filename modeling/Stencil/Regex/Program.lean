import Stencil.Regex.Pattern
import Stencil.Text.Blank

/-!
# Searching for a pattern

A pattern is compiled to a list of states. A search follows all states that can be reached at once,
in the order in which the pattern prefers them, so that the first match found at the leftmost place
is the preferred one.
-/

namespace Stencil.Regex

/-- A state and the numbers of the states that follow it. -/
inductive State where
  | one (cls : CharClass) (next : Nat)
  | look (condition : Look) (next : Nat)
  /-- Go on with either state, the first one preferred. -/
  | split (a b : Nat)
  | accept
deriving Inhabited

abbrev Program := Array State

/-- Build the states of a part: from the state that follows it and the states so far to its first
state and all states. -/
abbrev Builder := Nat → Program → Nat × Program

def State.choice (greedy : Bool) (into past : Nat) : State :=
  if greedy then .split into past else .split past into

/-- A state that is set after the states it leads to are known. -/
def withLoop (greedy : Bool) (build : Builder) : Nat → Program → Nat × Nat × Program :=
  fun next states =>
    let loop := states.size
    let (entry, states) := build loop (states.push .accept)
    (loop, entry, states.setIfInBounds loop (.choice greedy entry next))

/-- A fixed number of repetitions. -/
def times (build : Builder) : Nat → Builder
  | 0, next, states => (next, states)
  | n + 1, next, states =>
    let (next, states) := build next states
    times build n next states

/-- Up to a number of repetitions, each of which may be the last. -/
def optional (greedy : Bool) (build : Builder) (past : Nat) : Nat → Builder
  | 0, next, states => (next, states)
  | n + 1, next, states =>
    let (entry, states) := build next states
    optional greedy build past n states.size (states.push (.choice greedy entry past))

def Pattern.build : Pattern → Builder
  | .empty, next, states => (next, states)
  | .one cls, next, states => (states.size, states.push (.one cls next))
  | .look l, next, states => (states.size, states.push (.look l next))
  | .cat a b, next, states =>
    let (next, states) := build b next states
    build a next states
  | .alt a b, next, states =>
    let (entryA, states) := build a next states
    let (entryB, states) := build b next states
    (states.size, states.push (.split entryA entryB))
  | .rep a lo none greedy, next, states =>
    let (loop, entry, states) := withLoop greedy (build a) next states
    match lo with
    | 0 =>
      if 0 < a.minLength then (loop, states)
      else (states.size, states.push (.choice greedy entry next))
    | lo + 1 => times (build a) lo entry states
  | .rep a lo (some hi) greedy, next, states =>
    let (entry, states) := optional greedy (build a) next (hi - lo) next states
    times (build a) lo entry states
  | .group _ a, next, states => build a next states

/-- A pattern ready to search: the states and the number of the first one. -/
structure Compiled where
  states : Program
  start : Nat

def Pattern.compile (p : Pattern) : Compiled :=
  let (start, states) := p.build 0 #[.accept]
  ⟨states, start⟩

/-! ## Conditions -/

/-- Whether a condition holds between two characters; none stands for the end of the text. -/
def Look.holds (before after : Option Char) : Look → Bool
  | .textStart => before.isNone
  | .textEnd => after.isNone
  | .lineStart => before.isNone || before == some '\n'
  | .lineEnd => after.isNone || after == some '\n'
  | .lineStartCR =>
    before.isNone || before == some '\n' || (before == some '\r' && after != some '\n')
  | .lineEndCR =>
    after.isNone || after == some '\r' || (after == some '\n' && before != some '\r')
  | .wordBoundary u => isWord u before != isWord u after
  | .notWordBoundary u => isWord u before == isWord u after
  | .wordStart u => !isWord u before && isWord u after
  | .wordEnd u => isWord u before && !isWord u after
  | .wordStartHalf u => !isWord u before
  | .wordEndHalf u => !isWord u after
where
  isWord (unicode : Bool) (c : Option Char) : Bool :=
    match c with
    | some c => (CharClass.word unicode).mem c.toNat
    | none => false

/-! ## Running -/

/-- The states that are reached without reading a character, in order of preference: those that
read one and the accepting one. `seen` marks the states that were reached before. -/
def reach (states : Program) (before after : Option Char) : Nat → List Nat → Array Bool →
    List Nat → Array Bool × List Nat
  | 0, _, seen, out => (seen, out)
  | _, [], seen, out => (seen, out)
  | fuel + 1, i :: todo, seen, out =>
    if seen.getD i true then reach states before after fuel todo seen out
    else
      let seen := seen.setIfInBounds i true
      match states.getD i .accept with
      | .one _ _ => reach states before after fuel todo seen (i :: out)
      | .accept => reach states before after fuel todo seen (i :: out)
      | .look l next =>
        if l.holds before after then reach states before after fuel (next :: todo) seen out
        else reach states before after fuel todo seen out
      | .split a b => reach states before after fuel (a :: b :: todo) seen out

/-- More steps than reaching all states once can take. -/
def reachFuel (states : Program) : Nat := 3 * states.size + 3

/-- The states reached by reading a character from the given ones, up to the first that accepts.
The flag says whether one accepted. -/
def advance (states : Program) (c : Char) (after : Option Char) : List Nat → Array Bool →
    List Nat → Bool × List Nat
  | [], _, out => (false, out.reverse)
  | i :: threads, seen, out =>
    match states.getD i .accept with
    | .accept => (true, out.reverse)
    | .one cls next =>
      if cls.mem c.toNat then
        let (seen, out) := reach states (some c) after (reachFuel states) [next] seen out
        advance states c after threads seen out
      else advance states c after threads seen out
    | _ => advance states c after threads seen out

/-- The number of characters of the preferred match among the threads, `best` so far. -/
def follow (states : Program) (threads : List Nat) (taken : Nat) (best : Option Nat) :
    List Char → Option Nat
  | [] =>
    if threads.any fun i => states.getD i .accept matches .accept then some taken else best
  | c :: cs =>
    if threads.isEmpty then best
    else
      let blank := Array.replicate states.size false
      let (accepted, next) := advance states c cs.head? threads blank []
      follow states next (taken + 1) (if accepted then some taken else best) cs

/-- The number of characters of the preferred match at the start of `cs`, which `before`
precedes. -/
def Compiled.matchAt (p : Compiled) (before : Option Char) (cs : List Char) : Option Nat :=
  let blank := Array.replicate p.states.size false
  let (_, threads) := reach p.states before cs.head? (reachFuel p.states) [p.start] blank []
  follow p.states threads.reverse 0 none cs

/-- The leftmost match: the characters in front of it and its own. -/
def Compiled.findFrom (p : Compiled) (before : Option Char) : List Char →
    Option (List Char × List Char)
  | [] => (p.matchAt before []).map fun _ => ([], [])
  | c :: cs =>
    match p.matchAt before (c :: cs) with
    | some n => some ([], (c :: cs).take n)
    | none => (findFrom p (some c) cs).map fun (front, m) => (c :: front, m)

/-- The leftmost match in a text: the characters in front of it and its own. -/
def Compiled.find (p : Compiled) (text : List Char) : Option (List Char × List Char) :=
  p.findFrom none text

def Compiled.isMatch (p : Compiled) (text : List Char) : Bool :=
  (p.find text).isSome

end Stencil.Regex
