import Stencil.Parameter.Store

/-!
# Parameters

Where names and paths are looked up: a store of named values, document roots, or a scope of further
parameters. What was added last is tried first, and what comes later is not asked once a value is
found. A key that starts with `$` is a path into JSON roots, one that starts with `/` a path into
HTML roots.
-/

namespace Stencil

/-- A document that paths lead into. -/
inductive Root where
  | json (v : Json)
  | html (h : HtmlValue)

inductive Parameter where
  | store (s : Store)
  /-- Document roots, the first added first. -/
  | roots (rs : List Root)
  /-- Nested parameters, the first pushed first. -/
  | scope (entries : List Parameter)

/-- Parameters in layers, the first pushed first. -/
abbrev Scope := List Parameter

open Stencil.Path (PathError)

namespace Root

/-- What a key finds below a root, if it is a path of the root's kind. -/
def lookup (r : Root) (key : String) : Except PathError Value :=
  match r, key.toList with
  | json v, '$' :: _ =>
    match Path.evaluate v key with
    | .error e => .error e
    | .ok (some found) => .ok (.json found)
    | .ok none => .ok .undefined
  | html h, '/' :: path =>
    .ok (match h.select? (String.ofList path) with
      | some found => .html found
      | none => .undefined)
  | _, _ => .ok .undefined

/-- A value as a root. Only JSON and HTML values are documents. -/
def ofValue? : Value → Option Root
  | .json v => some (json v)
  | .html h => some (html h)
  | _ => none

/-- Why a value that is no document is refused. -/
def refusal (v : Value) : String :=
  "object parameters only hold json or html values, got " ++ v.kindName

def toJson? : Root → Option Json
  | json v => some v
  | html _ => none

end Root

namespace Parameter

/-- The first value found among the lookups, the last one tried first. -/
def lastFound {α : Type} (lookup : α → Except PathError Value) : List α → Except PathError Value
  | [] => .ok .undefined
  | a :: rest =>
    match lastFound lookup rest with
    | .error e => .error e
    | .ok .undefined => lookup a
    | .ok v => .ok v

mutual

/-- The value that a key stands for. -/
def resolve (key : String) : Parameter → Except PathError Value
  | store s => .ok ((s.get? key).getD .undefined)
  | roots rs => lastFound (fun r => r.lookup key) rs
  | scope entries => resolveLast key entries

/-- The value in the last layer that has one. -/
def resolveLast (key : String) : List Parameter → Except PathError Value
  | [] => .ok .undefined
  | p :: rest =>
    match resolveLast key rest with
    | .error e => .error e
    | .ok .undefined => resolve key p
    | .ok v => .ok v

end

/-- The JSON roots: one alone as itself, several or none as an array. -/
def rootsJson (rs : List Root) : Json :=
  match rs.filterMap Root.toJson? with
  | [v] => v
  | vs => .arr vs

mutual

def toJson : Parameter → Json
  | store s => s.toJson
  | roots rs => rootsJson rs
  | scope entries => .arr (toJsons entries)

def toJsons : List Parameter → List Json
  | [] => []
  | p :: rest => toJson p :: toJsons rest

end

/-- Whether the parameter is bare document roots, as array templates push them for an element. -/
def isObjectScope : Parameter → Bool
  | roots _ => true
  | _ => false

/-- The layers of a parameter: those of a scope, or the parameter alone. -/
def layers : Parameter → Scope
  | scope entries => entries
  | p => [p]

/-- A document as a parameter. -/
def ofJson (v : Json) : Parameter := roots [.json v]

end Parameter

namespace Scope

/-- The value that a key stands for. -/
def resolve (s : Scope) (key : String) : Except PathError Value := Parameter.resolveLast key s

def push (s : Scope) (p : Parameter) : Scope := s ++ [p]

/-- The layers below a trailing object scope. -/
def base (s : Scope) : Scope :=
  match s.getLast? with
  | some p => if p.isObjectScope then s.dropLast else s
  | none => s

def endsInObjectScope (s : Scope) : Bool := (s.getLast?.map Parameter.isObjectScope).getD false

def toJson (s : Scope) : Json := .arr (Parameter.toJsons s)

end Scope

end Stencil
