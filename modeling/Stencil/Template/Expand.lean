import Stencil.Slot.Render
import Stencil.Template.Expansion

/-!
# Expanding templates

A template is a JSON value. Its strings are slot text, and an item of an array with a `path` and a
`template` is an array template: its template is expanded once for every element found at the path,
with the element as the innermost scope. A string in the place of a template names one that the
scope holds. Such jumps need not end; the bound on their nesting only makes the definitions total.
-/

namespace Stencil.Template

/-- What an expansion needs besides its template and its scope. -/
structure Expander (σ : Type) where
  hooks : Hooks σ
  registry : Slot.Registry

/-- The expander without hooks and with the built-in formats. -/
def Expander.plain : Expander Unit := ⟨.none, .builtin⟩

/-- How deep named templates may lead to further ones, which is deeper than any stack. -/
def maxJumps : Nat := 1000000000

/-- Whether a text is `true` or `false`, in any case and with blanks around it. -/
def flag? (text : String) : Option Bool :=
  let word := (Text.trim text).toLower
  if word = "true" then some true else if word = "false" then some false else none

/-- What a leaf of a template becomes: a string is rendered, and may turn into a boolean. -/
def leafValue (registry : Slot.Registry) (scope : Scope) : Json → Except Error Json
  | .str text =>
    match Slot.render registry (.scope scope) text with
    | .error e => .error e
    | .ok rendered =>
      .ok (match flag? rendered with
        | some b => .bool b
        | none => .str rendered)
  | v => .ok v

/-- The path and the template of an array template. -/
def arrayTemplate? (ms : Json.Members) : Option (Json × Json) :=
  match Entries.find? ms "path", Entries.find? ms "template" with
  | some path, some template => some (path, template)
  | _, _ => none

/-- The paths of an array template: one string, or the strings of a list. -/
def pathTexts : Json → List String
  | .str path => [path]
  | .arr paths => paths.filterMap fun p => match p with
    | .str path => some path
    | _ => none
  | _ => []

/-- The elements that an array template is repeated for. -/
def elements : Value → List Root
  | .json (.arr xs) => xs.map .json
  | .json v => [.json v]
  | .html h => h.toList.map fun n => .html (.node n)
  | _ => []

/-- The template under a name in the scope. -/
def namedTemplate? (scope : Scope) (name : String) : Except Error (Option Json) :=
  match scope.resolve name with
  | .error e => .error (.path e)
  | .ok v => .ok (if v.isUndefined then none else some v.toJson)

/-- The scope for an element: it stands above the scope without a trailing object scope. -/
def elementScope (scope : Scope) (element : Root) : Scope :=
  scope.base.push (.roots [element])

section

variable {σ : Type}

/-- Run a body for each element, in order. -/
def forElements (scope : Scope) (body : Scope → Expansion σ Unit) :
    List Root → Expansion σ Unit
  | [] => pure ()
  | r :: rest => do
    body (elementScope scope r)
    forElements scope body rest

/-- Run a body for each element that the paths find, path by path. -/
def forPaths (scope : Scope) (body : Scope → Expansion σ Unit) : List String → Expansion σ Unit
  | [] => pure ()
  | path :: rest =>
    match scope.resolve path with
    | .error e => .fail (.path e)
    | .ok v => do
      forElements scope body (elements v)
      forPaths scope body rest

/-- Write the name of a member, if there is one. -/
def writeName? (property : Option String) : Expansion σ Unit :=
  match property with
  | some name => .write (·.writeName name)
  | none => pure ()

/-- Write a container around its contents, the hooks at its boundaries. -/
def container (x : Expander σ) (kind : Container) (property : Option String) (scope : Scope)
    (contents : Expansion σ Unit) : Expansion σ Unit := do
  x.hooks.boundary .beforeStart kind property scope
  writeName? property
  match kind with
  | .object => .write Writer.startObject
  | .array => .write Writer.startArray
  x.hooks.boundary .afterStart kind property scope
  contents
  x.hooks.boundary .beforeEnd kind property scope
  match kind with
  | .object => .write Writer.endObject
  | .array => .write Writer.endArray
  x.hooks.boundary .afterEnd kind property scope

/-- Write a leaf, under a name if there is one. -/
def writeLeaf (x : Expander σ) (property : Option String) (scope : Scope) (leaf : Json) :
    Expansion σ Unit := do
  writeName? property
  let v ← .lift (leafValue x.registry scope leaf)
  .write (·.writeValue v)

/-- Write a scalar member unless a hook deals with it. -/
def writeScalar (x : Expander σ) (name : String) (scope : Scope) (leaf : Json) :
    Expansion σ Unit := do
  let handled ← x.hooks.beforeProperty name leaf scope
  if handled then pure () else writeLeaf x (some name) scope leaf
  x.hooks.afterProperty name leaf scope

theorem sizeOf_find? {ms : Json.Members} {name : String} {v : Json}
    (h : Entries.find? ms name = some v) : sizeOf v < sizeOf ms := by
  induction ms with
  | nil => simp [Entries.find?] at h
  | cons m ms ih =>
    obtain ⟨k, w⟩ := m
    simp only [Entries.find?] at h
    split at h
    · cases h
      simp
      omega
    · have := ih h
      simp
      omega

theorem sizeOf_arrayTemplate? {ms : Json.Members} {path template : Json}
    (h : arrayTemplate? ms = some (path, template)) : sizeOf template < sizeOf ms := by
  unfold arrayTemplate? at h
  split at h
  · next ht =>
    cases h
    exact sizeOf_find? ht
  · cases h

mutual

/-- Expand a template, `jumps` named templates deep at most. -/
def writeNode (x : Expander σ) (jumps : Nat) (template : Json) (scope : Scope)
    (property : Option String) : Expansion σ Unit :=
  match template with
  | .obj ms => container x .object property scope (writeMembers x jumps ms scope)
  | .arr items => container x .array property scope (writeElements x jumps items scope)
  | leaf => writeLeaf x property scope leaf
termination_by (jumps, 2 * sizeOf template)

/-- The members of an object, in order. -/
def writeMembers (x : Expander σ) (jumps : Nat) (ms : Json.Members) (scope : Scope) :
    Expansion σ Unit :=
  match ms with
  | [] => pure ()
  | (name, .obj inner) :: rest => do
    writeNode x jumps (.obj inner) scope (some name)
    writeMembers x jumps rest scope
  | (name, .arr items) :: rest => do
    writeNode x jumps (.arr items) scope (some name)
    writeMembers x jumps rest scope
  | (name, leaf) :: rest => do
    writeScalar x name scope leaf
    writeMembers x jumps rest scope
termination_by (jumps, 2 * sizeOf ms)

/-- The items of an array, in order. -/
def writeElements (x : Expander σ) (jumps : Nat) (items : List Json) (scope : Scope) :
    Expansion σ Unit :=
  match items with
  | [] => pure ()
  | item :: rest => do
    writeElement x jumps item scope
    writeElements x jumps rest scope
termination_by (jumps, 2 * sizeOf items)

/-- An item of an array, or what an array template in its place is repeated to. -/
def writeElement (x : Expander σ) (jumps : Nat) (item : Json) (scope : Scope) :
    Expansion σ Unit :=
  match item with
  | .obj ms =>
    match _h : arrayTemplate? ms with
    | none => writeNode x jumps (.obj ms) scope none
    | some (_, .arr entries) => writeElements x jumps entries scope
    | some (path, .obj inner) =>
      forPaths scope (fun s => writeNode x jumps (.obj inner) s none) (pathTexts path)
    | some (path, .str name) =>
      match namedTemplate? scope name with
      | .error e => .fail e
      | .ok none => pure ()
      | .ok (some named) =>
        match jumps with
        | 0 => .fail .tooDeep
        | jumps + 1 => forPaths scope (fun s => writeNode x jumps named s none) (pathTexts path)
    | some _ => pure ()
  | item => writeNode x jumps item scope none
termination_by (jumps, 2 * sizeOf item + 1)
decreasing_by
  · simp [Prod.lex_def]
  · have := sizeOf_arrayTemplate? _h
    simp [Prod.lex_def] at this ⊢
    omega
  · have := sizeOf_arrayTemplate? _h
    simp [Prod.lex_def] at this ⊢
    omega
  · simp [Prod.lex_def]
  · simp [Prod.lex_def]

end

/-- Expand a template against a parameter. -/
def expand (x : Expander σ) (template : Json) (ctx : Parameter) : Expansion σ Unit :=
  writeNode x maxJumps template ctx.layers none

/-- Expand the template under a name, and say whether there is one. -/
def expandNamed (x : Expander σ) (name : String) (ctx : Parameter) : Expansion σ Bool := do
  match ← .lift (namedTemplate? ctx.layers name) with
  | some template =>
    writeNode x maxJumps template ctx.layers none
    pure true
  | none => pure false

end

/-- The document that a template expands to; null where it writes nothing. -/
def expandToValue (registry : Slot.Registry) (template : Json) (ctx : Parameter) :
    Except Error Json :=
  match expand ⟨.none, registry⟩ template ctx ⟨.empty, ()⟩ with
  | (.error e, _) => .error e
  | (.ok (), w) =>
    match w.writer.finish with
    | .error fault => .error (.writer fault)
    | .ok v => .ok (v.getD .null)

end Stencil.Template
