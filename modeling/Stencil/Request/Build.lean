import Stencil.Request.Definition
import Stencil.Template.Expand
import Stencil.Url.Parser

/-!
# Building requests

A request with every slot filled in, and the document that a response becomes. The URL is rendered
twice, so that a value that goes into it may hold slots of its own.
-/

namespace Stencil

structure BuiltRequest where
  url : Url
  method : String
  headers : Dictionary String
  /-- None where the body's template writes nothing. -/
  body : Option Json

/-- Expand a template. A string is the name of one that the scope holds, and stands for nothing if
there is none. -/
def expandDocument (template : Json) (scope : Scope) : Except Error (Option Json) :=
  let x : Template.Expander Unit := .plain
  let ctx : Parameter := .scope scope
  let work : Template.Expansion Unit Unit := match template with
    | .str name => do
      let _ ← Template.expandNamed x name ctx
    | template => Template.expand x template ctx
  match work ⟨.empty, ()⟩ with
  | (.error e, _) => .error e
  | (.ok (), w) => w.writer.finish.mapError .writer

/-- The URL that a text writes, blanks around it left out. -/
def parseUrl (text : String) : Except Error Url :=
  (Url.parse (Text.trim text)).mapError (.url text)

namespace RequestTemplate

/-- The method in capitals, and `GET` where none is given. -/
def methodName (t : RequestTemplate) : String :=
  let method := Text.trim (t.method.getD "")
  if method.isEmpty then "GET" else String.ofList (method.toList.map Char.toUpper)

def render (text : String) (scope : Scope) : Except Error String :=
  Slot.render .builtin (.scope scope) text

def renderHeaders (scope : Scope) (headers : Entries String) : Except Error (Entries String) :=
  headers.mapM fun (name, value) => (render value scope).map fun text => (name, text)

def build (t : RequestTemplate) (scope : Scope) : Except Error BuiltRequest := do
  let once ← render t.url scope
  let twice ← render once scope
  let url ← parseUrl twice
  let headers ← renderHeaders scope t.headers.entries
  let body ← match t.body with
    | some template => expandDocument template scope
    | none => .ok none
  return ⟨url, t.methodName, .ofList headers, body⟩

end RequestTemplate

/-- The document of a response, which is the innermost scope of the template. -/
def ResponseTemplate.materialize (t : ResponseTemplate) (scope : Scope) (response : Parameter) :
    Except Error Json :=
  match t.template with
  | none => .ok response.toJson
  | some template => (expandDocument template (scope.push response)).map fun v => v.getD .null

namespace BuiltRequest

def toJson (r : BuiltRequest) : Json :=
  .obj [("method", .str r.method), ("url", .str r.url.text),
    ("headers", RequestTemplate.headersJson r.headers), ("body", r.body.getD .null)]

end BuiltRequest

end Stencil
