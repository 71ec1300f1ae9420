import Stencil.Format

/-!
# Request definitions

A definition names a request and says how its response becomes a document. Most of it is template
text. Fields that are absent are left out when a definition is written.
-/

namespace Stencil

structure RequestTemplate where
  url : String
  method : Option String
  headers : Dictionary String
  /-- A template, or the name of one that the scope holds. -/
  body : Option Json

structure ResponseTemplate where
  /-- The character encoding of responses that are not JSON. -/
  encoding : Option String
  /-- A template, or the name of one that the scope holds. -/
  template : Option Json

structure RequestDefinition where
  name : String
  request : RequestTemplate
  response : ResponseTemplate

/-- A field that is written if there is a value for it. -/
def field? {α : Type} (name : String) (write : α → Json) (value : Option α) : Json.Members :=
  (value.map fun a => (name, write a)).toList

namespace RequestTemplate

/-- A request that is its URL alone. -/
def ofUrl (url : String) : RequestTemplate := ⟨url, none, .empty, none⟩

def fieldNames : List String := ["url", "method", "headers", "body"]

def decode {ν : Type} (f : Format ν) (v : ν) : Option RequestTemplate := do
  match ← f.fields? fieldNames v with
  | [some url, method, headers, body] =>
    let url ← f.text? url
    let method ← f.optional f.text? method
    let headers ← (headers.map f.texts?).getD (some .empty)
    let body ← f.optional f.json? body
    some ⟨url, method, headers, body⟩
  | _ => none

def headersJson (headers : Dictionary String) : Json :=
  .obj (headers.entries.map fun (name, value) => (name, .str value))

def toJson (t : RequestTemplate) : Json :=
  let headers := if t.headers.entries.isEmpty then none else some t.headers
  .obj (("url", .str t.url) :: field? "method" Json.str t.method ++
    field? "headers" headersJson headers ++ field? "body" id t.body)

end RequestTemplate

namespace ResponseTemplate

def empty : ResponseTemplate := ⟨none, none⟩

def fieldNames : List String := ["encoding", "template"]

def decode {ν : Type} (f : Format ν) (v : ν) : Option ResponseTemplate := do
  match ← f.fields? fieldNames v with
  | [encoding, template] =>
    let encoding ← f.optional f.text? encoding
    let template ← f.optional f.json? template
    some ⟨encoding, template⟩
  | _ => none

def toJson (t : ResponseTemplate) : Json :=
  .obj (field? "encoding" Json.str t.encoding ++ field? "template" id t.template)

end ResponseTemplate

namespace RequestDefinition

def fieldNames : List String := ["name", "request", "response"]

def decode {ν : Type} (f : Format ν) (v : ν) : Option RequestDefinition := do
  match ← f.fields? fieldNames v with
  | [some name, some request, response] =>
    let name ← f.text? name
    let request ← RequestTemplate.decode f request
    let response ← (response.map (ResponseTemplate.decode f)).getD (some .empty)
    some ⟨name, request, response⟩
  | _ => none

def toJson (d : RequestDefinition) : Json :=
  .obj [("name", .str d.name), ("request", d.request.toJson), ("response", d.response.toJson)]

end RequestDefinition

end Stencil
