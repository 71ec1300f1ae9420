import Stencil.Command.Line
import Stencil.Request.Build
import Stencil.Request.Catalog

/-!
# Running a command

What a command prints, from the files and the standard input that it can read.
-/

namespace Stencil.Command

/-- What a command can read. None stands for what cannot be read. -/
structure Sources where
  file? : String → Option String
  input? : Option String

/-- What was being done when a command stopped, and the error that stopped it if there was one. -/
structure Failure where
  context : String
  cause : Option Error
deriving DecidableEq, Repr

/-- What was being done, and what went wrong with it. -/
def Failure.message (f : Failure) : String :=
  match f.cause with
  | some e => "Error: " ++ f.context ++ ": " ++ e.message
  | none => "Error: " ++ f.context

/-- The result of a step, or the error under what was being done. -/
def within {α : Type} (context : String) (r : Except Error α) : Except Failure α :=
  r.mapError fun e => ⟨context, some e⟩

/-- A name between quotes in a message. -/
def quoted (name : String) : String := "'" ++ name ++ "'"

namespace Sources

def textOf (s : Sources) : Option String → Except Failure String
  | some path =>
    match s.file? path with
    | some text => .ok text
    | none => .error ⟨"Could not read file " ++ quoted path, some .io⟩
  | none =>
    match s.input? with
    | some text => .ok text
    | none => .error ⟨"Could not read stdin", some .io⟩

/-- The JSON document of a file, or of the standard input where no file is named. -/
def document (s : Sources) (path : Option String) : Except Failure Json := do
  let text ← s.textOf path
  match Json.parse? text with
  | some v => return v
  | none => .error ⟨"Invalid JSON document", some .json⟩

/-- The scope that a file of parameters makes up, or an empty one. -/
def params (s : Sources) : Option String → Except Failure Scope
  | none => .ok []
  | some path => do
    let v ← s.document (some path)
    match Store.empty.extend? v with
    | some store => return [.store store]
    | none =>
      .error ⟨"Parameters in " ++ quoted path ++ " must be a JSON object",
        some (.precondition (Store.refusal v))⟩

/-- A file is YAML if its name ends so, in any case, and has more than that ending. -/
def isYaml (path : String) : Bool :=
  let name := (Text.splitAt '/' path.toList).getLast?.getD []
  match (Text.splitAt '.' name).reverse with
  | ending :: front :: more =>
    let ending := String.ofList (ending.map Char.toLower)
    (ending == "yml" || ending == "yaml") && !(front.isEmpty && more.isEmpty)
  | _ => false

def catalog (s : Sources) (path : String) : Except Error Catalog :=
  match s.file? path with
  | none => .error .io
  | some text => if isYaml path then Catalog.ofYamlText text else Catalog.ofJsonText text

/-- The definition of a name in a catalog file. -/
def definition (s : Sources) (name path : String) : Except Failure RequestDefinition := do
  let catalog ← within ("Could not load catalog " ++ quoted path) (s.catalog path)
  match catalog.get? name with
  | some d => return d
  | none => .error ⟨"No definition named " ++ quoted name ++ " in " ++ quoted path, none⟩

end Sources

/-- A text as it is printed. -/
def line (text : String) : String := text ++ "\n"

def runQuery (s : Sources) (path : String) (input : Option String) : Except Failure String := do
  let doc ← s.document input
  let found ← within ("Failed to evaluate " ++ quoted path)
    ((Path.evaluate doc path).mapError .path)
  match found with
  | some v => return line v.indented
  | none => .error ⟨"Path " ++ quoted path ++ " matched nothing", none⟩

/-- The input is the innermost scope. -/
def runRender (s : Sources) (params : Option String) (text : String) (input : Option String) :
    Except Failure String := do
  let scope ← s.params params
  let scope ← match input with
    | some path => do
      let doc ← s.document (some path)
      pure (scope.push (.ofJson doc))
    | none => pure scope
  let rendered ← within "Failed to render text" (Slot.render .builtin (.scope scope) text)
  return line rendered

def runBuild (s : Sources) (params : Option String) (name catalog : String) :
    Except Failure String := do
  let d ← s.definition name catalog
  let scope ← s.params params
  let request ← within ("Failed to build request " ++ quoted d.name) (d.request.build scope)
  return line request.toJson.indented

/-- A character of an HTTP token. -/
def isTokenChar (c : Char) : Bool := c.isAlphanum || "!#$%&'*+-.^_\x60|~".toList.contains c

/-- A method that a request can be sent with. -/
def checkMethod (method : String) : Except Error Unit :=
  if method.toList.all isTokenChar then .ok ()
  else .error (.precondition ("invalid HTTP method " ++ quoted method))

/-- Sending needs a connection, which there is none of here: a request that is ready to be sent
fails with a connection error. -/
def runSend (s : Sources) (params : Option String) (name catalog : String) :
    Except Failure String := do
  let d ← s.definition name catalog
  let scope ← s.params params
  if (Text.trim d.request.url).isEmpty then
    .error ⟨"Definition " ++ quoted d.name ++ " has no url", none⟩
  else
    within ("Request " ++ quoted d.name ++ " failed") do
      let request ← d.request.build scope
      checkMethod request.method
      .error .http

/-- What an invocation prints. -/
def Invocation.run (i : Invocation) (s : Sources) : Except Failure String :=
  match i.action with
  | none => .error ⟨"No subcommand given", none⟩
  | some (.query path input) => runQuery s path input
  | some (.render text input) => runRender s i.params text input
  | some (.build name catalog) => runBuild s i.params name catalog
  | some (.send name catalog) => runSend s i.params name catalog

end Stencil.Command
