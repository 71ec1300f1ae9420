import Stencil.Command.Word

/-!
# Command lines

The arguments of a command line and the invocation that they make up. An option that was named waits
for its value until another option or word comes, and only then is it found to be repeated or
without a value. The global options may stand before the command and behind it.
-/

namespace Stencil.Command

/-- What the arguments of one level have given so far, before the command or behind it. -/
structure Reading where
  verbose : Bool
  values : List (Setting × String)
  /-- The option that was named last, and its value if that has come. -/
  waiting : Option (Setting × Option String)
  /-- The one plain word that a command takes. -/
  subject : Option String

namespace Reading

def empty : Reading := ⟨false, [], none, none⟩

def get? (r : Reading) (s : Setting) : Option String := r.values.lookup s

def set (r : Reading) (s : Setting) (value : String) : Except UsageFault Reading :=
  if (r.get? s).isSome then .error .repeated
  else .ok { r with values := r.values ++ [(s, value)] }

/-- The option that was named last is done. -/
def settle (r : Reading) : Except UsageFault Reading :=
  match r.waiting with
  | none => .ok r
  | some (_, none) => .error .missingValue
  | some (s, some value) => { r with waiting := none }.set s value

/-- An option whose value stands in the same argument. -/
def give (r : Reading) (s : Setting) (value : String) : Except UsageFault Reading := do
  let r ← r.settle
  r.set s value

/-- An option whose value is the next argument. -/
def await (r : Reading) (s : Setting) : Except UsageFault Reading := do
  let r ← r.settle
  return { r with waiting := some (s, none) }

def raise (r : Reading) : Except UsageFault Reading := do
  let r ← r.settle
  if r.verbose then .error .repeated else return { r with verbose := true }

/-- Help is asked for, and is given if nothing is wrong before it. -/
def askHelp {α : Type} (r : Reading) : Except UsageFault α := do
  let _ ← r.settle
  .error .help

/-- A plain word that no option waits for. -/
def addSubject (r : Reading) (text : String) : Except UsageFault Reading :=
  if r.subject.isSome then .error .unknownArgument
  else do
    let r ← r.settle
    return { r with subject := some text }

/-- The reading after its option has got the value it waits for, if there is such an option. -/
def supply? (r : Reading) (text : String) : Option Reading :=
  match r.waiting with
  | some (s, none) => some { r with waiting := some (s, some text) }
  | _ => none

def readLong (settings : List Setting) (r : Reading) (name : String) (value : Option String) :
    Except UsageFault Reading :=
  match Meaning.ofName? settings name, value with
  | none, _ => .error .unknownArgument
  | some (.setting s), some value => r.give s value
  | some (.setting s), none => r.await s
  | some .verbose, none => r.raise
  | some .help, none => r.askHelp
  | some _, some _ => .error .unwantedValue

/-- Letters behind one dash. What follows the letter of an option with a value is the value. -/
def readLetters (settings : List Setting) (r : Reading) :
    List Char → Except UsageFault Reading
  | [] => .ok r
  | c :: rest =>
    match Meaning.ofLetter? settings c, rest with
    | none, _ => .error .unknownArgument
    | some .help, _ => r.askHelp
    | some .verbose, _ => do
      let r ← r.raise
      readLetters settings r rest
    | some (.setting s), [] => r.await s
    | some (.setting s), '=' :: value => r.give s (String.ofList value)
    | some (.setting s), value => r.give s (String.ofList value)

/-- The arguments behind a double dash. -/
def readPlain (r : Reading) : List String → Except UsageFault Reading
  | [] => r.settle
  | text :: rest => do
    let r ← r.addSubject text
    readPlain r rest

/-- The arguments behind a command. -/
def read (settings : List Setting) (r : Reading) : List String → Except UsageFault Reading
  | [] => r.settle
  | text :: rest =>
    match Word.ofText text with
    | .separator => r.readPlain rest
    | .long name value => do
      let r ← r.readLong settings name value
      read settings r rest
    | .letters cs => do
      let r ← r.readLetters settings cs
      read settings r rest
    | .plain text =>
      match r.supply? text with
      | some r => read settings r rest
      | none => do
        let r ← r.addSubject text
        read settings r rest

end Reading

inductive Action where
  | query (path : String) (input : Option String)
  | render (text : String) (input : Option String)
  | build (name catalog : String)
  | send (name catalog : String)
deriving DecidableEq, Repr

/-- What a command line asks for. -/
structure Invocation where
  verbose : Bool
  /-- The file of the parameters. -/
  params : Option String
  /-- None where options are all that there is. -/
  action : Option Action
deriving DecidableEq, Repr

/-- The command with its arguments, if all that it needs is there. -/
def Action.ofReading? (verb : Verb) (r : Reading) : Option Action :=
  match verb with
  | .query => r.subject.map fun path => .query path (r.get? .input)
  | .render => r.subject.map fun text => .render text (r.get? .input)
  | .build => do some (.build (← r.subject) (← r.get? .catalog))
  | .send => do some (.send (← r.subject) (← r.get? .catalog))

namespace Action

/-- The file that an action works on, if it names one. -/
def file? : Action → Option String
  | query _ input => input
  | render _ input => input
  | build _ catalog => some catalog
  | send _ catalog => some catalog

/-- Whether the document comes from the standard input. -/
def readsInput : Action → Bool
  | query _ none => true
  | _ => false

end Action

namespace Invocation

/-- The files that an invocation names. -/
def files (i : Invocation) : List String := i.params.toList ++ (i.action.bind Action.file?).toList

def readsInput (i : Invocation) : Bool := (i.action.map Action.readsInput).getD false

/-- The options before a command and those behind it. The later file of parameters counts. -/
def ofReadings (outer inner : Reading) (action : Action) : Invocation :=
  ⟨outer.verbose || inner.verbose, inner.get? .params <|> outer.get? .params, some action⟩

/-- An invocation without a command. -/
def ofOptions (r : Reading) : Except UsageFault Invocation := do
  let r ← r.settle
  if r.verbose ∨ (r.get? .params).isSome then return ⟨r.verbose, r.get? .params, none⟩
  else .error .nothing

def ofCommand (outer : Reading) (verb : Verb) (rest : List String) :
    Except UsageFault Invocation := do
  let inner ← Reading.empty.read verb.settings rest
  match Action.ofReading? verb inner with
  | none => .error .missingArgument
  | some action => do
    let outer ← outer.settle
    return ofReadings outer inner action

/-- The help command takes the name of one command at most. -/
def helpFault : List String → UsageFault
  | [] => .help
  | [name] => if Verb.isExplained name then .help else .unknownCommand
  | _ => .unknownCommand

/-- The arguments behind a double dash that stands before the command. -/
def readPlain (r : Reading) : List String → Except UsageFault Invocation
  | [] => ofOptions r
  | text :: _ => .error (if Verb.isExplained text then .unknownArgument else .unknownCommand)

/-- The arguments of a command line, of which some have been read. -/
def read (r : Reading) : List String → Except UsageFault Invocation
  | [] => ofOptions r
  | text :: rest =>
    match Word.ofText text with
    | .separator => readPlain r rest
    | .long name value => do
      let r ← r.readLong [.params] name value
      read r rest
    | .letters cs => do
      let r ← r.readLetters [.params] cs
      read r rest
    | .plain text =>
      match r.supply? text, Verb.ofName? text with
      | some r, _ => read r rest
      | none, some verb => ofCommand r verb rest
      | none, none => .error (if text = "help" then helpFault rest else .unknownCommand)

def ofArguments (arguments : List String) : Except UsageFault Invocation :=
  read .empty arguments

end Invocation

end Stencil.Command
