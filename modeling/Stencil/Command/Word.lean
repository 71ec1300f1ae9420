/-!
# Command words

The commands, the options that take a value, and the arguments of a command line as they are
written: plain words, long options, and letters behind one dash.
-/

namespace Stencil.Command

/-- An option that takes a value. -/
inductive Setting where
  | params
  | input
  | catalog
deriving DecidableEq, Repr

inductive Verb where
  | query
  | render
  | build
  | send
deriving DecidableEq, Repr

/-- Why a command line is not understood, or asks for help instead. -/
inductive UsageFault where
  | help
  /-- There is nothing on the command line. -/
  | nothing
  | unknownArgument
  | unknownCommand
  /-- An option that takes a value is without one. -/
  | missingValue
  /-- An option that takes no value is given one. -/
  | unwantedValue
  | repeated
  | missingArgument
deriving DecidableEq, Repr

/-- What an option's name stands for. -/
inductive Meaning where
  | help
  | verbose
  | setting (s : Setting)
deriving DecidableEq, Repr

namespace Setting

def name : Setting → String
  | params => "params"
  | input => "input"
  | catalog => "catalog"

def letter : Setting → Char
  | params => 'p'
  | input => 'i'
  | catalog => 'c'

end Setting

namespace Verb

def all : List Verb := [query, render, build, send]

def name : Verb → String
  | query => "query"
  | render => "render"
  | build => "build"
  | send => "send"

def ofName? (name : String) : Option Verb := all.find? fun v => v.name == name

/-- The options of a command. The parameters are those of every command. -/
def settings : Verb → List Setting
  | query => [.params, .input]
  | render => [.params, .input]
  | build => [.params, .catalog]
  | send => [.params, .catalog]

/-- What the help command explains: the other commands and itself. -/
def isExplained (name : String) : Bool := name == "help" || (ofName? name).isSome

end Verb

namespace Meaning

def ofName? (settings : List Setting) (name : String) : Option Meaning :=
  if name = "help" then some help
  else if name = "verbose" then some verbose
  else (settings.find? fun s => s.name == name).map setting

def ofLetter? (settings : List Setting) (c : Char) : Option Meaning :=
  if c = 'h' then some help
  else if c = 'v' then some verbose
  else (settings.find? fun s => s.letter == c).map setting

end Meaning

namespace UsageFault

def message : UsageFault → String
  | help => "usage: stencil [-v] [-p PARAMS] query|render|build|send ..."
  | nothing => "no command was given"
  | unknownArgument => "an argument is not known"
  | unknownCommand => "the command is not known"
  | missingValue => "an option is without its value"
  | unwantedValue => "an option takes no value"
  | repeated => "an option is given twice"
  | missingArgument => "a required argument is missing"

end UsageFault

/-- An argument as it is written. -/
inductive Word where
  | plain (text : String)
  /-- A double dash: every word behind it is a plain one. -/
  | separator
  | long (name : String) (value : Option String)
  | letters (cs : List Char)
deriving DecidableEq, Repr

/-- The name of a long option and the value behind its equals sign. -/
def Word.ofLong (cs : List Char) : Word :=
  let name := String.ofList (cs.takeWhile (· ≠ '='))
  match cs.dropWhile (· ≠ '=') with
  | _ :: value => .long name (some (String.ofList value))
  | [] => .long name none

def Word.ofText (text : String) : Word :=
  match text.toList with
  | ['-', '-'] => .separator
  | '-' :: '-' :: cs => .ofLong cs
  | ['-'] => .plain text
  | '-' :: cs => .letters cs
  | _ => .plain text

end Stencil.Command
