import Stencil.Command.Run

/-!
# The program

Reads the files that a command line names and prints what the command makes of them.
-/

open Stencil

/-- The text of a file, if it is there and is UTF-8. -/
def readFile? (path : String) : IO (Option String) := do
  try
    return some (← IO.FS.readFile path)
  catch _ =>
    return none

/-- The files that an invocation names, with their texts. -/
def readFiles (i : Command.Invocation) : IO (List (String × String)) := do
  let mut files := []
  for path in i.files do
    if let some text ← readFile? path then
      files := (path, text) :: files
  return files

def readInput? (i : Command.Invocation) : IO (Option String) := do
  if i.readsInput then
    try
      let bytes ← (← IO.getStdin).readBinToEnd
      return String.fromUTF8? bytes
    catch _ =>
      return none
  else return none

def main (arguments : List String) : IO UInt32 := do
  match Command.Invocation.ofArguments arguments with
  | .error fault =>
    IO.eprintln fault.message
    return 2
  | .ok i =>
    let files ← readFiles i
    let input? ← readInput? i
    match i.run ⟨fun path => files.lookup path, input?⟩ with
    | .ok text =>
      IO.print text
      return 0
    | .error failure =>
      IO.eprintln failure.message
      return 1
