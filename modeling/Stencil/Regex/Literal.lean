import Stencil.Regex.Parser
import Stencil.Regex.Program

/-!
# Regular expressions between slashes

A literal `/pattern/flags`: where it ends in a text, and the expression that it compiles to. The
flag `i` ignores case, `m` lets `^` and `$` hold at every line, `s` lets the dot take line ends, and
`g` changes nothing.
-/

namespace Stencil.Regex

/-- A letter that may follow the closing slash. -/
def isFlag (c : Char) : Bool :=
  c == 'g' || c == 'i' || c == 'm' || c == 's'

/-- The text up to the slash that closes it and what follows that slash. A backslash keeps the
character behind it from closing. -/
def patternBody? : List Char → Option (List Char × List Char)
  | [] => none
  | '\\' :: c :: cs => (patternBody? cs).map fun (body, rest) => ('\\' :: c :: body, rest)
  | ['\\'] => none
  | '/' :: cs => some ([], cs)
  | c :: cs => (patternBody? cs).map fun (body, rest) => (c :: body, rest)

/-- The literal at the start of a text that begins with a slash, its flags included, and the
rest. -/
def cutLiteral? : List Char → Option (List Char × List Char)
  | '/' :: cs =>
    (patternBody? cs).map fun (body, rest) =>
      ('/' :: body ++ '/' :: rest.takeWhile isFlag, rest.dropWhile isFlag)
  | _ => none

/-- The parts of a literal: the pattern, up to the last slash, and the flags behind it. The first
slash is dropped. -/
def literalParts (literal : List Char) : List Char × List Char :=
  let body := match literal with
    | '/' :: cs => cs
    | _ => literal
  if body.contains '/' then
    let back := body.reverse
    ((back.dropWhile (· != '/')).drop 1 |>.reverse, (back.takeWhile (· != '/')).reverse)
  else (body, [])

/-- The options that a run of flags names. -/
def flagsOf (flags : List Char) : Flags :=
  { caseless := flags.contains 'i', multiLine := flags.contains 'm', dotAll := flags.contains 's' }

/-- The expression of a literal. Where the pattern cannot be read, the error is the pattern. -/
def compileLiteral (literal : String) : Except String Compiled :=
  let (pattern, flags) := literalParts literal.toList
  match Pattern.parse? (flagsOf flags) pattern with
  | some p => .ok p.compile
  | none => .error (String.ofList pattern)

end Stencil.Regex
