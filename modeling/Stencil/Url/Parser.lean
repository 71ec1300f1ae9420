import Stencil.Text.Blank
import Stencil.Url.Basic

/-!
# Reading URLs

A text as the URL of a request. Control characters and spaces around it and line breaks inside of it
do not count. A backslash counts as a slash. Only the schemes of the web are accepted; in others the
faults of the host are still found first.
-/

namespace Stencil.Url

/-! ## Schemes -/

/-- How a scheme is followed. -/
inductive SchemeKind where
  /-- A host has to follow, after any number of slashes. -/
  | web
  | file
  | other
deriving DecidableEq, Repr

def schemeKind (scheme : String) : SchemeKind :=
  if ["http", "https", "ws", "wss", "ftp"].contains scheme then .web
  else if scheme = "file" then .file
  else .other

def defaultPort? (scheme : String) : Option Nat :=
  if scheme = "http" ∨ scheme = "ws" then some 80
  else if scheme = "https" ∨ scheme = "wss" then some 443
  else if scheme = "ftp" then some 21
  else none

def isSchemeChar (c : Char) : Bool := c.isAlphanum || c == '+' || c == '-' || c == '.'

/-- The scheme in lower case, and what follows its colon. -/
def scheme? (cs : List Char) : Option (String × List Char) :=
  if (cs.head?.map Char.isAlpha).getD false then
    match cs.dropWhile isSchemeChar with
    | ':' :: rest => some (String.ofList ((cs.takeWhile isSchemeChar).map Char.toLower), rest)
    | _ => none
  else none

/-! ## Authority -/

/-- Whether a character counts as a slash. -/
def isSlash (kind : SchemeKind) (c : Char) : Bool := c == '/' || (c == '\\' && kind != .other)

/-- Whether a character ends the authority. -/
def endsAuthority (kind : SchemeKind) (c : Char) : Bool := isSlash kind c || c == '?' || c == '#'

/-- What is before and after the last at-sign. -/
def splitLastAt (cs : List Char) : Option (List Char × List Char) :=
  match cs.reverse.span (· != '@') with
  | (back, _ :: front) => some (front.reverse, back.reverse)
  | (_, []) => none

/-- The user and the password, which starts behind the first colon, in encoded form. -/
def userInfo (cs : List Char) : String × String :=
  let encoded (cs : List Char) := String.ofList (Text.percentEncode keptInUserInfo cs)
  match cs.span (· != ':') with
  | (user, _ :: password) => (encoded user, encoded password)
  | (user, []) => (encoded user, "")

/-- The host and what follows it, from a colon outside of brackets on. -/
def splitHost (bracketed : Bool) : List Char → List Char × List Char
  | [] => ([], [])
  | c :: cs =>
    if c = ':' ∧ !bracketed then ([], c :: cs)
    else
      let (host, rest) :=
        splitHost (if c = '[' then true else if c = ']' then false else bracketed) cs
      (c :: host, rest)

/-- The port number behind a host, none where no digits are. -/
def portNumber? (cs : List Char) : Except Fault (Option Nat) :=
  match cs with
  | ':' :: digits =>
    if !digits.all Char.isDigit then .error .invalidPort
    else if digits.isEmpty then .ok none
    else if Text.natOfDigits digits < twoTo 16 then .ok (some (Text.natOfDigits digits))
    else .error .invalidPort
  | _ => .ok none

/-- The user, the password, the host and the port number of an authority. -/
structure Authority where
  username : String
  password : String
  host : Host
  portNumber : Option Nat

/-- The authority that a text of a web scheme writes. -/
def parseAuthority (cs : List Char) : Except Fault Authority :=
  let (info, cs) := (splitLastAt cs).getD ([], cs)
  let (username, password) := userInfo info
  let (hostText, portText) := splitHost false cs
  if hostText.isEmpty then .error .emptyHost
  else
    match Host.parse hostText with
    | .error e => .error e
    | .ok host => (portNumber? portText).map fun number => ⟨username, password, host, number⟩

/-! ## Path -/

def isSingleDot (segment : List Char) : Bool :=
  [".", "%2e"].contains (String.ofList (segment.map Char.toLower))

def isDoubleDot (segment : List Char) : Bool :=
  ["..", ".%2e", "%2e.", "%2e%2e"].contains (String.ofList (segment.map Char.toLower))

/-- Whether a segment looks like the letter of a drive; such a segment is never taken back. -/
def isDrive : List Char → Bool
  | [letter, sign] => letter.isAlpha && (sign == ':' || sign == '|')
  | _ => false

/-- The segments without the last one, which comes first. -/
def takeBack : List (List Char) → List (List Char)
  | [] => []
  | segment :: above => if isDrive segment then segment :: above else above

/-- Follow the segments that are dots. The segments passed come last one first. -/
def followDots (passed : List (List Char)) : List (List Char) → List (List Char)
  | [] => passed.reverse
  | [last] =>
    if isDoubleDot last then (takeBack passed).reverse ++ [[]]
    else if isSingleDot last then passed.reverse ++ [[]]
    else passed.reverse ++ [last]
  | segment :: rest =>
    if isDoubleDot segment then followDots (takeBack passed) rest
    else if isSingleDot segment then followDots passed rest
    else followDots (segment :: passed) rest

/-- The segments of a path, without the slash that it starts with. -/
def pathSegments (cs : List Char) : List String :=
  let path := cs.map fun c => if c = '\\' then '/' else c
  let path := match path with
    | '/' :: rest => rest
    | path => path
  let segments := (Text.splitAt '/' path).map (Text.percentEncode keptInPath)
  (followDots [] segments).map String.ofList

/-! ## Whole URLs -/

/-- The part between a sign and the first `stop`, and what follows it. -/
def splitPart (sign stop : Char) (cs : List Char) : Option (List Char) × List Char :=
  match cs with
  | c :: rest =>
    if c = sign then (some (rest.takeWhile (· != stop)), rest.dropWhile (· != stop)) else (none, cs)
  | [] => (none, [])

/-- The URL of a web scheme, from behind the colon of the scheme on. -/
def parseWeb (scheme : String) (cs : List Char) : Except Fault Url :=
  let cs := cs.dropWhile (isSlash .web)
  let rest := cs.dropWhile fun c => !endsAuthority .web c
  match parseAuthority (cs.takeWhile fun c => !endsAuthority .web c) with
  | .error e => .error e
  | .ok authority =>
    let path := rest.takeWhile fun c => c != '?' && c != '#'
    let rest := rest.dropWhile fun c => c != '?' && c != '#'
    let (query, rest) := splitPart '?' '#' rest
    let fragment := match rest with
      | _ :: fragment => some fragment
      | [] => none
    .ok
      { scheme := scheme
        username := authority.username
        password := authority.password
        host := authority.host
        portNumber :=
          if authority.portNumber = defaultPort? scheme then none else authority.portNumber
        path := pathSegments path
        query := query.map fun q => String.ofList (Text.percentEncode keptInQuery q)
        fragment := fragment.map fun f => String.ofList (Text.percentEncode keptInFragment f) }

/-- What is wrong with the authority of a scheme that has none of the web's rules. -/
def otherFault? (cs : List Char) : Option Fault :=
  match cs with
  | '/' :: '/' :: cs =>
    let isEnd := endsAuthority .other
    let authority := cs.takeWhile fun c => !isEnd c
    let (info?, afterAt) := match splitLastAt authority with
      | some (info, rest) => (some info, rest)
      | none => (none, authority)
    let (hostText, portText) := splitHost false afterAt
    let userWritten := match info? with
      | some info => !info.isEmpty && info != [':']
      | none => false
    if info? == some [] && afterAt.isEmpty && authority.length < cs.length then some .emptyHost
    else
      match Host.parseOpaque hostText with
      | .error e => some e
      | .ok _ =>
        if hostText.isEmpty ∧ !portText.isEmpty then some .emptyHost
        else
          match portNumber? (portText.takeWhile (· != '\\')) with
          | .error e => some e
          | .ok _ => if hostText.isEmpty ∧ userWritten then some .emptyHost else none
  | _ => none

/-- What is wrong with the host of a file. -/
def fileFault? (cs : List Char) : Option Fault :=
  match cs with
  | a :: b :: cs =>
    let hostText := cs.takeWhile fun c => !endsAuthority .file c
    if !isSlash .file a ∨ !isSlash .file b ∨ hostText.isEmpty ∨ isDrive hostText then none
    else
      match Host.parse hostText with
      | .error e => some e
      | .ok _ => none
  | _ => none

/-- The characters of a text that count. -/
def significant (text : String) : List Char :=
  (Text.strip (fun c => c.toNat ≤ 32) text.toList).filter fun c =>
    c != '\t' && c != '\n' && c != '\r'

/-- The URL that a text writes. -/
def parse (text : String) : Except Fault Url :=
  match scheme? (significant text) with
  | none => .error .relativeWithoutBase
  | some (scheme, cs) =>
    let unsupported (fault? : Option Fault) : Fault := fault?.getD (.unsupportedScheme scheme)
    match schemeKind scheme with
    | .web =>
      if scheme = "http" ∨ scheme = "https" then parseWeb scheme cs
      else
        match parseWeb scheme cs with
        | .error e => .error e
        | .ok _ => .error (unsupported none)
    | .file => .error (unsupported (fileFault? cs))
    | .other => .error (unsupported (otherFault? cs))

end Stencil.Url
