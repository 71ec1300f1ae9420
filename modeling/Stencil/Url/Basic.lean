import Stencil.Url.Host

/-!
# URLs

The parts of a URL of the web, each in its normal form, and the text that they make up.
-/

namespace Stencil

structure Url where
  /-- In lower case. -/
  scheme : String
  username : String
  password : String
  host : Url.Host
  /-- None for the number that goes with the scheme. -/
  portNumber : Option Nat
  /-- The segments between slashes, at least one. -/
  path : List String
  query : Option String
  fragment : Option String
deriving DecidableEq, Repr

namespace Url

/-- The user and the password, with the sign behind them if there are any. -/
def userInfoText (url : Url) : String :=
  let password := if url.password.isEmpty then "" else ":" ++ url.password
  if url.username.isEmpty ∧ url.password.isEmpty then "" else url.username ++ password ++ "@"

def portText (url : Url) : String :=
  match url.portNumber with
  | some number => ":" ++ Text.natText number
  | none => ""

/-- A part behind the sign that starts it. -/
def partText (sign : String) : Option String → String
  | some s => sign ++ s
  | none => ""

def text (url : Url) : String :=
  url.scheme ++ "://" ++ url.userInfoText ++ url.host.text ++ url.portText ++ "/" ++
    "/".intercalate url.path ++ partText "?" url.query ++ partText "#" url.fragment

end Url

end Stencil
