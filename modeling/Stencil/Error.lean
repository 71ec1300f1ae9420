import Stencil.Path.Error
import Stencil.Slot.Token
import Stencil.Template.Writer
import Stencil.Url.Error

/-!
# Errors

What can go wrong between reading a template and sending a request.
-/

namespace Stencil

inductive Error where
  | path (e : Path.PathError)
  | slot (e : Slot.SlotError)
  /-- What was asked for breaks a rule that the caller has to keep. -/
  | precondition (what : String)
  | writer (fault : Template.WriterFault)
  | json
  | yaml
  | io
  | http
  | url (text : String) (fault : Url.Fault)
  /-- Named templates lead to each other without an end in sight. -/
  | tooDeep
deriving DecidableEq, Repr

def Error.message : Error → String
  | path e => e.message
  | slot e => e.message
  | precondition what => "Precondition violated: " ++ what
  | writer fault => "Invalid writer state: " ++ fault.message
  | json => "JSON error"
  | yaml => "YAML error"
  | io => "IO error"
  | http => "HTTP error"
  | url text fault => "Invalid URL '" ++ text ++ "': " ++ fault.message
  | tooDeep => "Named templates nest too deep"

end Stencil
