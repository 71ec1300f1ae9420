import Stencil.Html
import Stencil.Json.Parser
import Stencil.Json.Printer
import Stencil.Path.Evaluate

/-!
# Resolved values

What a name or a path resolves to. A miss is a value of its own and never an error.
-/

namespace Stencil

/-- The number that the decimal's text writes in JSON. -/
def Decimal.toJson (d : Decimal) : Json := (Json.parse? d.text).getD .null

inductive Value where
  | number (d : Decimal)
  | string (s : String)
  | bool (b : Bool)
  | json (v : Json)
  | html (h : HtmlValue)
  | undefined

namespace Value

def isUndefined : Value → Bool
  | undefined => true
  | _ => false

/-- The kind of a value, as it is named in messages. -/
def kindName : Value → String
  | number _ => "number"
  | string _ => "string"
  | bool _ => "boolean"
  | json _ => "json"
  | html _ => "html"
  | undefined => "undefined"

/-- The text that stands for the value in a rendered text. -/
def text : Value → String
  | number d => d.text
  | string s => s
  | bool b => if b then "true" else "false"
  | json v => v.plainText
  | html h => h.text
  | undefined => ""

def toJson : Value → Json
  | number d => d.toJson
  | string s => .str s
  | bool b => .bool b
  | json v => v
  | html h => .str h.text
  | undefined => .null

/-- The JSON value of a value that is one. -/
def asJson? : Value → Option Json
  | json v => some v
  | _ => none

/-- Equality of values of one kind. JSON and HTML values are equal when their texts are. -/
def equal : Value → Value → Bool
  | number a, number b => a.equal b
  | string a, string b => a == b
  | bool a, bool b => a == b
  | json a, json b => a.plainText == b.plainText
  | html a, html b => a.text == b.text
  | undefined, undefined => true
  | _, _ => false

end Value

end Stencil
