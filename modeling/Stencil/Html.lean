/-!
# HTML documents

Documents come from outside as nodes that know their text and what a path selects below them. A
value is one node or an ordered set of nodes. `Element` is a plain tree that can stand for a
document.
-/

namespace Stencil

/-- A node: its text, and the nodes that a path selects from it, in document order. -/
inductive HtmlNode where
  | mk (text : String) (select : String → List HtmlNode)

namespace HtmlNode

def text : HtmlNode → String
  | mk t _ => t

def select : HtmlNode → String → List HtmlNode
  | mk _ f => f

end HtmlNode

inductive HtmlValue where
  | node (n : HtmlNode)
  | nodes (ns : List HtmlNode)

namespace HtmlValue

/-- The nodes in document order. -/
def toList : HtmlValue → List HtmlNode
  | node n => [n]
  | nodes ns => ns

/-- What a path selects: nothing, one node or a set. A set is searched node by node. -/
def select? (v : HtmlValue) (path : String) : Option HtmlValue :=
  match v.toList.flatMap (·.select path) with
  | [] => none
  | [n] => some (node n)
  | ns => some (nodes ns)

/-- The text of a node, or of a set, a line for each node. -/
def text (v : HtmlValue) : String := "\n".intercalate (v.toList.map HtmlNode.text)

end HtmlValue

/-- An element with its own text and its children. -/
inductive Element where
  | mk (tag : String) (text : String) (children : List Element)
deriving Inhabited

namespace Element

def tag : Element → String
  | mk t _ _ => t

def children : Element → List Element
  | mk _ _ cs => cs

mutual

/-- The text of the element and then of its children. -/
def content : Element → String
  | mk _ t cs => t ++ contents cs

def contents : List Element → String
  | [] => ""
  | c :: cs => content c ++ contents cs

end

mutual

/-- The elements below with the given tag, each before those below it. -/
def named (tag : String) : Element → List Element
  | mk _ _ cs => namedAny tag cs

def namedAny (tag : String) : List Element → List Element
  | [] => []
  | c :: cs => (if c.tag = tag then [c] else []) ++ (named tag c ++ namedAny tag cs)

end

/-- The children with the given tag. -/
def childrenNamed (tag : String) (e : Element) : List Element :=
  e.children.filter fun c => c.tag == tag

/-- What a path selects: with a leading slash all elements below of the tag behind it, otherwise
from child to child by the tags between the slashes. -/
def select (e : Element) (path : String) : List Element :=
  match path.toList with
  | '/' :: tag => named (String.ofList tag) e
  | _ => (path.splitOn "/").foldl (fun es tag => es.flatMap (childrenNamed tag)) [e]

mutual

/-- The height of the tree. -/
def height : Element → Nat
  | mk _ _ cs => heightAny cs + 1

def heightAny : List Element → Nat
  | [] => 0
  | c :: cs => max (height c) (heightAny cs)

end

/-- The element as a node, selections nesting up to the given depth. -/
def toNodeWithin : Nat → Element → HtmlNode
  | 0, e => .mk e.content fun _ => []
  | depth + 1, e => .mk e.content fun path => (e.select path).map (toNodeWithin depth)

/-- The element as a node. Every selection is lower than the element, so the height is deep
enough. -/
def toNode (e : Element) : HtmlNode := toNodeWithin e.height e

end Element

end Stencil
