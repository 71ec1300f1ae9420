import Stencil.Error
import Stencil.Request.Definition
import Stencil.Yaml.Value

/-!
# Catalogs

Request definitions under their names, in the order in which the names first came. A definition
whose name is there replaces the one before in its place.
-/

namespace Stencil

structure Catalog where
  definitions : Dictionary RequestDefinition

namespace Catalog

def empty : Catalog := ⟨.empty⟩

def get? (c : Catalog) (name : String) : Option RequestDefinition := c.definitions.find? name

def insert (c : Catalog) (d : RequestDefinition) : Catalog := ⟨c.definitions.insert d.name d⟩

def ofList (ds : List RequestDefinition) : Catalog := ds.foldl insert empty

def toList (c : Catalog) : List RequestDefinition := c.definitions.entries.map Prod.snd

def names (c : Catalog) : List String := c.definitions.names

def size (c : Catalog) : Nat := c.definitions.size

/-- The catalog of a list of definitions in some file format. -/
def decode {ν : Type} (f : Format ν) (v : ν) : Option Catalog := do
  let ds ← (← f.items? v).mapM (RequestDefinition.decode f)
  some (ofList ds)

def ofJsonText (text : String) : Except Error Catalog :=
  match (Json.parseTree? text).bind (decode Json.treeFormat) with
  | some c => .ok c
  | none => .error .json

def ofYamlText (text : String) : Except Error Catalog :=
  match (Yaml.Node.parse? text).bind (decode Yaml.format) with
  | some c => .ok c
  | none => .error .yaml

end Catalog

end Stencil
