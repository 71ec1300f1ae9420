import Stencil.Json.Basic

/-!
# Building a document call by call

A writer takes the calls of a streaming JSON writer and builds the document that they describe. It
keeps the objects and arrays that are open, the innermost first, and the finished document. A call
that does not fit is refused; one that ends the wrong container drops the innermost one.
-/

namespace Stencil.Template

/-- Why a call is refused. -/
inductive WriterFault where
  | namePending
  | nameOutsideObject
  | endAfterName
  | noObject
  | noArray
  | unclosed
  | nameExpected
  | complete
deriving DecidableEq, Repr

def WriterFault.message : WriterFault → String
  | namePending => "property name already pending"
  | nameOutsideObject => "property name outside of an object"
  | endAfterName => "object ended after a property name"
  | noObject => "no object to end"
  | noArray => "no array to end"
  | unclosed => "document has unclosed objects or arrays"
  | nameExpected => "property name expected inside object"
  | complete => "document already complete"

/-- An open container. -/
inductive Frame where
  /-- The members so far, and the name of the one that comes next. -/
  | object (members : Json.Members) (pending : Option String)
  /-- The items so far, the last one first. -/
  | array (items : List Json)

structure Writer where
  stack : List Frame
  root : Option Json

namespace Writer

def empty : Writer := ⟨[], none⟩

/-- How many containers are open. -/
def depth (w : Writer) : Nat := w.stack.length

/-- Whether a value fits in the place that the writer is at. -/
def slotFault? (w : Writer) : Option WriterFault :=
  match w.stack with
  | .object _ none :: _ => some .nameExpected
  | [] => if w.root.isSome then some .complete else none
  | _ => none

/-- Put a value in its place. -/
def attach (w : Writer) (v : Json) : Except WriterFault Unit × Writer :=
  match w.stack with
  | .object ms (some name) :: rest =>
    (.ok (), { w with stack := .object (Entries.insert ms name v) none :: rest })
  | .object _ none :: _ => (.error .nameExpected, w)
  | .array xs :: rest => (.ok (), { w with stack := .array (v :: xs) :: rest })
  | [] => (.ok (), { w with root := some v })

def writeName (w : Writer) (name : String) : Except WriterFault Unit × Writer :=
  match w.stack with
  | .object ms none :: rest => (.ok (), { w with stack := .object ms (some name) :: rest })
  | .object _ (some _) :: _ => (.error .namePending, w)
  | _ => (.error .nameOutsideObject, w)

/-- Open a container. -/
def open_ (w : Writer) (frame : Frame) : Except WriterFault Unit × Writer :=
  match w.slotFault? with
  | some fault => (.error fault, w)
  | none => (.ok (), { w with stack := frame :: w.stack })

def startObject (w : Writer) : Except WriterFault Unit × Writer := w.open_ (.object [] none)

def startArray (w : Writer) : Except WriterFault Unit × Writer := w.open_ (.array [])

def endObject (w : Writer) : Except WriterFault Unit × Writer :=
  match w.stack with
  | .object ms none :: rest => { w with stack := rest }.attach (.obj ms)
  | .object _ (some _) :: rest => (.error .endAfterName, { w with stack := rest })
  | _ :: rest => (.error .noObject, { w with stack := rest })
  | [] => (.error .noObject, w)

def endArray (w : Writer) : Except WriterFault Unit × Writer :=
  match w.stack with
  | .array xs :: rest => { w with stack := rest }.attach (.arr xs.reverse)
  | _ :: rest => (.error .noArray, { w with stack := rest })
  | [] => (.error .noArray, w)

/-- Write a complete value. -/
def writeValue (w : Writer) (v : Json) : Except WriterFault Unit × Writer :=
  match w.slotFault? with
  | some fault => (.error fault, w)
  | none => w.attach v

/-- Write a name and the value under it. -/
def writeProperty (w : Writer) (name : String) (v : Json) : Except WriterFault Unit × Writer :=
  match w.writeName name with
  | (.ok (), w) => w.writeValue v
  | (.error fault, w) => (.error fault, w)

/-- The finished document, none where nothing was written. -/
def finish (w : Writer) : Except WriterFault (Option Json) :=
  if w.stack.isEmpty then .ok w.root else .error .unclosed

end Writer

end Stencil.Template
