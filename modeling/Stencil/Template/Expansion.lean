import Stencil.Error
import Stencil.Parameter.Scope
import Stencil.Template.Writer

/-!
# Steps of an expansion

An expansion writes a document and calls hooks on the way. Each step works on the writer and on a
state of the hooks, and both survive a failure.
-/

namespace Stencil.Template

/-- What an expansion works on. -/
structure Work (σ : Type) where
  writer : Writer
  state : σ

/-- A step of an expansion. -/
def Expansion (σ α : Type) := Work σ → Except Error α × Work σ

namespace Expansion

variable {σ α β : Type}

instance : Monad (Expansion σ) where
  pure a := fun w => (.ok a, w)
  bind x f := fun w =>
    match x w with
    | (.ok a, w) => f a w
    | (.error e, w) => (.error e, w)

theorem bind_apply (x : Expansion σ α) (f : α → Expansion σ β) (w : Work σ) :
    (x >>= f) w =
      match x w with
      | (.ok a, w) => f a w
      | (.error e, w) => (.error e, w) := rfl

def fail (e : Error) : Expansion σ α := fun w => (.error e, w)

/-- A result that needs no work. -/
def lift (x : Except Error α) : Expansion σ α := fun w => (x, w)

/-- A call of the writer. -/
def write (call : Writer → Except WriterFault Unit × Writer) : Expansion σ Unit := fun w =>
  match call w.writer with
  | (.ok (), writer) => (.ok (), { w with writer := writer })
  | (.error fault, writer) => (.error (.writer fault), { w with writer := writer })

def getState : Expansion σ σ := fun w => (.ok w.state, w)

def setState (s : σ) : Expansion σ Unit := fun w => (.ok (), { w with state := s })

def getWriter : Expansion σ Writer := fun w => (.ok w.writer, w)

end Expansion

/-! ## Hooks -/

inductive Container where
  | object
  | array
deriving DecidableEq, Repr

/-- The four places around a container and its contents. -/
inductive Boundary where
  | beforeStart
  | afterStart
  | beforeEnd
  | afterEnd
deriving DecidableEq, Repr

/-- What is called on the way of an expansion. The name is the one that a container is written
under, none for items of arrays and for the whole document. -/
structure Hooks (σ : Type) where
  boundary : Boundary → Container → Option String → Scope → Expansion σ Unit
  /-- Called before a scalar member is written. A yes means that the member is dealt with. -/
  beforeProperty : String → Json → Scope → Expansion σ Bool
  afterProperty : String → Json → Scope → Expansion σ Unit

/-- Hooks that do nothing. -/
def Hooks.none : Hooks Unit where
  boundary _ _ _ _ := pure ()
  beforeProperty _ _ _ := pure false
  afterProperty _ _ _ := pure ()

end Stencil.Template
