/-!
# Powers of two and ten

The bounds of fixed widths and the units of decimal places.
-/

namespace Stencil

def twoTo (n : Nat) : Nat := Nat.pow 2 n

def tenTo (n : Nat) : Nat := Nat.pow 10 n

end Stencil
