import Regrid.Fault
/-!
# Capacity — how large an array can be

The cells of an array take eight bytes each.  A shape that asks for more bytes than can be counted has no array, and one
that asks for more than the machine has finds no room.
-/
namespace Regrid

/-- **The memory of a machine.** -/
class Capacity where
  /-- The least number of cells for which there is no room. -/
  roomless : Nat

/-- **The machine that a program runs on**, unless another one is spoken of. -/
instance (priority := low) : Capacity := ⟨1 <<< 34⟩

namespace Shape

/-- **The least number of cells whose bytes cannot be counted.** -/
def countless : Nat := 1 <<< 60

/-- **There is room for the cells of an array.**  Axes of size zero do not count towards its bytes. -/
def reserve [Capacity] {α : Type} (sizes : List Nat) : Except (Fault α) Unit :=
  let cells := Shape.count (sizes.filter (· ≠ 0))
  if countless ≤ cells then .error .shapeMismatch
  else if Capacity.roomless ≤ cells then .error .noRoom
  else .ok ()

/-- **There is room for each axis of a lattice, and then for all of it.** -/
def reserveLattice [Capacity] {α : Type} (sizes : List Nat) : Except (Fault α) Unit := do
  for n in sizes do reserve [n]
  reserve sizes

end Shape
end Regrid
