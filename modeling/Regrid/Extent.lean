import Regrid.Literal.Coerce
import Regrid.Matrix
/-!
# Extent — the sizes of a volume

A volume has three spatial axes and any number of further ones, which run over a series of volumes and are never
resampled.
-/
namespace Regrid

/-- **The sizes of the axes of a volume**: three spatial ones and those of its series. -/
structure Extent where
  spatial : Vector Nat 3
  series : List Nat
  deriving DecidableEq, Repr

namespace Extent

/-- **All sizes, in the order of the axes.** -/
def toShape (e : Extent) : Shape := e.spatial.toList ++ e.series

def axes (e : Extent) : Nat := 3 + e.series.length

/-- **The extent of a shape**, if it has three axes. -/
def ofShape? : Shape → Option Extent
  | x :: y :: z :: series => some ⟨triple x y z, series⟩
  | _ => none

/-- **The extent of a grid**: at least three axes, none of them empty. -/
def ofSizes {α : Type} (sizes : List Int) : Except (Fault α) Extent :=
  match ofShape? (sizes.map Int.toNat) with
  | none => .error (.gridAxes sizes)
  | some e => if sizes.any (· < 1) then .error (.gridSizes sizes) else .ok e

def sizesOfLiteral {α : Type} [Scalar α] (l : Literal α) : Except (Fault α) (List Int) := do
  (← l.items?.elim (.error .wrongKind) .ok).mapM Literal.toInt

/-- **An item of a list by its axis**, which may count from the end. -/
def atAxis {α β : Type} (xs : List β) (axis : Int) : Except (Fault α) β :=
  match (Shape.axis? xs.length axis).bind (xs[·]?) with
  | some x => .ok x
  | none => .error .indexOutside

@[simp] theorem length_toShape (e : Extent) : e.toShape.length = e.axes := by
  simp [toShape, axes]

theorem ofShape?_toShape (e : Extent) : ofShape? e.toShape = some e := by
  obtain ⟨⟨⟨spatial⟩, h⟩, series⟩ := e
  match spatial, h with
  | [x, y, z], _ => rfl

end Extent
end Regrid
