import Regrid.Extent
/-!
# Cursor — a movable place in a volume

A cursor holds one index per axis.  Spatial indices may be fractional; those of the series have to be whole when a
value is read, and count from the end if they are negative.
-/
namespace Regrid

/-- **One index for each spatial axis and each axis of the series.** -/
structure Cursor (α : Type) where
  spatial : Vector (Number α) 3
  series : List (Number α)

namespace Cursor

variable {α : Type}

/-- **The cursor at the first voxel** of a volume with a number of series axes. -/
def start (seriesAxes : Nat) : Cursor α := ⟨Vector.replicate 3 (.int 0), List.replicate seriesAxes (.int 0)⟩

/-- **All indices, in the order of the axes.** -/
def toList (c : Cursor α) : List (Number α) := c.spatial.toList ++ c.series

def axes (c : Cursor α) : Nat := 3 + c.series.length

def get? (c : Cursor α) (axis : Nat) : Option (Number α) := c.toList[axis]?

/-- **Assigning the index of an axis**; beyond the last axis nothing happens. -/
def set (c : Cursor α) (axis : Nat) (v : Number α) : Cursor α :=
  if h : axis < 3 then { c with spatial := c.spatial.set axis v } else { c with series := c.series.set (axis - 3) v }

/-- **Returning to the start of the series**; the spatial indices stay. -/
def resetSeries (c : Cursor α) : Cursor α := { c with series := List.replicate c.series.length (.int 0) }

/-- **Returning to the first voxel.** -/
def reset (c : Cursor α) : Cursor α := start c.series.length

/-- **The indices of the series as literals.** -/
def place (c : Cursor α) : List (Literal α) := c.series.map .number

/-- **The spatial indices as a point.** -/
def position [Scalar α] (c : Cursor α) : Except (Fault α) (Point α) := c.spatial.mapM Number.toReal

@[simp] theorem length_toList (c : Cursor α) : c.toList.length = c.axes := by
  simp [toList, axes]

@[simp] theorem axes_set (c : Cursor α) (axis : Nat) (v : Number α) : (c.set axis v).axes = c.axes := by
  unfold set; split <;> simp [axes]

/-- **An assignment changes the index of one axis only.** -/
theorem toList_set (c : Cursor α) (axis : Nat) (v : Number α) : (c.set axis v).toList = c.toList.set axis v := by
  unfold set toList
  split
  next h => rw [List.set_append_left _ _ (by simpa using h)]; simp [Vector.toList_set]
  next h => rw [List.set_append_right _ _ (by simpa using h)]; simp

@[simp] theorem toList_reset (c : Cursor α) : c.reset.toList = List.replicate c.axes (.int 0) := by
  simp [reset, start, toList, axes, ← List.replicate_append_replicate]

end Cursor
end Regrid
