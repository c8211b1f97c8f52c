import Regrid.Dtype.Value
/-!
# Volume — arrays of cells of one type

A volume is a dense array whose cells have values of one type.  `Volume.toOutput` and `Volume.toStored` convert them to
another type, and round real cells before they become integers; `Volume.choose` takes each cell from one of two volumes.
-/
namespace Regrid

/-- **A dense array of cells of one type.** -/
structure Volume (α : Type) where
  dtype : Dtype
  cells : Tensor (dtype.Value α)

namespace Volume

variable {α : Type}

/-- **The sizes of the axes.** -/
def shape (v : Volume α) : Shape := v.cells.shape

/-- **The cell at an index**, if the index lies inside the shape. -/
def cell? (v : Volume α) (index : List Nat) : Option (v.dtype.Value α) := v.cells.get? index

/-- **The same cells under another shape**, if it has as many. -/
def reshape? (v : Volume α) (shape : Shape) : Option (Volume α) := (v.cells.reshape? shape).map (⟨v.dtype, ·⟩)

variable [Scalar α]

/-- **The length that suffices for the cells as text.** -/
def textLength (v : Volume α) : Nat :=
  match v.dtype, v.cells with
  | .other, t => (t.toList.map fun l => (Text.standalone l).length).foldl max 1
  | d, _ => d.textLength

/-- **A type to convert to**, whose length is set if it is left open. -/
def settled (v : Volume α) : Dtype → Dtype
  | .text 0 => .text v.textLength
  | d => d

/-- **Converting the cells to another type.** -/
def cast (v : Volume α) (d : Dtype) : Except (Fault α) (Volume α) :=
  return ⟨v.settled d, ← v.cells.mapM (v.dtype.convert (v.settled d))⟩

/-- **The cells as real numbers of double precision.** -/
def toReals (v : Volume α) : Except (Fault α) (Tensor α) := v.cells.mapM (v.dtype.convert (.real .double))

/-- **Rounding the cells to integers**, cells that are not a number becoming zero. -/
def rounded (v : Volume α) : Except (Fault α) (Volume α) := do
  return ⟨.real .double, ← v.cells.mapM fun x => do return Dtype.roundToInteger (← v.dtype.toScalar x)⟩

/-- **Converting the cells of an output array**: for an integer type they are rounded first; without a type they stay
as they are. -/
def toOutput (v : Volume α) : Option Dtype → Except (Fault α) (Volume α)
  | none => .ok v
  | some d => do (← if d.isInteger then v.rounded else pure v).cast d

/-- **Converting the cells of a volume to be stored**: cells that are not integers are rounded for an integer type. -/
def toStored (v : Volume α) (d : Dtype) : Except (Fault α) (Volume α) := do
  (← if d.isInteger && !v.dtype.isInteger then v.rounded else pure v).cast d

/-- **Taking each cell from one volume or from another**, as a third array says; all are repeated to a common shape,
and the cells are converted to a type. -/
def choose (d : Dtype) (first : Tensor Bool) (v w : Volume α) : Except (Fault α) (Volume α) := do
  let shape? := (Shape.join? first.shape v.shape).bind (Shape.join? · w.shape)
  let v ← v.cast d
  let w ← w.cast d
  let cells? : Option (Tensor (Bool × v.dtype.Value α × w.dtype.Value α)) := do
    let shape ← shape?
    let first ← first.broadcast? shape
    let x ← v.cells.broadcast? shape
    let y ← w.cells.broadcast? shape
    Tensor.buildM shape fun index => return (← first.get? index, ← x.get? index, ← y.get? index)
  let some cells := cells? | .error .shapeMismatch
  return ⟨d, ← cells.mapM fun (b, x, y) => if b then v.dtype.convert d x else w.dtype.convert d y⟩

/-- **The type that suits one leaf of a nested list.**  Whole numbers beyond 64 bits stay as they were written. -/
def leafDtype : Literal α → Dtype
  | .number (.bool _) => .bool
  | .number (.int n) =>
    if IntType.int64.holds n then .int .int64 else if IntType.uint64.holds n then .int .uint64 else .other
  | .number (.real _) => .real .double
  | .text s => .text (max 1 s.length)
  | _ => .other

/-- **The type that suits the leaves of a nested list**; that of no leaves is real. -/
def commonDtype : List (Literal α) → Except (Fault α) Dtype
  | [] => .ok (.real .double)
  | l :: ls => ls.foldlM (fun d l => d.join (leafDtype l)) (leafDtype l)

/-- **Nested lists as a volume** with cells of a given type. -/
def ofTypedLiteral (d : Dtype) (l : Literal α) : Except (Fault α) (Volume α) :=
  return ⟨d, ← (← l.toTensor).mapM d.ofLiteral⟩

/-- **The sizes asked for an array of some cells**, if they are sizes of it.  One of them may be left open by a `-1`. -/
def sizesFor? (cells : Nat) (sizes : List Int) : Option Shape :=
  let known := Shape.count ((sizes.filter (0 ≤ ·)).map Int.toNat)
  match sizes.filter (· < 0) with
  | [] => some (sizes.map Int.toNat)
  | [-1] => if known = 0 then none else some (sizes.map fun n => if n < 0 then cells / known else n.toNat)
  | _ => none

/-- **Leaves as a volume** of given sizes, with cells of a given type. -/
def ofLeaves (d : Dtype) (sizes : List Int) (leaves : List (Literal α)) : Except (Fault α) (Volume α) := do
  let cells ← leaves.mapM d.ofLiteral
  if Literal.mostAxes < sizes.length then .error .shapeMismatch
  match (sizesFor? cells.length sizes).bind (Tensor.ofList? · cells) with
  | some t => return ⟨d, t⟩
  | none => .error .shapeMismatch

/-- **Nested lists as a volume** whose cells have the type that suits all leaves. -/
def ofLiteral (l : Literal α) : Except (Fault α) (Volume α) := do ofTypedLiteral (← commonDtype l.leaves) l

end Volume
end Regrid
