/-!
# Tensor — dense arrays of any number of axes

A shape is a list of sizes.  The cells of a tensor are stored in row-major order, in which the last axis varies
fastest; `Shape.indices` lists the cells in that order and `Shape.offset?` is the position of a cell in it.
-/
namespace Regrid

/-- **The sizes of the axes of a tensor.** -/
abbrev Shape := List Nat

namespace Shape

/-- **The number of cells.** -/
def count : Shape → Nat
  | [] => 1
  | n :: s => n * count s

/-- **All cells, in row-major order.** -/
def indices : Shape → List (List Nat)
  | [] => [[]]
  | n :: s => (List.range n).flatMap fun i => (indices s).map (i :: ·)

/-- **The position of a cell in row-major order**, if it is a cell. -/
def offset? : Shape → List Nat → Option Nat
  | [], [] => some 0
  | n :: s, i :: is => if i < n then (offset? s is).map (i * count s + ·) else none
  | _, _ => none

theorem length_indices : ∀ s : Shape, s.indices.length = s.count
  | [] => rfl
  | n :: s => by
    simp only [indices, count, List.length_flatMap, List.length_map, length_indices s]
    rw [List.map_const', List.length_range, List.sum_replicate_nat]

/-- **The position of an axis counted from either end**: negative axes count from the last. -/
def axis? (n : Nat) (i : Int) : Option Nat :=
  if 0 ≤ i then if i < n then some i.toNat else none
  else if -(n : Int) ≤ i then some (i + n).toNat else none

/-- **The common size of two axes**, one of which is repeated if it has size one. -/
def joinAxes? (m n : Nat) : Option Nat := if m = n ∨ n = 1 then some m else if m = 1 then some n else none

/-- **The smallest shape to which two shapes can be repeated**, their axes being matched from the last. -/
def join? (s t : Shape) : Option Shape :=
  let rank := max s.length t.length
  let padded (u : Shape) := List.replicate (rank - u.length) 1 ++ u
  ((padded s).zip (padded t)).mapM fun (m, n) => joinAxes? m n

end Shape

/-- **A dense array**: a shape, and one cell for each of its indices. -/
structure Tensor (β : Type) where
  shape : Shape
  cells : Vector β shape.count

namespace Tensor

variable {β γ : Type}

/-- **The tensor with given cells in row-major order**, if there are as many as the shape asks for. -/
def ofList? (shape : Shape) (xs : List β) : Option (Tensor β) :=
  if h : xs.length = shape.count then some ⟨shape, ⟨xs.toArray, by simpa using h⟩⟩ else none

/-- **The cells in row-major order.** -/
def toList (t : Tensor β) : List β := t.cells.toList

/-- **The tensor whose cell at each index is given by a function.** -/
def build (shape : Shape) (f : List Nat → β) : Tensor β :=
  ⟨shape, ⟨(shape.indices.map f).toArray, by simp [Shape.length_indices]⟩⟩

/-- **The tensor whose cells are computed in row-major order by an action.** -/
def buildM {m : Type → Type} [Monad m] (shape : Shape) (f : List Nat → m β) : m (Tensor β) := do
  let indices : Vector (List Nat) shape.count := ⟨shape.indices.toArray, by simp [Shape.length_indices]⟩
  return ⟨shape, ← indices.mapM f⟩

/-- **The cell at an index**, if the index lies inside the shape. -/
def get? (t : Tensor β) (index : List Nat) : Option β :=
  (t.shape.offset? index).bind (t.cells[·]?)

/-- **Applying a function to every cell.** -/
def map (f : β → γ) (t : Tensor β) : Tensor γ := ⟨t.shape, t.cells.map f⟩

/-- **Applying an action to every cell, in row-major order.** -/
def mapM {m : Type → Type} [Monad m] (f : β → m γ) (t : Tensor β) : m (Tensor γ) := do
  return ⟨t.shape, ← t.cells.mapM f⟩

/-- **The same cells under another shape**, if it has as many. -/
def reshape? (t : Tensor β) (shape : Shape) : Option (Tensor β) :=
  if h : t.shape.count = shape.count then some ⟨shape, h ▸ t.cells⟩ else none

/-- **The cell of an axis that an index reads when the tensor is repeated along its axes of size one.** -/
def broadcastIndex (shape : Shape) (index : List Nat) : List Nat :=
  List.zipWith (fun n i => if n = 1 then 0 else i) shape index

/-- **A tensor repeated to a larger shape**: axes are matched from the last, axes of size one are repeated, and
surplus leading axes must have size one. -/
def broadcast? (t : Tensor β) (shape : Shape) : Option (Tensor β) :=
  let surplus := t.shape.length - shape.length
  let missing := shape.length - t.shape.length
  let kept := t.shape.drop surplus
  if (t.shape.take surplus).all (· == 1) && (kept.zip (shape.drop missing)).all (fun (n, m) => n == m || n == 1) then
    buildM shape fun index => t.get? (List.replicate surplus 0 ++ broadcastIndex kept (index.drop missing))
  else none

/-- **The part of a tensor whose last indices are fixed**: the first `rank` axes remain. -/
def select? (t : Tensor β) (rank : Nat) (last : List Nat) : Option (Tensor β) :=
  buildM (t.shape.take rank) fun index => t.get? (index ++ last)

end Tensor
end Regrid
