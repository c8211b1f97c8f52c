import Regrid.Matrix.Solver
import Regrid.Volume
/-!
# Affine — transforms between coordinate spaces

A transform is a homogeneous `4 × 4` matrix.  It acts on points by its first three rows; composing, inverting and
solving act on the whole matrix.
-/
namespace Regrid

/-- **Completing an affine matrix** with `dim` rows by the row `0 … 0 1`; one that has a further row already is left as
it is. -/
def homogeneous? {α : Type} [Scalar α] (dim : Nat) (t : Tensor α) : Option (Matrix (dim + 1) (dim + 1) α) :=
  let entry? (i j : Fin (dim + 1)) : Option α := t.get? [i, j]
  let rows := Vector.finRange (dim + 1)
  if t.shape = [dim, dim + 1] then
    rows.mapM fun i => rows.mapM fun j =>
      if i < Fin.last dim then entry? i j else some (if j = Fin.last dim then 1 else 0)
  else if t.shape = [dim + 1, dim + 1] then rows.mapM fun i => rows.mapM fun j => entry? i j
  else none

/-- **A literal as a homogeneous matrix of a space of `dim` dimensions.** -/
def Literal.toHomogeneous {α : Type} [Scalar α] (dim : Nat) (l : Literal α) :
    Except (Fault α) (Matrix (dim + 1) (dim + 1) α) := do
  let t ← l.toReals
  match homogeneous? dim t with
  | some m => .ok m
  | none => .error (.matrixShape (.int dim) (.int (dim + 1)) t.shape)

/-- **The rows of a literal as a homogeneous matrix** of a space whose number of dimensions is written as a number; no
matrix has a negative number of them.  A number of dimensions written as a real number completes no matrix. -/
def Literal.toHomogeneousRows {α : Type} [Scalar α] (dim l : Literal α) : Except (Fault α) (List (List α)) := do
  let t ← l.toReals
  let .number d := dim | .error .wrongKind
  let next ← d.add (.int 1)
  match t.shape with
  | [m, n] =>
    if d.equals m && next.equals n && (d matches .real _) then .error .wrongKind
    if !((d.equals m || next.equals m) && next.equals n) then .error (.matrixShape d next t.shape)
    match homogeneous? (n - 1) t with
    | some a => return a.toList.map Vector.toList
    | none => .error (.matrixShape d next t.shape)
  | _ => .error (.matrixShape d next t.shape)

/-- **The length of each column of the linear part of an affine matrix**, as given by its rows. -/
def columnLengths {α : Type} [Scalar α] {m n : Nat} (a : Matrix (m + 1) (n + 1) α) : Vector α n :=
  Vector.ofFn fun j => Point.norm (Vector.ofFn fun i : Fin m => (a.get i.castSucc).get j.castSucc)

/-- **The length of each column of a table of numbers without its last row and last column.**  Further axes of the
table are kept. -/
def tableColumnLengths {α : Type} [Scalar α] (t : Tensor α) : Except (Fault α) (Tensor α) :=
  match t.shape with
  | m :: n :: rest => .ok <| Tensor.build ((n - 1) :: rest) fun index =>
      Scalar.sqrt (((List.range (m - 1)).filterMap fun i => t.get? (i :: index)).foldl (fun s x => s + x * x) 0)
  | _ => .error .indexOutside

/-- **Points of any arrangement**: one for each index of a shape. -/
abbrev Points (α : Type) := Tensor (Point α)

namespace Points

variable {α : Type}

/-- **An array whose last axis runs over three coordinates, as points.** -/
def ofReals (t : Tensor α) : Except (Fault α) (Points α) :=
  match t.shape.getLast? with
  | none => .error .indexOutside
  | some n =>
    let points? : Option (Points α) := if n = 3 then Tensor.buildM t.shape.dropLast fun index => do
        return triple (← t.get? (index ++ [0])) (← t.get? (index ++ [1])) (← t.get? (index ++ [2]))
      else none
    points?.elim (.error (.pointShape t.shape)) .ok

end Points

/-- **An affine transform**, as its homogeneous matrix. -/
structure AffineTransform (α : Type) where
  matrix : Matrix 4 4 α

namespace AffineTransform

variable {α : Type} [Scalar α]

/-- **The transform that moves nothing.** -/
def identity : AffineTransform α := ⟨Matrix.identity 4⟩

def ofParts (linear : Matrix 3 3 α) (translation : Point α) : AffineTransform α :=
  ⟨Matrix.ofFn fun i j =>
    if h : i.val < 3 then if k : j.val < 3 then (linear.get ⟨i, h⟩).get ⟨j, k⟩ else translation.get ⟨i, h⟩
    else if j = 3 then 1 else 0⟩

/-- **A transform as it is written**: null is the identity, and the last row of a matrix may be left out. -/
def ofLiteral (l : Literal α) : Except (Fault α) (AffineTransform α) :=
  if l.isGiven then return ⟨← l.toHomogeneous 3⟩ else return identity

/-- **A transform written as a linear part and a translation**: each is repeated to its full shape, but may not be
nested more deeply, and one that is null is left out. -/
def ofLiteralParts (linear translation : Literal α) : Except (Fault α) (AffineTransform α) := do
  let fitted (l : Literal α) (shape : Shape) : Except (Fault α) (Tensor α) := do
    let t ← l.toTensor
    if shape.length < t.shape.length then .error .shapeMismatch
    ((← t.mapM Literal.toCell).broadcast? shape).elim (.error .shapeMismatch) .ok
  let linear ← if linear.isGiven then
      let t ← fitted linear [3, 3]
      pure (Matrix.ofFn fun i j => (t.get? [i, j]).getD 0)
    else pure (Matrix.identity 3)
  let translation ← if translation.isGiven then
      let t ← fitted translation [3]
      pure (Vector.ofFn fun i : Fin 3 => (t.get? [i.val]).getD 0)
    else pure (Vector.replicate 3 0)
  return ofParts linear translation

def linear (t : AffineTransform α) : Matrix 3 3 α :=
  Matrix.ofFn fun i j => (t.matrix.get i.castSucc).get j.castSucc

def translation (t : AffineTransform α) : Point α := Vector.ofFn fun i => (t.matrix.get i.castSucc).get 3

/-- **The image of a point.** -/
def apply (t : AffineTransform α) (p : Point α) : Point α := Point.add (Matrix.apply t.linear p) t.translation

/-- **The transform that applies `u` first and then `t`.** -/
def compose (t u : AffineTransform α) : AffineTransform α := ⟨Matrix.mul t.matrix u.matrix⟩

variable [LinearSolver α]

def inverse (t : AffineTransform α) : Except (Fault α) (AffineTransform α) :=
  return ⟨← LinearSolver.inverse t.matrix⟩

/-- **The transform that `t` has to follow to give `u`**: the inverse of `t` after `u`. -/
def solve (t u : AffineTransform α) : Except (Fault α) (AffineTransform α) := do
  if (← LinearSolver.rank t.matrix) < 4 then .error .singular
  return ⟨← LinearSolver.leastSquares t.matrix u.matrix⟩

omit [LinearSolver α]

/-- **Two transforms are close** when all their entries are, up to `1e-8` and one part in `10 ^ 5` of the second. -/
def isClose (t u : AffineTransform α) : Bool :=
  (List.zipWith (Scalar.isClose (Scalar.ofDecimal 1 (-5)) (Scalar.ofDecimal 1 (-8))) t.matrix.entries
    u.matrix.entries).all id

/-- **The difference up to which a transform counts as the identity** if no other is asked for. -/
def tolerance : α := Scalar.ofDecimal 1 (-12)

/-- **A transform is the identity** up to a tolerance in every entry. -/
def isIdentity (t : AffineTransform α) (tolerance : α) : Bool :=
  (List.zipWith (Scalar.isClose 0 tolerance) t.matrix.entries (Matrix.identity 4 : Matrix 4 4 α).entries).all id

/-- **A transform is the identity up to a tolerance as it is written**: a number, or numbers for the entries of its
matrix, in any arrangement that can be repeated. -/
def isIdentityWithin (t : AffineTransform α) (tolerance : Literal α) : Except (Fault α) Bool := do
  let v ← Volume.ofLiteral tolerance
  match v.dtype with
  | .text _ | .other => .error .wrongKind
  | _ => pure ()
  let tolerance ← v.toReals
  let close? : Option (Tensor Bool) := do
    let shape ← Shape.join? [4, 4] tolerance.shape
    let entries ← (Tensor.ofList? [4, 4] (t.matrix.entries.zip (Matrix.identity 4 : Matrix 4 4 α).entries)).bind
      (·.broadcast? shape)
    let tolerance ← tolerance.broadcast? shape
    Tensor.buildM shape fun index => do
      let (x, y) ← entries.get? index
      return Scalar.isClose 0 (← tolerance.get? index) x y
  close?.elim (.error .shapeMismatch) fun close => .ok (close.toList.all id)

end AffineTransform
end Regrid
