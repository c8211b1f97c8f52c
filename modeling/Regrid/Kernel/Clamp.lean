import Regrid.Volume
/-!
# Clamp — numbers moved to the nearest cell of an axis

Indices and sizes are arrays of numbers, and are repeated to a common shape.  The answers are whole if indices and sizes
are stored in integers that fit together, and real otherwise.
-/
namespace Regrid.Kernel

variable {α : Type} [Scalar α]

/-- **A cell of an array as a number.**  Text has no arithmetic. -/
def cellNumber : (d : Dtype) → d.Value α → Except (Fault α) (Number α)
  | .bool, b => .ok (.bool b)
  | .int _, n => .ok (.int n.val)
  | .real _, x => .ok (.real x)
  | .other, .number n => .ok n
  | .other, _ => .error .wrongKind
  | _, _ => .error .unsupportedOperation

/-- **The last index of an axis whose size is a cell of a type.**  It wraps around like the cells of the type. -/
def lastIndex (d : Dtype) (size : Number α) : Except (Fault α) (Number α) := do
  match d, ← size.add (.int (-1)) with
  | .int t, .int n => return .int (t.wrap n).val
  | _, n => return n

def isBelow : Number α → Number α → Bool
  | .real x, y => decide (x < y.toScalar)
  | x, .real y => decide (x.toScalar < y)
  | .int m, .int n => m < n
  | .int m, .bool b => m < Number.ofBool b
  | .bool a, .int n => Number.ofBool a < n
  | .bool a, .bool b => !a && b

/-- **A number moved into the range from zero to a last index**; the latter counts if the range is empty. -/
def clampNumber (x last : Number α) : Number α :=
  let x := if isBelow x (.int 0) then .int 0 else x
  if isBelow last x then last else x

/-- **A number as a cell of a type**, as far as the type decides whether it is whole. -/
def numberOfDtype (d : Dtype) (x : Number α) : Number α :=
  match d, x with
  | .real _, x => .real x.toScalar
  | .int _, .bool b => .int (Number.ofBool b)
  | _, x => x

/-- **Indices moved to the nearest cells of axes**, of which there may be one for each index. -/
def clampLiterals (indices sizes : Literal α) : Except (Fault α) (Tensor (Number α)) := do
  let i ← Volume.ofLiteral indices
  let n ← Volume.ofLiteral sizes
  let last ← n.cells.mapM fun x => do lastIndex n.dtype (← cellNumber n.dtype x)
  let lastDtype := if n.dtype = .bool then .int .int64 else n.dtype
  let x ← i.cells.mapM (cellNumber i.dtype)
  let d ← i.dtype.join lastDtype
  let clamped? : Option (Tensor (Number α)) := do
    let shape ← Shape.join? x.shape last.shape
    let x ← x.broadcast? shape
    let last ← last.broadcast? shape
    Tensor.buildM shape fun index => do
      return numberOfDtype d
        (clampNumber (numberOfDtype d (← x.get? index)) (numberOfDtype d (← last.get? index)))
  clamped?.elim (.error .shapeMismatch) .ok

end Regrid.Kernel
