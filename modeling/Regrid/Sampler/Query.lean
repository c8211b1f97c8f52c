import Regrid.Sampler
/-!
# Query — asking a sampler at positions as they are written

Positions are an array whose last axis runs over the three coordinates; if it has size one, or there is no axis at
all, the one coordinate stands for all three.
-/
namespace Regrid.Sampler

variable {α : Type} [Scalar α]

/-- **An array of coordinates as points**, a single coordinate being repeated. -/
def pointsOfReals (t : Tensor α) : Except (Fault α) (Points α) :=
  let points? : Option (Points α) := match t.shape.getLast? with
    | none => Tensor.buildM [] fun _ => (t.get? []).map (Vector.replicate 3)
    | some 1 => Tensor.buildM t.shape.dropLast fun index => (t.get? (index ++ [0])).map (Vector.replicate 3)
    | some 3 => Tensor.buildM t.shape.dropLast fun index => do
      return triple (← t.get? (index ++ [0])) (← t.get? (index ++ [1])) (← t.get? (index ++ [2]))
    | some _ => none
  points?.elim (.error .shapeMismatch) .ok

/-- **The shape of coordinates that a source can evaluate**: splines need a list of points with three coordinates. -/
def checkCoordinates (s : Sampler α) (shape : Shape) : Except (Fault α) Unit :=
  match s.source with
  | .cubic _ => if 2 ≤ shape.length ∧ shape.getLast? = some 3 then .ok () else .error .splineCoordinates
  | _ => .ok ()

/-- **Whether each of many positions is valid.** -/
def validLiteral (s : Sampler α) (positions : Literal α) : Except (Fault α) (Tensor Bool) := do
  return (← pointsOfReals (← positions.toReals)).map s.valid

/-- **The values at many positions**, and whether each is valid. -/
def valuesAtLiteral (s : Sampler α) (series : List (Literal α)) (positions : Literal α) :
    Except (Fault α) (Volume α × Tensor Bool) := do
  let t ← positions.toReals
  let points ← pointsOfReals t
  let _ ← s.place series
  s.checkCoordinates t.shape
  return (← s.valuesAt series points, points.map s.valid)

/-- **The value at one position**, which may stand inside further lists; nothing if the position is not valid. -/
def valueAtLiteral (s : Sampler α) (series : List (Literal α)) (position : Literal α) :
    Except (Fault α) (Option (Volume α)) := do
  let t ← position.toReals
  let points ← pointsOfReals t
  match points.toList with
  | [p] =>
    if !s.valid p then return none
    if t.shape.isEmpty then .error .indexOutside
    let last ← s.place series
    s.checkCoordinates (1 :: t.shape)
    return some ⟨s.dtype, ← points.mapM (s.sample last)⟩
  | _ => .error .ambiguousTruth

end Regrid.Sampler
