import Regrid.Affine
/-!
# Oversampling — several samples per output voxel

An output voxel that covers several input voxels is sampled on a regular lattice inside it, and the samples are
averaged.  A plan holds the number of samples along each spatial axis; the lattice is centred in the voxel.
-/
namespace Regrid

/-- **A plan for sampling inside a voxel**: the number of samples along each spatial axis. -/
structure OversamplingPlan where
  factors : Vector Nat 3
  positive : ∀ i : Fin 3, 0 < factors.get i

namespace OversamplingPlan

/-- **One sample per voxel.** -/
def single : OversamplingPlan := ⟨triple 1 1 1, by decide⟩

/-- **The number of samples per voxel.** -/
def count (p : OversamplingPlan) : Nat := p.factors.get 0 * p.factors.get 1 * p.factors.get 2

/-- **A plan is active** if it takes more than one sample. -/
def active (p : OversamplingPlan) : Bool := 1 < p.count

/-- **The plan with given factors**: there must be three, all positive. -/
def ofFactors {α : Type} (factors : List Int) : Except (Fault α) OversamplingPlan :=
  match factors with
  | [a, b, c] =>
    let v := triple a.toNat b.toNat c.toNat
    if h : ∀ i : Fin 3, 0 < v.get i then .ok ⟨v, h⟩ else .error (.factorsNotPositive factors)
  | _ => .error (.factorsNotPositive factors)

section Lattice

variable {α : Type} [Scalar α]

/-- **The distance between samples along an axis**, in output voxels. -/
def increment (p : OversamplingPlan) (i : Fin 3) : α := 1 / Scalar.ofInt (p.factors.get i)

/-- **The position of the first sample along an axis**, relative to the centre of the voxel. -/
def originOffset (p : OversamplingPlan) (i : Fin 3) : α := Scalar.half * (p.increment i - 1)

/-- **The weight of each sample.** -/
def normalization (p : OversamplingPlan) : α := 1 / Scalar.ofInt p.count

/-- **The position of sample `k` along an axis**, relative to the centre of the voxel. -/
def offset (p : OversamplingPlan) (i : Fin 3) (k : Nat) : α := p.originOffset i + Scalar.ofInt k * p.increment i

/-- **The positions of all samples**, relative to the centre of the voxel; the first axis varies fastest. -/
def offsets (p : OversamplingPlan) : List (Point α) :=
  (List.range (p.factors.get 2)).flatMap fun z => (List.range (p.factors.get 1)).flatMap fun y =>
    (List.range (p.factors.get 0)).map fun x => triple (p.offset 0 x) (p.offset 1 y) (p.offset 2 z)

/-- **A plan whose weights exist as scalars**: neither a factor nor the count lies beyond all of them. -/
def checkWeights (α : Type) [Scalar α] (p : OversamplingPlan) : Except (Fault α) OversamplingPlan :=
  if (p.count :: p.factors.toList).all fun n => (Scalar.ofInt? (α := α) n).isSome then .ok p else .error .outOfRange

/-- **The plan with factors as they are written**, in a message with the given brackets. -/
def ofWholeLiterals (brackets : Brackets) (factors : List (Literal α)) : Except (Fault α) OversamplingPlan := do
  if !factors.all Literal.isWhole then .error (.factorsNotWhole brackets factors)
  checkWeights α (← ofFactors (← factors.mapM Literal.toInt))

/-- **The plan with a literal list of factors.** -/
def ofLiteral (l : Literal α) : Except (Fault α) OversamplingPlan := do
  ofWholeLiterals .round (← l.items?.elim (.error .wrongKind) .ok)

/-- **The factor by which lengths are shrunk**, so that one and a rounding error still count as one. -/
def shrink : α := Scalar.ofDecimal 999 (-3)

/-- **The number of input voxels spanned by a step along an axis**: the length of the step, shrunk and rounded up. -/
def estimateAxis (mapping : AffineTransform α) (axis : Fin 3) : Except (Fault α) Int := do
  let origin := mapping.apply (Vector.replicate 3 0)
  let step := mapping.apply (Vector.ofFn fun i => if i = axis then 1 else 0)
  let length := shrink * Point.norm (Point.sub step origin)
  if Scalar.isNaN length then .error .nanToInteger
  else if !Scalar.isFinite length then .error .outOfRange
  else return max 1 (Scalar.ceil length)

/-- **The factors with which a mapping from output to input voxels misses no input voxel.** -/
def estimate (mapping : AffineTransform α) : Except (Fault α) (List Int) :=
  [0, 1, 2].mapM (estimateAxis mapping)

/-- **Factors asked for as they are written**: a single value stands for all three axes. -/
def ofRequest (request : Literal α) : Except (Fault α) OversamplingPlan := do
  let shape ← request.shape?.elim (.error .ragged) .ok
  let factors := match shape, request with
    | [], _ => List.replicate 3 request
    | _, .list factors => factors
    | _, _ => []
  if factors.length ≠ 3 then .error (.factorCount factors)
  ofWholeLiterals .square factors

/-- **The plan of a mapping**: the one asked for, and the estimated one if none is. -/
def plan (mapping : AffineTransform α) (request : Literal α) : Except (Fault α) OversamplingPlan := do
  if request.isGiven then ofRequest request else checkWeights α (← ofFactors (← estimate mapping))

/-- **The plan of a mapping as it is written**, which counts only if no factors are asked for. -/
def planOfLiteral (mapping request : Literal α) : Except (Fault α) OversamplingPlan := do
  if request.isGiven then ofRequest request else plan (← AffineTransform.ofLiteral mapping) .null

end Lattice
end OversamplingPlan
end Regrid
