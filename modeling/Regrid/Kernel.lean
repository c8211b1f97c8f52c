import Regrid.Literal.Coerce
import Regrid.Spline
import Regrid.Text.Case
/-!
# Kernel — estimating a block of voxels between its voxel centres

A block has three sizes and a reading at each voxel.  The nearest kernel selects one voxel, the linear kernel weighs
the eight around a position, and the cubic kernel weighs the spline coefficients of sixty-four.  Voxels beyond the
border are replaced by the nearest voxel of the block, spline coefficients by their reflections.
-/
namespace Regrid

/-- **The ways of estimating a value between voxels.** -/
inductive Kernel
  | nearest
  | linear
  | cubic
  deriving DecidableEq, Repr

namespace Kernel

variable {α : Type} [Scalar α]

def name : Kernel → String
  | nearest => "Nearest"
  | linear => "Linear"
  | cubic => "Cubic"

/-- **The kernel with a given spline degree.** -/
def ofDegree? (x : α) : Option Kernel :=
  if x == 0 then some nearest else if x == 1 then some linear else if x == 3 then some cubic else none

/-- **The kernel with a given name**, in any case. -/
def ofText? (s : String) : Option Kernel :=
  [nearest, linear, cubic].find? fun k => Text.lowercase k.name == Text.lowercase s

/-- **The kernel of an interpolation order**, which is a degree or a name. -/
def ofLiteral : Literal α → Except (Fault α) Kernel
  | .number n => match ofDegree? (n.toScalar : α) with
    | some k => .ok k
    | none => .error (.unknownOrder (.number n))
  | .text s => match ofText? s with
    | some k => .ok k
    | none => .error (.unknownOrder (.text (Text.lowercase s)))
  | l => .error (.unknownOrder l)

/-- **The index of an axis of `n` voxels nearest to a given one**; `-1` if there is none. -/
def clamp (n i : Int) : Int := min (max i 0) (n - 1)

/-- **The voxel of a block nearest to given indices**, if there is one. -/
def clampVoxel? (size : Vector Nat 3) (index : Vector Int 3) : Option (Vector Nat 3) :=
  (Vector.zipWith (fun n i => (n, i)) size index).mapM fun (n, i) =>
    if 0 < n then some (clamp n i).toNat else none

/-- **The voxel whose centre is nearest to a position**, a half being rounded up. -/
def nearestVoxel? (size : Vector Nat 3) (p : Point α) : Option (Vector Nat 3) :=
  clampVoxel? size (p.map fun x => Scalar.floor (x + Scalar.half))

/-- **A cell has two ends along each axis**, which are numbered from zero. -/
instance endsOfCell : @NeZero Nat ⟨0⟩ 2 := ⟨by decide⟩

/-- **The voxels of a cube of side `n`**, in row-major order. -/
def cube (n : Nat) : List (Vector (Fin n) 3) :=
  (List.finRange n).flatMap fun i => (List.finRange n).flatMap fun j => (List.finRange n).map fun k => triple i j k

/-- **The weight of a corner of the unit cell around a position**, whose distances from the first corner are given. -/
def cornerWeight (t : Point α) (corner : Vector (Fin 2) 3) : α :=
  let factor (i : Fin 3) : α := if corner.get i = 1 then t.get i else 1 - t.get i
  factor 0 * factor 1 * factor 2

/-- **The linear estimate at a position.**  A corner with weight zero does not count, even if its reading is not
finite. -/
def linearAt (size : Vector Nat 3) (read : Vector Nat 3 → Except (Fault α) α) (p : Point α) : Except (Fault α) α :=
  let base := p.map Scalar.floor
  let t := Vector.zipWith (fun x i => x - Scalar.ofInt i) p base
  (cube 2).foldlM (fun s corner => do
    let some voxel := clampVoxel? size (Vector.zipWith (fun i (c : Fin 2) => i + c.val) base corner)
      | .error .indexOutside
    let x ← read voxel
    let w := cornerWeight t corner
    return s + if w == 0 then 0 else w * x) 0

/-- **The cubic estimate at a position**, from the spline coefficients of a block. -/
def cubicAt (size : Vector Nat 3) (coefficient : Vector Nat 3 → α) (p : Point α) : α :=
  let q := Vector.zipWith Spline.reflect size p
  let base := q.map fun x => Scalar.floor x - 1
  let weights := q.map fun x => Spline.weights (x - Scalar.ofInt (Scalar.floor x))
  (cube 4).foldl (fun s tap =>
    let voxel := Vector.zipWith Spline.reflectIndex size (Vector.zipWith (fun i (k : Fin 4) => i + k.val) base tap)
    let weight (i : Fin 3) := (weights.get i).get (tap.get i)
    s + coefficient voxel * weight 0 * weight 1 * weight 2) 0

end Kernel
end Regrid
