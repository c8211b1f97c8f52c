import Regrid.Matrix
/-!
# Rotation — singular values by rotating columns

Rotating two columns of a matrix in their plane makes them orthogonal.  Repeating this over all pairs of columns until
no pair needs it any more leaves orthogonal columns whose lengths are the singular values; the accumulated rotations
give the right singular vectors.
-/
namespace Regrid.Rotation

variable {α : Type} [Scalar α] {m n : Nat}

/-- **The columns of a matrix under rotation**, and the columns of the accumulated rotation. -/
structure Columns (m n : Nat) (α : Type) where
  image : Vector (Vector α m) n
  basis : Vector (Vector α n) n

/-- **Rotating the columns `p` and `q`** by the angle with the given cosine and sine. -/
def rotate {k : Nat} (cosine sine : α) (p q : Fin n) (columns : Vector (Vector α k) n) : Vector (Vector α k) n :=
  let u := columns.get p
  let v := columns.get q
  (columns.set p (Vector.zipWith (fun x y => cosine * x - sine * y) u v) p.isLt).set q
    (Vector.zipWith (fun x y => sine * x + cosine * y) u v) q.isLt

/-- **Making the columns `p` and `q` orthogonal**, unless they are so up to the tolerance. -/
def orthogonalise (tolerance : α) (c : Columns m n α) (p q : Fin n) : Columns m n α × Bool :=
  let a := Point.dot (c.image.get p) (c.image.get p)
  let b := Point.dot (c.image.get q) (c.image.get q)
  let g := Point.dot (c.image.get p) (c.image.get q)
  if Scalar.abs g ≤ tolerance * Scalar.sqrt (a * b) then (c, false)
  else
    let z := (b - a) / (g + g)
    let t := (if z < 0 then -1 else 1) / (Scalar.abs z + Scalar.sqrt (1 + z * z))
    let cosine := 1 / Scalar.sqrt (1 + t * t)
    let sine := cosine * t
    (⟨rotate cosine sine p q c.image, rotate cosine sine p q c.basis⟩, true)

/-- **All pairs of columns.** -/
def pairs (n : Nat) : List (Fin n × Fin n) :=
  (List.finRange n).flatMap fun p => ((List.finRange n).filter (p < ·)).map (p, ·)

/-- **Sweeping over all pairs**, at most `fuel` times, until no pair is rotated. -/
def sweep (tolerance : α) : Nat → Columns m n α → Columns m n α
  | 0, c => c
  | fuel + 1, c =>
    let (c, moved) := (pairs n).foldl (fun (c, moved) (p, q) =>
      let (c, rotated) := orthogonalise tolerance c p q
      (c, moved || rotated)) (c, false)
    if moved then sweep tolerance fuel c else c

/-- **A matrix with orthogonal columns**, and the rotation that led to it. -/
def decompose (tolerance : α) (a : Matrix m n α) : Columns m n α :=
  sweep tolerance 60 ⟨Matrix.transpose a, Matrix.identity n⟩

/-- **The greatest of a list of scalars that are not negative.** -/
def greatest (xs : List α) : α := xs.foldl (fun m x => if m < x then x else m) 0

/-- **The singular values of a matrix**, in no order. -/
def singularValues (tolerance : α) (a : Matrix m n α) : List α :=
  (decompose tolerance a).image.toList.map Point.norm

/-- **The number of singular values above the tolerance** relative to the greatest. -/
def rank (epsilon : α) (a : Matrix m n α) : Nat :=
  let values := if n ≤ m then singularValues epsilon a else singularValues epsilon (Matrix.transpose a)
  let bound := greatest values * epsilon * Scalar.ofInt (max m n)
  (values.filter fun x => bound < x).length

/-- **The pseudo-inverse of a matrix with at least as many rows as columns**: singular values at or below the relative
tolerance count as zero. -/
def tallPseudoInverse (epsilon : α) (a : Matrix m n α) : Matrix n m α :=
  let c := decompose epsilon a
  let lengths := c.image.map Point.norm
  let bound := greatest lengths.toList * epsilon * Scalar.ofInt (max m n)
  Matrix.ofFn fun i j => Fin.foldl n (fun s k =>
    let length := lengths.get k
    if bound < length then s + (c.basis.get k).get i * ((c.image.get k).get j / length / length) else s) 0

def pseudoInverse (epsilon : α) (a : Matrix m n α) : Matrix n m α :=
  if n ≤ m then tallPseudoInverse epsilon a
  else Matrix.transpose (tallPseudoInverse epsilon (Matrix.transpose a))

end Regrid.Rotation
