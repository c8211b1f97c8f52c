import Regrid.Matrix
/-!
# Elimination — square systems by Gauss

The right-hand sides stand beside the matrix.  Each column is cleared below the diagonal with the row whose entry there
is largest in magnitude; a column without a non-zero entry means that the matrix has no inverse.  The unknowns are then
found from the last row upwards.
-/
namespace Regrid.Elimination

variable {α : Type} [Scalar α] {n k : Nat}

/-- **A matrix with its right-hand sides**: pairs of rows. -/
abbrev System (n k : Nat) (α : Type) := Vector (Vector α n × Vector α k) n

/-- **Subtracting a multiple of one row from another**, on both sides. -/
def subtract (factor : α) (pivot row : Vector α n × Vector α k) : Vector α n × Vector α k :=
  (Vector.zipWith (fun r p => r - factor * p) row.1 pivot.1, Vector.zipWith (fun r p => r - factor * p) row.2 pivot.2)

/-- **The first row, from row `j` on, whose entry in column `j` is largest in magnitude.** -/
def pivotRow (s : System n k α) (j : Fin n) : Fin n :=
  let size (i : Fin n) : α := Scalar.abs ((s.get i).1.get j)
  (List.finRange n).foldl (fun best i => if j < i && size best < size i then i else best) j

/-- **How often the pivot row is subtracted from a row**: not at all if the entry to be cleared is zero. -/
def multiple (entry pivot : α) : α := if entry == 0 then 0 else entry / pivot

/-- **Clearing column `j` below row `j`**, where its pivot row is moved to.  Nothing is returned if the pivot is
zero. -/
def clear? (s : System n k α) (j : Fin n) : Option (System n k α) :=
  let p := pivotRow s j
  let s := (s.set j.val (s.get p) j.isLt).set p.val (s.get j) p.isLt
  let pivot := s.get j
  if pivot.1.get j == 0 then none
  else some (Vector.ofFn fun i =>
    if j < i then subtract (multiple ((s.get i).1.get j) (pivot.1.get j)) pivot (s.get i) else s.get i)

/-- **The unknowns of row `i`**, once those of the rows below it are known. -/
def unknowns (s : System n k α) (known : Vector (Vector α k) n) (i : Fin n) : Vector α k :=
  let row := s.get i
  let rest := (List.finRange n).foldl (fun b j =>
    if i < j then Vector.zipWith (fun r x => r - row.1.get j * x) b (known.get j) else b) row.2
  rest.map (· / row.1.get i)

/-- **The solution of a system whose matrix is zero below the diagonal.** -/
def substitute (s : System n k α) : Matrix n k α :=
  (List.finRange n).foldr (fun (i : Fin n) known => known.set i.val (unknowns s known i) i.isLt) (s.map Prod.snd)

/-- **The solution of a square system**, if the matrix has an inverse. -/
def solve? (a : Matrix n n α) (b : Matrix n k α) : Option (Matrix n k α) :=
  ((List.finRange n).foldlM clear? (Vector.zip a b)).map substitute

end Regrid.Elimination
