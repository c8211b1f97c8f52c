import Regrid.Scalar
/-!
# Matrix — points and small dense matrices

A matrix is a vector of rows.  Points of space are vectors of three coordinates, and act as columns.
-/
namespace Regrid

/-- **A matrix**, row by row. -/
abbrev Matrix (m n : Nat) (α : Type) := Vector (Vector α n) m

/-- **A point of space**, or a displacement. -/
abbrev Point (α : Type) := Vector α 3

/-- **Space has three axes**, which are numbered from zero. -/
instance axesOfSpace : @NeZero Nat ⟨0⟩ 3 := ⟨by decide⟩

/-- **A point has four homogeneous coordinates**, which are numbered from zero. -/
instance homogeneousCoordinates : @NeZero Nat ⟨0⟩ 4 := ⟨by decide⟩

/-- **Three values, one for each axis of space.** -/
def triple {β : Type} (x y z : β) : Vector β 3 := #v[x, y, z]

namespace Point

variable {α : Type} [Scalar α] {n : Nat}

/-- **The sum of the products of matching coordinates.** -/
def dot (u v : Vector α n) : α := Fin.foldl n (fun s i => s + u.get i * v.get i) 0

/-- **The Euclidean length.** -/
def norm (u : Vector α n) : α := Scalar.sqrt (dot u u)

/-- **Coordinatewise sum.** -/
def add (u v : Vector α n) : Vector α n := Vector.zipWith (· + ·) u v

/-- **Coordinatewise difference.** -/
def sub (u v : Vector α n) : Vector α n := Vector.zipWith (· - ·) u v

end Point

namespace Matrix

variable {α β : Type} [Scalar α] {m n k : Nat}

/-- **The matrix with given entries.** -/
def ofFn (f : Fin m → Fin n → β) : Matrix m n β := Vector.ofFn fun i => Vector.ofFn fun j => f i j

def identity (n : Nat) : Matrix n n α := ofFn fun i j => if i = j then 1 else 0

/-- **The diagonal matrix with given entries.** -/
def diagonal (d : Vector α n) : Matrix n n α := ofFn fun i j => if i = j then d.get i else 0

def column (a : Matrix m n β) (j : Fin n) : Vector β m := Vector.ofFn fun i => (a.get i).get j

/-- **The matrix whose rows are the columns of another.** -/
def transpose (a : Matrix m n β) : Matrix n m β := ofFn fun i j => (a.get j).get i

/-- **The product of two matrices.** -/
def mul (a : Matrix m n α) (b : Matrix n k α) : Matrix m k α := ofFn fun i j => Point.dot (a.get i) (column b j)

/-- **The image of a column.** -/
def apply (a : Matrix m n α) (v : Vector α n) : Vector α m := Vector.ofFn fun i => Point.dot (a.get i) v

/-- **All entries, row by row.** -/
def entries (a : Matrix m n β) : List β := a.toList.flatMap Vector.toList

end Matrix
end Regrid
