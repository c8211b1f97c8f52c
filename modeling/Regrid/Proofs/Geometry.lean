import Mathlib
import Regrid.Affine
import Regrid.Proofs.Exact
/-!
# Geometry — affine transforms of real numbers

With exact numbers, points and transforms whose entries are finite are those of real linear algebra: a transform acts on
a point as its matrix acts on the homogeneous coordinates, and composing transforms is multiplying matrices.
-/

/-- **A matrix of real numbers.** -/
abbrev RealMatrix (m n : Nat) : Type := Matrix (Fin m) (Fin n) ℝ

/-- **An affine matrix**: its last row is `0 0 0 1`. -/
def RealMatrix.IsAffine (a : RealMatrix 4 4) : Prop := ∀ j, a 3 j = if j = 3 then 1 else 0

/-- **The homogeneous coordinates of a point.** -/
def RealMatrix.homogeneous (x : Fin 3 → ℝ) : Fin 4 → ℝ := Fin.snoc x 1

/-- **The action of a matrix on points**, by its first three rows. -/
def RealMatrix.act (a : RealMatrix 4 4) (x : Fin 3 → ℝ) : Fin 3 → ℝ := fun i =>
  Matrix.mulVec a (homogeneous x) i.castSucc

namespace RealMatrix

variable {a b : RealMatrix 4 4}

@[simp] theorem homogeneous_castSucc (x : Fin 3 → ℝ) (i : Fin 3) : homogeneous x i.castSucc = x i :=
  Fin.snoc_castSucc (α := fun _ => ℝ) 1 x i

@[simp] theorem homogeneous_last (x : Fin 3 → ℝ) : homogeneous x 3 = 1 := Fin.snoc_last (α := fun _ => ℝ) 1 x

theorem mulVec_homogeneous (hb : b.IsAffine) (x : Fin 3 → ℝ) :
    Matrix.mulVec b (homogeneous x) = homogeneous (b.act x) := by
  funext i
  refine Fin.lastCases ?_ (fun i => ?_) i
  · have hlast : ∀ j, b (Fin.last 3) j = if j = 3 then 1 else 0 := hb
    simp only [Matrix.mulVec, dotProduct, hlast, ite_mul, one_mul, zero_mul, Finset.sum_ite_eq', Finset.mem_univ,
      if_true]
    exact (homogeneous_last x).trans (homogeneous_last _).symm
  · rw [homogeneous_castSucc]
    rfl

theorem act_mul (hb : b.IsAffine) (x : Fin 3 → ℝ) : act (a * b) x = a.act (b.act x) := by
  funext i
  rw [act, act, ← mulVec_homogeneous hb, Matrix.mulVec_mulVec]

theorem act_one (x : Fin 3 → ℝ) : act 1 x = x := by
  funext i
  rw [act, Matrix.one_mulVec, homogeneous_castSucc]

theorem isAffine_one : IsAffine 1 := fun j => by
  rw [Matrix.one_apply]
  exact if_congr eq_comm rfl rfl

theorem IsAffine.mul (ha : a.IsAffine) (hb : b.IsAffine) : IsAffine (a * b) := by
  intro j
  rw [Matrix.mul_apply]
  simp only [ha _, ite_mul, one_mul, zero_mul, Finset.sum_ite_eq', Finset.mem_univ, if_true]
  exact hb j

/-- **An affine right factor**: it can be told from the product with an affine matrix. -/
theorem IsAffine.of_mul (ha : a.IsAffine) (hab : IsAffine (a * b)) : b.IsAffine := by
  intro j
  rw [← hab j, Matrix.mul_apply]
  simp only [ha _, ite_mul, one_mul, zero_mul, Finset.sum_ite_eq', Finset.mem_univ, if_true]

theorem act_apply (a : RealMatrix 4 4) (x : Fin 3 → ℝ) (i : Fin 3) :
    a.act x i = ∑ j : Fin 3, a i.castSucc j.castSucc * x j + a i.castSucc 3 := by
  rw [act, Matrix.mulVec, dotProduct, Fin.sum_univ_castSucc]
  simp only [homogeneous_castSucc]
  exact congrArg _ (by rw [show Fin.last 3 = 3 from rfl, homogeneous_last, mul_one])

theorem IsAffine.eq_of_act (ha : a.IsAffine) (hb : b.IsAffine) (h : ∀ x, a.act x = b.act x) : a = b := by
  have htranslation : ∀ i : Fin 3, a i.castSucc 3 = b i.castSucc 3 := by
    intro i
    simpa [act_apply] using congrFun (h 0) i
  have hlinear : ∀ i j : Fin 3, a i.castSucc j.castSucc = b i.castSucc j.castSucc := by
    intro i j
    have hij := congrFun (h (Pi.single j 1)) i
    simp only [act_apply, htranslation i] at hij
    simpa [Pi.single_apply] using hij
  funext i j
  refine Fin.lastCases ((ha j).trans (hb j).symm) (fun i => ?_) i
  exact Fin.lastCases (htranslation i) (fun j => hlinear i j) j

end RealMatrix

namespace Regrid

theorem triple_get {β : Type} (v : Vector β 3) : triple (v.get 0) (v.get 1) (v.get 2) = v := by
  ext i hi
  have haxis : i = 0 ∨ i = 1 ∨ i = 2 := by omega
  rcases haxis with rfl | rfl | rfl <;> rfl

namespace Exact

variable {m n k : Nat}

/-- **A matrix of real numbers** as a matrix of finite numbers. -/
noncomputable def matrix (a : RealMatrix m n) : Matrix m n Exact := Matrix.ofFn fun i j => finite (a i j)

/-- **A point with real coordinates.** -/
noncomputable def point (x : Fin n → ℝ) : Vector Exact n := Vector.ofFn fun i => finite (x i)

/-- **A transform by a matrix of real numbers.** -/
noncomputable def affine (a : RealMatrix 4 4) : AffineTransform Exact := ⟨matrix a⟩

@[simp] theorem get_point (x : Fin n → ℝ) (i : Fin n) : (point x).get i = finite (x i) := Vector.get_ofFn _ _

@[simp] theorem get_matrix (a : RealMatrix m n) (i : Fin m) : (matrix a).get i = point (a i) := Vector.get_ofFn _ _

@[simp] theorem column_matrix (a : RealMatrix m n) (j : Fin n) : Matrix.column (matrix a) j = point fun i => a i j := by
  simp [Matrix.column, point]

theorem point_injective : Function.Injective (point : (Fin n → ℝ) → Vector Exact n) := by
  intro x y h
  funext i
  have hi := congrArg (·.get i) h
  simpa using hi

@[simp] theorem dot_point : ∀ {n : Nat} (x y : Fin n → ℝ), Point.dot (point x) (point y) = finite (∑ i, x i * y i)
  | 0, _, _ => by simp [Point.dot]
  | n + 1, x, y => by
    have ih := dot_point (fun i : Fin n => x i.castSucc) (fun i => y i.castSucc)
    simp only [Point.dot, get_point, finite_mul] at ih ⊢
    rw [Fin.foldl_succ_last, ih, finite_add, Fin.sum_univ_castSucc]

@[simp] theorem mul_matrix (a : RealMatrix m n) (b : RealMatrix n k) :
    Matrix.mul (matrix a) (matrix b) = matrix (a * b) := by
  simp only [Matrix.mul, get_matrix, column_matrix, dot_point]
  rfl

theorem identity_eq : (Matrix.identity n : Matrix n n Exact) = matrix 1 := by
  unfold Matrix.identity
  refine congrArg Matrix.ofFn (funext fun i => funext fun j => ?_)
  rw [Matrix.one_apply]
  split <;> simp

theorem identity_affine : (AffineTransform.identity : AffineTransform Exact) = affine 1 :=
  congrArg AffineTransform.mk identity_eq

theorem ofLiteral_null : AffineTransform.ofLiteral (.null : Literal Exact) = .ok (affine 1) :=
  congrArg Except.ok identity_affine

@[simp] theorem compose_affine (a b : RealMatrix 4 4) : (affine a).compose (affine b) = affine (a * b) := by
  simp [AffineTransform.compose, affine]

@[simp] theorem add_point (x y : Fin n → ℝ) : Point.add (point x) (point y) = point (x + y) := by
  ext i
  simp [Point.add, point]

@[simp] theorem apply_affine (a : RealMatrix 4 4) (x : Fin 3 → ℝ) : (affine a).apply (point x) = point (a.act x) := by
  have hlinear : Matrix.apply (affine a).linear (point x) =
      point fun i => ∑ j : Fin 3, a i.castSucc j.castSucc * x j := by
    have hget : ∀ i, (affine a).linear.get i = point fun j => a i.castSucc j.castSucc := by
      intro i
      simp [AffineTransform.linear, affine, Matrix.ofFn, point]
    simp only [Matrix.apply, hget, dot_point]
    rfl
  have htranslation : (affine a).translation = point fun i => a i.castSucc 3 := by
    simp [AffineTransform.translation, affine, point]
  rw [AffineTransform.apply, hlinear, htranslation, add_point]
  exact congrArg point (funext fun i => (RealMatrix.act_apply a x i).symm)

end Exact

end Regrid
