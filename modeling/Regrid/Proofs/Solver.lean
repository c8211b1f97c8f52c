import Mathlib
import Regrid.Proofs.Geometry
/-!
# Solver — exact linear algebra

An exact solver finds the rank of a matrix of real numbers, and a solution whose distance from the right side is the
least possible.  Every system has such a solution, so an exact solver exists.
-/

namespace RealMatrix

variable {m n k : Nat}

/-- **The sum of the squares of all entries.** -/
def squares (a : RealMatrix m n) : ℝ := ∑ i, ∑ j, a i j ^ 2

/-- **A least-squares solution** of a system. -/
def IsLeastSquares (a : RealMatrix m n) (b : RealMatrix m k) (x : RealMatrix n k) : Prop :=
  ∀ y : RealMatrix n k, squares (a * x - b) ≤ squares (a * y - b)

theorem squares_nonneg (a : RealMatrix m n) : 0 ≤ squares a :=
  Finset.sum_nonneg fun _ _ => Finset.sum_nonneg fun _ _ => sq_nonneg _

theorem eq_zero_of_squares {a : RealMatrix m n} (h : squares a ≤ 0) : a = 0 := by
  have hzero : squares a = 0 := le_antisymm h (squares_nonneg a)
  funext i j
  have hi := (Finset.sum_eq_zero_iff_of_nonneg fun i _ => Finset.sum_nonneg fun j _ => sq_nonneg (a i j)).1 hzero i
    (Finset.mem_univ i)
  have hij := (Finset.sum_eq_zero_iff_of_nonneg fun j _ => sq_nonneg (a i j)).1 hi j (Finset.mem_univ j)
  exact pow_eq_zero_iff (two_ne_zero) |>.1 hij

/-- **A least-squares solution of a system that can be solved** solves it. -/
theorem IsLeastSquares.mul_eq {a : RealMatrix m n} {b : RealMatrix m k} {x y : RealMatrix n k}
    (hx : IsLeastSquares a b x) (hy : a * y = b) : a * x = b := by
  have hzero : squares (a * y - b) = 0 := by
    rw [hy, sub_self]
    simp [squares]
  exact sub_eq_zero.1 (eq_zero_of_squares ((hx y).trans hzero.le))

/-- **All entries of a product**, as a vector of Euclidean space. -/
noncomputable def product (a : RealMatrix m n) (k : Nat) : RealMatrix n k →ₗ[ℝ] EuclideanSpace ℝ (Fin m × Fin k) where
  toFun x := WithLp.toLp 2 fun p => (a * x) p.1 p.2
  map_add' x y := by
    ext p
    simp [Matrix.mul_add]
  map_smul' c x := by
    ext p
    simp

theorem norm_sub_product (a : RealMatrix m n) (b : RealMatrix m k) (x : RealMatrix n k) :
    ‖(WithLp.toLp 2 fun p : Fin m × Fin k => b p.1 p.2) - product a k x‖ ^ 2 = squares (a * x - b) := by
  rw [EuclideanSpace.real_norm_sq_eq, squares, ← Finset.sum_product']
  refine Finset.sum_congr rfl fun p _ => ?_
  simp only [product, LinearMap.coe_mk, AddHom.coe_mk, PiLp.sub_apply, Matrix.sub_apply]
  ring

/-- **Every system has a least-squares solution**: the right side is projected on the range of the matrix. -/
theorem exists_leastSquares (a : RealMatrix m n) (b : RealMatrix m k) : ∃ x, IsLeastSquares a b x := by
  let u : EuclideanSpace ℝ (Fin m × Fin k) := WithLp.toLp 2 fun p => b p.1 p.2
  -- the range is closed because it has finitely many dimensions, so some product is closest to the right side
  obtain ⟨_, ⟨x, rfl⟩, hx⟩ := Submodule.exists_norm_eq_iInf_of_complete_subspace (LinearMap.range (product a k))
    (Submodule.complete_of_finiteDimensional _) u
  refine ⟨x, fun y => ?_⟩
  have hle : ‖u - product a k x‖ ≤ ‖u - product a k y‖ := by
    rw [hx]
    exact ciInf_le ⟨0, by rintro _ ⟨w, rfl⟩; exact norm_nonneg _⟩
      (⟨product a k y, y, rfl⟩ : LinearMap.range (product a k))
  rw [← norm_sub_product, ← norm_sub_product]
  exact pow_le_pow_left₀ (norm_nonneg _) hle 2

theorem rank_lt_iff {a : RealMatrix n n} : a.rank < n ↔ a.det = 0 := by
  constructor
  · intro h
    by_contra hdet
    have hunit : IsUnit a := (Matrix.isUnit_iff_isUnit_det a).2 (isUnit_iff_ne_zero.2 hdet)
    have hrank := Matrix.rank_of_isUnit a hunit
    rw [Fintype.card_fin] at hrank
    exact h.ne hrank
  · intro hdet
    refine lt_of_le_of_ne ((Matrix.rank_le_width a)) fun hrank => ?_
    have htop : LinearMap.range a.mulVecLin = ⊤ := by
      apply Submodule.eq_top_of_finrank_eq
      rw [Module.finrank_fin_fun]
      exact hrank
    have hunit : IsUnit a := Matrix.mulVec_surjective_iff_isUnit.1 (LinearMap.range_eq_top.1 htop)
    exact ((Matrix.isUnit_iff_isUnit_det a).1 hunit).ne_zero hdet

end RealMatrix

namespace Regrid

/-- **A solver is accurate** if it finds the rank of a matrix of real numbers, and a least-squares solution of a system
of these. -/
class LinearSolver.Accurate [LinearSolver Exact] : Prop where
  rank_matrix {m n : Nat} (a : RealMatrix m n) : LinearSolver.rank (Exact.matrix a) = .ok a.rank
  leastSquares_matrix {m n k : Nat} (a : RealMatrix m n) (b : RealMatrix m k) : ∃ x : RealMatrix n k,
    LinearSolver.leastSquares (Exact.matrix a) (Exact.matrix b) = .ok (Exact.matrix x) ∧ a.IsLeastSquares b x

namespace Exact

variable {m n k : Nat}

/-- **The real numbers that the entries of a matrix are.** -/
def entries (a : Matrix m n Exact) : RealMatrix m n := fun i j => ((a.get i).get j).toReal

@[simp] theorem entries_matrix (a : RealMatrix m n) : entries (matrix a) = a := by
  funext i j
  simp [entries, toReal]

open Classical in
/-- **The exact solver.**  Matrices with an entry that is not finite cannot be decomposed. -/
noncomputable instance : LinearSolver Exact where
  rank a := if a = matrix (entries a) then .ok (entries a).rank else .error .notDecomposable
  inverse a :=
    if a = matrix (entries a) ∧ (entries a).det ≠ 0 then .ok (matrix (entries a)⁻¹) else .error .notInvertible
  leastSquares a b :=
    if a = matrix (entries a) ∧ b = matrix (entries b) then
      .ok (matrix (Classical.choose (RealMatrix.exists_leastSquares (entries a) (entries b))))
    else .error .notDecomposable

/-- **The exact solver is accurate.** -/
instance : LinearSolver.Accurate where
  rank_matrix a := by
    simp [LinearSolver.rank]
  leastSquares_matrix a b := by
    refine ⟨_, if_pos ⟨by rw [entries_matrix], by rw [entries_matrix]⟩, ?_⟩
    have h := Classical.choose_spec (RealMatrix.exists_leastSquares (entries (matrix a)) (entries (matrix b)))
    simpa using h

end Exact

end Regrid
