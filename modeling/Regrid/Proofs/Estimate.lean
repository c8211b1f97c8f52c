import Mathlib
import Regrid.Oversampling
import Regrid.Proofs.Geometry
import Regrid.Proofs.Tensor
/-!
# Estimate — how many samples a voxel needs

In exact arithmetic the number of samples along an axis is found from the length of one step of the mapping, which is
the length of a column of its matrix.
-/
namespace RealMatrix

/-- **The length of a step along an axis.** -/
noncomputable def stepLength (a : RealMatrix 4 4) (axis : Fin 3) : ℝ := √(∑ i : Fin 3, a i.castSucc axis.castSucc ^ 2)

/-- **The number of samples along an axis**: the length of a step, shrunk and rounded up, and at least one. -/
noncomputable def sampleCount (a : RealMatrix 4 4) (axis : Fin 3) : ℤ := max 1 ⌈999 / 1000 * a.stepLength axis⌉

theorem one_le_sampleCount (a : RealMatrix 4 4) (axis : Fin 3) : 1 ≤ a.sampleCount axis := le_max_left _ _

theorem act_single_sub (a : RealMatrix 4 4) (axis i : Fin 3) :
    a.act (Pi.single axis 1) i - a.act 0 i = a i.castSucc axis.castSucc := by
  simp [act_apply, Pi.single_apply]

end RealMatrix

namespace Regrid

namespace Exact

variable {n : Nat}

@[simp] theorem sub_point (x y : Fin n → ℝ) : Point.sub (point x) (point y) = point (x - y) := by
  ext i
  simp [Point.sub, point]

theorem norm_point (x : Fin n → ℝ) : Point.norm (point x) = finite √(∑ i, x i ^ 2) := by
  rw [Point.norm, dot_point, sqrt_finite (Finset.sum_nonneg fun i _ => mul_self_nonneg (x i))]
  simp only [pow_two]

theorem replicate_zero : (Vector.replicate 3 0 : Point Exact) = point 0 := by
  ext i
  simp [point]

theorem shrink_eq : (OversamplingPlan.shrink : Exact) = finite (999 / 1000) := by
  have h : (999 : ℝ) * 10 ^ (-3 : ℤ) = 999 / 1000 := by norm_num
  exact congrArg finite (by exact_mod_cast h)

end Exact

namespace OversamplingPlan

open Exact

theorem estimateAxis_affine (a : RealMatrix 4 4) (axis : Fin 3) :
    estimateAxis (affine a) axis = .ok (a.sampleCount axis) := by
  have hstep : (Vector.ofFn fun i : Fin 3 => if i = axis then 1 else 0 : Point Exact) = point (Pi.single axis 1) := by
    ext i hi
    simp only [point, Vector.getElem_ofFn, Pi.single_apply]
    split <;> simp
  have hdifference : a.act (Pi.single axis 1) - a.act 0 = fun i : Fin 3 => a i.castSucc axis.castSucc :=
    funext fun i => a.act_single_sub axis i
  unfold estimateAxis
  simp only [hstep, replicate_zero, apply_affine, sub_point, hdifference, norm_point, shrink_eq, finite_mul,
    isNaN_finite, isFinite_finite, ceil_finite]
  rfl

theorem estimate_affine (a : RealMatrix 4 4) :
    estimate (affine a) = .ok [a.sampleCount 0, a.sampleCount 1, a.sampleCount 2] := by
  simp only [estimate, List.mapM_cons, List.mapM_nil, estimateAxis_affine]
  rfl

theorem checkWeights_exact (p : OversamplingPlan) : checkWeights Exact p = .ok p :=
  if_pos (List.all_eq_true.2 fun _ _ => rfl)

/-- **A plan without factors asked for** takes the samples of the estimate. -/
theorem plan_null (a : RealMatrix 4 4) :
    ∃ p, plan (affine a) .null = .ok p ∧ ∀ i : Fin 3, (p.factors.get i : ℤ) = a.sampleCount i := by
  let v : Vector Nat 3 := triple (a.sampleCount 0).toNat (a.sampleCount 1).toNat (a.sampleCount 2).toNat
  have hcount : ∀ i : Fin 3, (v.get i : ℤ) = a.sampleCount i := by
    intro i
    have hone := Int.toNat_of_nonneg (zero_le_one.trans (a.one_le_sampleCount i))
    fin_cases i <;> exact hone
  have hpositive : ∀ i : Fin 3, 0 < v.get i := by
    intro i
    have hone := a.one_le_sampleCount i
    rw [← hcount i] at hone
    exact_mod_cast hone
  have hfactors : ofFactors [a.sampleCount 0, a.sampleCount 1, a.sampleCount 2] =
      (.ok ⟨v, hpositive⟩ : Except (Fault Exact) OversamplingPlan) := dif_pos hpositive
  refine ⟨⟨v, hpositive⟩, ?_, hcount⟩
  unfold plan
  simp only [Literal.isGiven, Bool.false_eq_true, if_false]
  rw [estimate_affine, ok_bind, hfactors, ok_bind, checkWeights_exact]

end OversamplingPlan

end Regrid
