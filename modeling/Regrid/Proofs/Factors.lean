import Mathlib
import Regrid.Proofs.BlockMean
/-!
# Factors — the least numbers of samples

The estimate of the samples along an axis depends on the length of one column of the mapping alone, and is the least
number that is at least one and puts neighbouring samples no further apart than `1000 / 999` voxels of the volume
(`OversamplingPlan.estimate_isLeast`).
-/
namespace RealMatrix

variable {a b : RealMatrix 4 4} {axis : Fin 3}

/-- **The squared length of a step along an axis.** -/
def squaredStep (a : RealMatrix 4 4) (axis : Fin 3) : ℝ := ∑ i : Fin 3, a i.castSucc axis.castSucc ^ 2

theorem le_iff_squaredStep {n : ℝ} (hn : 0 ≤ n) :
    999 / 1000 * a.stepLength axis ≤ n ↔ 999 ^ 2 * a.squaredStep axis ≤ (1000 * n) ^ 2 := by
  have hroot : 999 * a.stepLength axis = √(999 ^ 2 * a.squaredStep axis) := by
    rw [Real.sqrt_mul (by norm_num), Real.sqrt_sq (by norm_num)]
    rfl
  rw [← Real.sqrt_le_left (by positivity), ← hroot, div_mul_eq_mul_div, div_le_iff₀ (by norm_num), mul_comm n]

theorem shrunk_le_sampleCount (a : RealMatrix 4 4) (axis : Fin 3) :
    999 / 1000 * a.stepLength axis ≤ a.sampleCount axis :=
  (Int.le_ceil _).trans (by exact_mod_cast le_max_right _ _)

/-- **The number of samples along an axis** is the least that suffices. -/
theorem sampleCount_isLeast (a : RealMatrix 4 4) (axis : Fin 3) :
    IsLeast {n : ℤ | 1 ≤ n ∧ 999 ^ 2 * a.squaredStep axis ≤ (1000 * n) ^ 2} (a.sampleCount axis) := by
  have hcast : ∀ {n : ℤ}, 1 ≤ n → (0 : ℝ) ≤ n := fun h => by exact_mod_cast zero_le_one.trans h
  constructor
  · have hone := a.one_le_sampleCount axis
    exact ⟨hone, (le_iff_squaredStep (hcast hone)).1 (a.shrunk_le_sampleCount axis)⟩
  · rintro n ⟨hone, hsquares⟩
    exact max_le hone (Int.ceil_le.2 ((le_iff_squaredStep (hcast hone)).2 hsquares))

theorem sampleCount_mono (h : a.squaredStep axis ≤ b.squaredStep axis) : a.sampleCount axis ≤ b.sampleCount axis := by
  have hlength : a.stepLength axis ≤ b.stepLength axis := Real.sqrt_le_sqrt h
  exact max_le_max_left 1 (Int.ceil_mono (by linarith))

theorem stepLength_div_sampleCount_le (a : RealMatrix 4 4) (axis : Fin 3) :
    a.stepLength axis / a.sampleCount axis ≤ 1000 / 999 := by
  have hpositive : (0 : ℝ) < a.sampleCount axis := by
    exact_mod_cast zero_lt_one.trans_le (a.one_le_sampleCount axis)
  have hle := a.shrunk_le_sampleCount axis
  rw [div_le_iff₀ hpositive]
  linarith

theorem sampleCount_congr (h : a.squaredStep axis = b.squaredStep axis) : a.sampleCount axis = b.sampleCount axis :=
  le_antisymm (sampleCount_mono h.le) (sampleCount_mono h.ge)

/-- **A rotation or reflection keeps lengths.** -/
theorem squaredStep_orthogonal {q : RealMatrix 3 3} (hq : q ∈ Matrix.orthogonalGroup (Fin 3) ℝ) (a : RealMatrix 4 4)
    (axis : Fin 3) : squaredStep (parts q 0 * a) axis = a.squaredStep axis := by
  let c : Fin 3 → ℝ := fun i => a i.castSucc axis.castSucc
  have hcolumn : ∀ i : Fin 3, (parts q 0 * a) i.castSucc axis.castSucc = q.mulVec c i := fun i => by
    rw [Matrix.mul_apply, Fin.sum_univ_castSucc, show Fin.last 3 = 3 from rfl, parts_last, Pi.zero_apply, zero_mul,
      add_zero]
    simp only [parts_castSucc]
    rfl
  have hsquares : ∀ v : Fin 3 → ℝ, ∑ i, v i ^ 2 = v ⬝ᵥ v := fun v => by simp only [dotProduct, pow_two]
  calc squaredStep (parts q 0 * a) axis = q.mulVec c ⬝ᵥ q.mulVec c := by
        rw [squaredStep, ← hsquares]
        simp only [hcolumn]
    _ = c ⬝ᵥ (q.transpose * q).mulVec c := by
        rw [Matrix.dotProduct_mulVec, Matrix.vecMul_mulVec, ← Matrix.dotProduct_mulVec]
    _ = a.squaredStep axis := by
        rw [(Matrix.mem_orthogonalGroup_iff' (Fin 3) ℝ).1 hq, Matrix.one_mulVec, ← hsquares]
        rfl

theorem act_add_single (b : RealMatrix 4 4) (x : Fin 3 → ℝ) (axis : Fin 3) :
    b.act (x + Pi.single axis 1) - b.act x = fun i : Fin 3 => b i.castSucc axis.castSucc := by
  funext i
  simp [act_apply, mul_add, Finset.sum_add_distrib, Pi.single_apply]

end RealMatrix

namespace Regrid

open Exact RealMatrix

namespace View

/-- **Neighbouring samples along an axis**, in one output voxel or on both sides of a border, are a step of the mapping
apart, divided by the number of samples. -/
theorem norm_samplePosition {v : View Exact} {a : RealMatrix 4 4} (hmapping : v.mapping = affine a) {axis : Fin 3}
    {place : List Nat} {voxel voxel' : Vector Nat 3} {step step' : Fin 3 → ℕ}
    (hnext : (blockVoxel v.plan.factors.get step' voxel').get =
      (blockVoxel v.plan.factors.get step voxel).get + Pi.single axis 1) :
    Point.norm (Point.sub (v.samplePosition (voxel'.toList ++ place) step')
      (v.samplePosition (voxel.toList ++ place) step)) = finite (a.stepLength axis / v.plan.factors.get axis) := by
  -- the samples are at the centres of smaller voxels, so neighbours are one step of a finer mapping apart
  let fine : RealMatrix 4 4 := a * resizing fun i => 1 / (v.plan.factors.get i : ℝ)
  have hposition : ∀ (voxel : Vector Nat 3) (step : Fin 3 → ℕ), v.samplePosition (voxel.toList ++ place) step =
      Exact.point (fine.act fun i => ((blockVoxel v.plan.factors.get step voxel).get i : ℝ)) := fun voxel step => by
    rw [samplePosition, hmapping, point_append, centre_add_offset, centre, apply_affine, apply_affine,
      act_mul (isAffine_resizing _)]
  have hreal : (fun i => ((blockVoxel v.plan.factors.get step' voxel').get i : ℝ)) =
      (fun i => ((blockVoxel v.plan.factors.get step voxel).get i : ℝ)) + Pi.single axis 1 := by
    funext i
    rw [hnext, Pi.add_apply, Pi.add_apply, Pi.single_apply, Pi.single_apply]
    push_cast
    rfl
  rw [hposition, hposition, hreal, sub_point, act_add_single, norm_point]
  have hlength := stepLength_mul_resizing a (f := fun i => 1 / (v.plan.factors.get i : ℝ))
    (fun i => by positivity) axis
  rw [one_div_mul_eq_div] at hlength
  exact congrArg finite hlength

end View

namespace OversamplingPlan

/-- **The estimate is the least number of samples** that keeps neighbouring samples within `1000 / 999` voxels of the
volume.  It reads the linear part alone, is the same after a rotation or a reflection of the volume, and does not fall
when a column grows.  Samples are neighbours if their places among those of all output voxels differ by one along one
axis. -/
theorem estimate_isLeast (a : RealMatrix 4 4) :
    ∃ f : Fin 3 → ℤ, estimate (affine a) = .ok [f 0, f 1, f 2] ∧
      (∀ axis, IsLeast {n : ℤ | 1 ≤ n ∧ 999 ^ 2 * ∑ i : Fin 3, a i.castSucc axis.castSucc ^ 2 ≤ (1000 * n) ^ 2}
        (f axis)) ∧
      (∀ b : RealMatrix 4 4, (∀ i j : Fin 3, b i.castSucc j.castSucc = a i.castSucc j.castSucc) →
        estimate (affine b) = .ok [f 0, f 1, f 2]) ∧
      (∀ q ∈ Matrix.orthogonalGroup (Fin 3) ℝ,
        estimate ((affine (parts q 0)).compose (affine a)) = .ok [f 0, f 1, f 2]) ∧
      (∀ (b : RealMatrix 4 4) (g : Fin 3 → ℤ), estimate (affine b) = .ok [g 0, g 1, g 2] → ∀ axis : Fin 3,
        ∑ i : Fin 3, a i.castSucc axis.castSucc ^ 2 ≤ ∑ i : Fin 3, b i.castSucc axis.castSucc ^ 2 → f axis ≤ g axis) ∧
      ∃ p, plan (affine a) .null = .ok p ∧ (∀ axis, (p.factors.get axis : ℤ) = f axis) ∧
        ∀ v : View Exact, v.mapping = affine a → v.plan = p →
          ∀ (axis : Fin 3) (place : List Nat) (voxel voxel' : Vector Nat 3) (step step' : Fin 3 → ℕ),
            (blockVoxel p.factors.get step' voxel').get =
              (blockVoxel p.factors.get step voxel).get + Pi.single axis 1 →
            Point.norm (Point.sub (v.samplePosition (voxel'.toList ++ place) step')
              (v.samplePosition (voxel.toList ++ place) step)) ≤ finite (1000 / 999) := by
  obtain ⟨p, hplan, hcount⟩ := plan_null a
  refine ⟨a.sampleCount, estimate_affine a, a.sampleCount_isLeast, fun b hb => ?_, fun q hq => ?_,
    fun b g hg axis hle => ?_, p, hplan, hcount, ?_⟩
  · have hsame : ∀ axis, b.sampleCount axis = a.sampleCount axis := fun axis =>
      sampleCount_congr (by simp only [squaredStep, hb])
    rw [estimate_affine, hsame, hsame, hsame]
  · have hsame : ∀ axis, sampleCount (parts q 0 * a) axis = a.sampleCount axis := fun axis =>
      sampleCount_congr (squaredStep_orthogonal hq a axis)
    rw [compose_affine, estimate_affine, hsame, hsame, hsame]
  · have hcounts : b.sampleCount axis = g axis := by
      rw [estimate_affine] at hg
      simp only [Except.ok.injEq, List.cons.injEq, and_true] at hg
      fin_cases axis
      · exact hg.1
      · exact hg.2.1
      · exact hg.2.2
    exact hcounts ▸ sampleCount_mono hle
  · rintro v hmapping rfl axis place voxel voxel' step step' hnext
    rw [View.norm_samplePosition hmapping hnext, finite_le, ← Int.cast_natCast, hcount]
    exact a.stepLength_div_sampleCount_le axis

/-- **Lengths of two, of just above one, and of zero** need two samples, one and one, also with the axes of the volume
exchanged.  The samples on both sides of a border between voxels are neighbours. -/
theorem estimate_isLeast_borderline :
    let a : RealMatrix 4 4 := resizing ![2, 1000 / 999, 0]
    estimate (affine a) = .ok [2, 1, 1] ∧
    estimate ((affine (parts !![0, 1, 0; 1, 0, 0; 0, 0, 1] 0)).compose (affine a)) = .ok [2, 1, 1] ∧
    (∃ g : Fin 3 → ℤ, estimate (affine (resizing ![3, 1000 / 999, 0])) = .ok [g 0, g 1, g 2] ∧ 2 ≤ g 0) ∧
    ∃ v : View Exact, v.mapping = affine a ∧ plan (affine a) .null = .ok v.plan ∧
      Point.norm (Point.sub (v.samplePosition [1, 0, 0] ![0, 0, 0]) (v.samplePosition [0, 0, 0] ![1, 0, 0])) ≤
        finite (1000 / 999) := by
  intro a
  have hsquares : ∀ (x : Fin 3 → ℝ) (axis : Fin 3),
      ∑ i : Fin 3, resizing x i.castSucc axis.castSucc ^ 2 = x axis ^ 2 := fun x axis => by
    simp only [resizing, parts_castSucc, scaling, Matrix.diagonal_apply]
    simp
  obtain ⟨f, hf, hleast, -, horthogonal, hmono, p, hp, hfactors, hnear⟩ := estimate_isLeast a
  have h0 : f 0 = 2 := by
    refine (hleast 0).unique ⟨⟨by norm_num, ?_⟩, fun n hn => ?_⟩
    · rw [hsquares]
      norm_num
    · by_contra hlt
      obtain rfl : n = 1 := le_antisymm (by omega) hn.1
      have hle := hn.2
      rw [hsquares] at hle
      norm_num at hle
  have h1 : f 1 = 1 := by
    refine (hleast 1).unique ⟨⟨le_rfl, ?_⟩, fun n hn => hn.1⟩
    rw [hsquares]
    norm_num
  have h2 : f 2 = 1 := by
    refine (hleast 2).unique ⟨⟨le_rfl, ?_⟩, fun n hn => hn.1⟩
    rw [hsquares, show (![2, 1000 / 999, 0] : Fin 3 → ℝ) 2 = 0 from rfl]
    norm_num
  have hexchange : (!![0, 1, 0; 1, 0, 0; 0, 0, 1] : RealMatrix 3 3) ∈ Matrix.orthogonalGroup (Fin 3) ℝ := by
    rw [Matrix.mem_orthogonalGroup_iff]
    ext i j
    fin_cases i <;> fin_cases j <;> simp [Matrix.mul_apply, Fin.sum_univ_three]
  obtain ⟨g, hg, -⟩ := estimate_isLeast (resizing ![3, 1000 / 999, 0])
  refine ⟨by rw [hf, h0, h1, h2], by rw [horthogonal _ hexchange, h0, h1, h2], ⟨g, hg, ?_⟩, ?_⟩
  · rw [← h0]
    refine hmono _ g hg 0 ?_
    rw [hsquares, hsquares]
    norm_num
  · have hget : ∀ axis, p.factors.get axis = ![2, 1, 1] axis := fun axis => by
      fin_cases axis
      · exact_mod_cast (hfactors 0).trans h0
      · exact_mod_cast (hfactors 1).trans h1
      · exact_mod_cast (hfactors 2).trans h2
    let v : View Exact := ⟨⟨⟨.real .double, Tensor.build [1, 1, 1] fun _ => finite 3⟩, ⟨triple 1 1 1, []⟩, .nearest,
      none, none, .null⟩, View.unitGrid, affine a, p⟩
    refine ⟨v, rfl, hp, ?_⟩
    exact hnear v rfl rfl 0 [] (triple 0 0 0) (triple 1 0 0) ![1, 0, 0] ![0, 0, 0] (by
      rw [funext hget]
      decide)

end OversamplingPlan

end Regrid
