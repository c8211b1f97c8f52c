import Mathlib
import Regrid.Proofs.Agreement
import Regrid.Proofs.Centres
import Regrid.Proofs.Resizing
/-!
# BlockMean — averages over blocks of voxels

A view whose mapping scales voxels by whole factors, and whose plan has these factors, takes its samples at the centres
of the voxels that an output voxel covers.  So the value of an output voxel is the mean of a block.
-/
namespace Regrid

open Exact RealMatrix

/-- **The voxel of a block** at a step from its first one; the blocks have the given sizes. -/
def blockVoxel (f step : Fin 3 → ℕ) (voxel : Vector Nat 3) : Vector Nat 3 :=
  Vector.ofFn fun i => f i * voxel.get i + step i

theorem inside_blockVoxel {f step : Fin 3 → ℕ} {m n voxel : Vector Nat 3} (hfit : ∀ i, f i * m.get i ≤ n.get i)
    (hstep : ∀ i, step i < f i) (hvoxel : Shape.Inside m.toList voxel.toList) :
    Shape.Inside n.toList (blockVoxel f step voxel).toList := by
  refine Shape.inside_iff_get.2 fun i => ?_
  have hlt := Shape.inside_iff_get.1 hvoxel i
  rw [blockVoxel, Vector.get_ofFn]
  calc f i * voxel.get i + step i < f i * voxel.get i + f i := Nat.add_lt_add_left (hstep i) _
    _ = f i * (voxel.get i + 1) := (Nat.mul_succ _ _).symm
    _ ≤ f i * m.get i := Nat.mul_le_mul_left _ hlt
    _ ≤ n.get i := hfit i

/-- **The steps from the first voxel of a block** to its voxels; the first axis varies fastest. -/
def blockSteps (f : Fin 3 → ℕ) : List (Fin 3 → ℕ) :=
  (List.range (f 2)).flatMap fun z => (List.range (f 1)).flatMap fun y => (List.range (f 0)).map fun x => ![x, y, z]

/-- **The mean of a block of cells**, in which those that are not finite count as zero. -/
noncomputable def blockMean (f : Fin 3 → ℕ) (cell : (Fin 3 → ℕ) → Exact) : ℝ :=
  (∑ z ∈ Finset.range (f 2), ∑ y ∈ Finset.range (f 1), ∑ x ∈ Finset.range (f 0), (cell ![x, y, z]).toReal) /
    (f 0 * f 1 * f 2)

theorem blockMean_congr {f : Fin 3 → ℕ} {cell cell' : (Fin 3 → ℕ) → Exact}
    (h : ∀ step : Fin 3 → ℕ, (∀ i, step i < f i) → (cell step).toReal = (cell' step).toReal) :
    blockMean f cell = blockMean f cell' := by
  refine congrArg (· / _) (Finset.sum_congr rfl fun z hz => Finset.sum_congr rfl fun y hy =>
    Finset.sum_congr rfl fun x hx => h _ fun i => ?_)
  rw [Finset.mem_range] at hx hy hz
  match i with
  | 0 => exact hx
  | 1 => exact hy
  | 2 => exact hz

theorem blockMean_const {f : Fin 3 → ℕ} (hf : ∀ i, 1 ≤ f i) {cell : (Fin 3 → ℕ) → Exact} {x : ℝ}
    (hcell : ∀ step : Fin 3 → ℕ, (∀ i, step i < f i) → cell step = finite x) : blockMean f cell = x := by
  have hne : ∀ i, (f i : ℝ) ≠ 0 := fun i => Nat.cast_ne_zero.2 (Nat.one_le_iff_ne_zero.1 (hf i))
  have hsame : blockMean f cell = blockMean f fun _ => finite x :=
    blockMean_congr fun step hstep => by rw [hcell step hstep]
  rw [hsame, blockMean]
  simp only [toReal, Finset.sum_const, Finset.card_range, nsmul_eq_mul]
  have h0 := hne 0
  have h1 := hne 1
  have h2 := hne 2
  field_simp

theorem lt_of_mem_blockSteps {f step : Fin 3 → ℕ} (h : step ∈ blockSteps f) (i : Fin 3) : step i < f i := by
  simp only [blockSteps, List.mem_flatMap, List.mem_map, List.mem_range] at h
  obtain ⟨z, hz, y, hy, x, hx, rfl⟩ := h
  match i with
  | 0 => exact hx
  | 1 => exact hy
  | 2 => exact hz

theorem sum_blockSteps (f : Fin 3 → ℕ) (g : (Fin 3 → ℕ) → ℝ) : ((blockSteps f).map g).sum =
    ∑ z ∈ Finset.range (f 2), ∑ y ∈ Finset.range (f 1), ∑ x ∈ Finset.range (f 0), g ![x, y, z] := by
  have hrange : ∀ (n : ℕ) (h : ℕ → ℝ), ((List.range n).map h).sum = ∑ i ∈ Finset.range n, h i := fun _ _ => rfl
  simp only [blockSteps, List.flatMap_def, List.map_flatten, List.map_map, List.sum_flatten, Function.comp_def, hrange]

namespace OversamplingPlan

variable {p : OversamplingPlan}

/-- **A plan takes several samples** if one of its factors is not one. -/
theorem active_iff : p.active = true ↔ ∃ i, p.factors.get i ≠ 1 := by
  have hpositive : 1 ≤ p.count := Nat.mul_pos (Nat.mul_pos (p.positive 0) (p.positive 1)) (p.positive 2)
  have hone : p.count = 1 ↔ ∀ i, p.factors.get i = 1 := by
    rw [count, mul_eq_one, mul_eq_one, and_assoc]
    exact ⟨fun ⟨h0, h1, h2⟩ => Fin.forall_fin_succ.2 ⟨h0, Fin.forall_fin_two.2 ⟨h1, h2⟩⟩, fun h => ⟨h 0, h 1, h 2⟩⟩
  rw [active, decide_eq_true_iff, ← not_forall, ← hone]
  exact ⟨fun h => h.ne', fun h => Nat.lt_of_le_of_ne hpositive (Ne.symm h)⟩

theorem get_factors_of_inactive (h : p.active = false) (i : Fin 3) : p.factors.get i = 1 := by
  by_contra hne
  rw [active_iff.2 ⟨i, hne⟩] at h
  cases h

theorem offset_eq (p : OversamplingPlan) (axis : Fin 3) (step : ℕ) : (p.offset axis step : Exact) =
    finite ((2 * step + 1 - p.factors.get axis) / (2 * p.factors.get axis)) := by
  have hne : (p.factors.get axis : ℝ) ≠ 0 := by exact_mod_cast (p.positive axis).ne'
  have hincrement : (p.increment axis : Exact) = finite (1 / p.factors.get axis) := by
    simp [increment, finite_div _ hne]
  unfold offset originOffset
  simp only [hincrement, half_eq, ofNat_eq, ofInt_eq, finite_sub, finite_mul, finite_add]
  congr 1
  field_simp
  push_cast
  ring

theorem offsets_eq (p : OversamplingPlan) : (p.offsets : List (Point Exact)) =
    (blockSteps p.factors.get).map fun step =>
      triple (p.offset 0 (step 0)) (p.offset 1 (step 1)) (p.offset 2 (step 2)) := by
  simp only [offsets, blockSteps, List.map_flatMap, List.map_map]
  rfl

theorem normalization_eq (p : OversamplingPlan) :
    (p.normalization : Exact) = finite (1 / (p.factors.get 0 * p.factors.get 1 * p.factors.get 2)) := by
  have hpositive : ∀ i, (p.factors.get i : ℝ) ≠ 0 := fun i => by exact_mod_cast (p.positive i).ne'
  have hcount : ((p.count : ℤ) : ℝ) = p.factors.get 0 * p.factors.get 1 * p.factors.get 2 := by
    rw [count]
    push_cast
    rfl
  have hne : ((p.count : ℤ) : ℝ) ≠ 0 := by
    rw [hcount]
    exact mul_ne_zero (mul_ne_zero (hpositive 0) (hpositive 1)) (hpositive 2)
  rw [normalization, ofNat_eq, ofInt_eq, finite_div _ hne, hcount, Nat.cast_one]

end OversamplingPlan

namespace View

variable {v : View Exact} {f : Fin 3 → ℕ} {voxel : Vector Nat 3} {place : List Nat}

theorem point_append (voxel : Vector Nat 3) (place : List Nat) :
    (point (voxel.toList ++ place) : Point Exact) = centre voxel := by
  ext i hi
  have hget : (voxel.toList ++ place)[i]? = some voxel[i] := by
    rw [List.getElem?_append_left (by simpa using hi)]
    simp
  simp [point, centre, Exact.point, hget, Vector.get]

/-- **The samples inside an output voxel** are at the centres of the voxels of a lattice that is as many times finer. -/
theorem centre_add_offset (p : OversamplingPlan) (step : Fin 3 → ℕ) :
    Point.add (centre voxel) (triple (p.offset 0 (step 0)) (p.offset 1 (step 1)) (p.offset 2 (step 2))) =
      (affine (resizing fun i => 1 / (p.factors.get i : ℝ))).apply (centre (blockVoxel p.factors.get step voxel)) := by
  have hoffset : triple (p.offset 0 (step 0)) (p.offset 1 (step 1)) (p.offset 2 (step 2)) =
      Exact.point fun i => ((2 * step i + 1 - p.factors.get i) / (2 * p.factors.get i) : ℝ) := by
    simp only [OversamplingPlan.offset_eq]
    ext i hi
    match i with
    | 0 | 1 | 2 => simp [triple, Exact.point]
  rw [hoffset, centre, add_point, centre, apply_affine]
  refine congrArg Exact.point (funext fun i => ?_)
  have hne : (p.factors.get i : ℝ) ≠ 0 := by exact_mod_cast (p.positive i).ne'
  simp only [act_resizing, Pi.add_apply, blockVoxel, Vector.get_ofFn]
  field_simp
  push_cast
  ring

/-- **A sample inside an output voxel** is at the centre of a voxel of its block. -/
theorem apply_resizing_offset (hfactors : ∀ i, v.plan.factors.get i = f i) (step : Fin 3 → ℕ) :
    (affine (resizing fun i => (f i : ℝ))).apply (Point.add (centre voxel)
      (triple (v.plan.offset 0 (step 0)) (v.plan.offset 1 (step 1)) (v.plan.offset 2 (step 2)))) =
        centre (blockVoxel f step voxel) := by
  have hget : v.plan.factors.get = f := funext hfactors
  rw [centre_add_offset, hget, centre, apply_affine, apply_affine]
  refine congrArg Exact.point (funext fun i => ?_)
  have hne : (f i : ℝ) ≠ 0 := by
    rw [← hfactors]
    exact_mod_cast (v.plan.positive i).ne'
  simp only [act_resizing]
  field_simp
  ring

/-- **What is seen at a position**: the estimate inside the field of view, and no number elsewhere. -/
noncomputable def seen (v : View Exact) (place : List Nat) (p : Point Exact) : Exact :=
  if v.sampler.valid p then v.sampler.estimate place p else .nan

/-- **The position of a sample** in the volume, at a step inside an output voxel. -/
noncomputable def samplePosition (v : View Exact) (voxel : List Nat) (step : Fin 3 → ℕ) : Point Exact :=
  v.mapping.apply (Point.add (point voxel)
    (triple (v.plan.offset 0 (step 0)) (v.plan.offset 1 (step 1)) (v.plan.offset 2 (step 2))))

theorem samplePosition_zero (hactive : v.plan.active = false) (voxel : List Nat) :
    v.samplePosition voxel (fun _ => 0) = v.target voxel := by
  have hoffset : ∀ i, (v.plan.offset i 0 : Exact) = finite 0 := by
    intro i
    rw [OversamplingPlan.offset_eq, OversamplingPlan.get_factors_of_inactive hactive]
    norm_num
  rw [samplePosition, target]
  refine congrArg v.mapping.apply ?_
  ext i hi
  have haxis : i = 0 ∨ i = 1 ∨ i = 2 := by omega
  rcases haxis with rfl | rfl | rfl <;> simp [Point.add, triple, hoffset, point]

theorem samples_eq (place voxel : List Nat) : v.samples place voxel =
    ((blockSteps v.plan.factors.get).map (v.samplePosition voxel)).filterMap (v.counted? place) := by
  rw [samples, OversamplingPlan.offsets_eq, List.map_map, List.map_map]
  rfl

theorem counted?_eq (p : Point Exact) : v.counted? place p =
    if Scalar.isFinite (v.seen place p) then some (v.seen place p) else none := by
  unfold counted? seen
  cases v.sampler.valid p <;> rfl

theorem sum_counted (points : List (Point Exact)) : sum .double (points.filterMap (v.counted? place)) =
    finite (points.map fun p => (v.seen place p).toReal).sum := by
  -- no sum is rounded, so that each is the real number so far
  have hstep : ∀ (points : List (Point Exact)) (r : ℝ),
      (points.filterMap (v.counted? place)).foldl (fun s x => Scalar.narrow .double (s + x)) (finite r) =
        finite (r + (points.map fun p => (v.seen place p).toReal).sum) := by
    intro points
    induction points with
    | nil => intro r; simp
    | cons p points ih =>
      intro r
      cases hx : v.seen place p with
      | finite x =>
        have hcounted : v.counted? place p = some (finite x) := by simp [counted?_eq, hx]
        rw [List.filterMap_cons_some hcounted, List.foldl_cons, narrow_double, finite_add, ih]
        simp [hx, toReal, add_assoc]
      | infinity | nan =>
        have hcounted : v.counted? place p = none := by simp [counted?_eq, hx, Scalar.isFinite, isFinite]
        rw [List.filterMap_cons_none hcounted, ih]
        simp [hx, toReal]
  have hzero : (0 : Exact) = finite 0 := by simp
  rw [sum, hzero, hstep points 0]
  simp

/-- **The average in an output voxel** is the mean of what is seen at its samples. -/
theorem mean_eq_blockMean (voxel : List Nat) : mean .double v.plan.normalization (v.samples place voxel) =
    finite (blockMean v.plan.factors.get fun step => v.seen place (v.samplePosition voxel step)) := by
  rw [mean, samples_eq, sum_counted, List.map_map, sum_blockSteps, OversamplingPlan.normalization_eq]
  simp only [narrow_double, finite_mul]
  rw [blockMean, mul_one_div]
  rfl

/-- **The samples of a view that scales voxels by whole factors** are the cells of a block. -/
theorem samples_block (hs : v.sampler.Sound) (hsource : ∀ coefficients, v.sampler.source ≠ .cubic coefficients)
    (hmapping : v.mapping = affine (resizing fun i => (f i : ℝ))) (hfactors : ∀ i, v.plan.factors.get i = f i)
    (hfit : ∀ i, f i * v.reference.extent.spatial.get i ≤ v.sampler.extent.spatial.get i)
    (hvoxel : Shape.Inside v.extent.spatial.toList voxel.toList) (hplace : Shape.Inside v.sampler.extent.series place)
    {cell : (Fin 3 → ℕ) → Exact} (hcell : ∀ step : Fin 3 → ℕ, (∀ i, step i < f i) → ∃ x,
      v.sampler.volume.cell? ((blockVoxel f step voxel).toList ++ place) = some x ∧
      v.sampler.volume.dtype.scalar x = cell step ∧ Scalar.isFinite (cell step) = true) :
    v.samples place (voxel.toList ++ place) = (blockSteps f).map cell := by
  have hget : v.plan.factors.get = f := funext hfactors
  have hcounted : ∀ step ∈ blockSteps f,
      v.counted? place (v.samplePosition (voxel.toList ++ place) step) = some (cell step) := by
    intro step hstep
    have hlt := lt_of_mem_blockSteps hstep
    have hinside := inside_blockVoxel hfit hlt hvoxel
    obtain ⟨x, hx, hscalar, hfinite⟩ := hcell step hlt
    obtain ⟨y, hy, hestimate⟩ := hs.estimate_centre hsource hinside hplace
    obtain rfl : y = x := Option.some.inj (hy.symm.trans hx)
    rw [samplePosition, point_append, hmapping, apply_resizing_offset hfactors, counted?, hestimate, hscalar, hfinite,
      Sampler.valid_centre hinside]
    rfl
  rw [samples_eq, hget, List.filterMap_map]
  exact (List.filterMap_congr hcounted).trans (congrFun List.filterMap_eq_map' _)

/-- **A view that scales voxels by whole factors** has the means of blocks, in whichever way it is evaluated. -/
theorem Sound.evaluate_blocks [Capacity] (hv : v.Sound) {cells : Tensor Exact}
    (hvolume : v.sampler.volume = ⟨.real .double, cells⟩) (hfallback : v.sampler.fallback = none)
    (hsource : ∀ coefficients, v.sampler.source ≠ .cubic coefficients)
    (hactive : v.plan.active = true) (hmapping : v.mapping = affine (resizing fun i => (f i : ℝ)))
    (hfactors : ∀ i, v.plan.factors.get i = f i)
    (hfit : ∀ i, f i * v.reference.extent.spatial.get i ≤ v.sampler.extent.spatial.get i) :
    ∃ t : Tensor Exact, t.shape = v.extent.toShape ∧
      (∀ c : Cursor Exact, c.axes = v.extent.axes →
        Walk.perform v.copyReals c = (.ok t, v.start) ∧ Walk.perform v.resampleReals c = (.ok t, v.start)) ∧
      ∀ (voxel : Vector Nat 3) (place : List Nat), Shape.Inside v.extent.spatial.toList voxel.toList →
        Shape.Inside v.extent.series place → ∃ cell : (Fin 3 → ℕ) → Exact,
          (∀ step : Fin 3 → ℕ, (∀ i, step i < f i) →
            cells.get? ((blockVoxel f step voxel).toList ++ place) = some (cell step)) ∧
          t.get? (voxel.toList ++ place) = some (finite (blockMean f cell)) := by
  have hdouble : v.sampler.volume.dtype = .real .double := by rw [hvolume]
  obtain ⟨x, hevaluate, hread⟩ := hv.evaluate_of_double hdouble (by rw [hfallback]; simp)
  refine ⟨_, rfl, hevaluate, fun voxel place hvoxel hplace => ?_⟩
  have hinside : v.extent.toShape.Inside (voxel.toList ++ place) := hvoxel.append hplace
  have hblock : ∀ step : Fin 3 → ℕ, (∀ i, step i < f i) →
      Shape.Inside v.sampler.extent.spatial.toList (blockVoxel f step voxel).toList := fun step hstep =>
    inside_blockVoxel hfit hstep hvoxel
  have hestimate : ∀ step : Fin 3 → ℕ, (∀ i, step i < f i) → ∃ y,
      cells.get? ((blockVoxel f step voxel).toList ++ place) = some y ∧
      v.sampler.estimate place (centre (blockVoxel f step voxel)) = y := fun step hstep =>
    hv.sampler.estimate_centre_double hvolume hsource (hblock step hstep) hplace
  -- every sample is at a centre inside the volume, where the kernel gives the voxel itself
  choose! cell hcell hestimate using hestimate
  refine ⟨cell, hcell, ?_⟩
  have hmean : mean .double v.plan.normalization (v.samples place (voxel.toList ++ place)) =
      finite (blockMean f cell) := by
    have hget : v.plan.factors.get = f := funext hfactors
    rw [mean_eq_blockMean, hget]
    refine congrArg finite (blockMean_congr fun step hstep => congrArg toReal ?_)
    rw [samplePosition, point_append, hmapping, apply_resizing_offset hfactors, seen,
      if_pos (Sampler.valid_centre (hblock step hstep)), hestimate step hstep]
  have hprecision := sumPrecision_double (.inl hdouble)
  have hdrop : (voxel.toList ++ place).drop 3 = place := List.drop_left' (by simp)
  have hvalue := hread _ hinside
  rw [hv.readAt_eq hinside, cursorValue, if_pos hactive, hprecision, hdrop, hmean] at hvalue
  rw [Tensor.get?_build hinside, Except.ok.inj hvalue]

end View

end Regrid
