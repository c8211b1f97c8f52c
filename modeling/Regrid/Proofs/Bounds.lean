import Mathlib
import Regrid.Proofs.Weights
/-!
# Bounds — values between those of the voxels

No weight of the nearest and the linear kernel is negative, and together they are one: inside the field of view an
estimate lies between any bounds of the voxels.  A sample outside counts as zero but is counted, so that an average of
several samples lies between the shares of the bounds that samples inside make up (`resliceArray_between`).
-/
namespace Regrid

open Exact RealMatrix

/-- **A tensor of real numbers between bounds.** -/
def Tensor.Between (a b : ℝ) (t : Tensor Exact) : Prop := ∀ x ∈ t.toList, ∃ r, x = finite r ∧ a ≤ r ∧ r ≤ b

namespace Tensor.Between

variable {a b : ℝ} {t : Tensor Exact}

theorem finite (ht : t.Between a b) : t.Finite := by
  intro x hx
  obtain ⟨r, rfl, -⟩ := ht x hx
  rfl

theorem realAt (ht : t.Between a b) {index : List Nat} (h : t.shape.Inside index) :
    a ≤ t.realAt index ∧ t.realAt index ≤ b := by
  obtain ⟨x, hx, hget⟩ := Tensor.exists_get? h
  obtain ⟨r, rfl, hr⟩ := ht x hx
  rw [Tensor.realAt, hget]
  exact hr

end Tensor.Between

section Block

variable {f : Fin 3 → ℕ} {cell cell' : (Fin 3 → ℕ) → Exact}

theorem blockMean_eq_sum :
    blockMean f cell = ((blockSteps f).map fun step => (cell step).toReal).sum / (f 0 * f 1 * f 2) := by
  rw [sum_blockSteps]
  rfl

theorem blockMean_mono (h : ∀ step : Fin 3 → ℕ, (∀ i, step i < f i) → (cell step).toReal ≤ (cell' step).toReal) :
    blockMean f cell ≤ blockMean f cell' := by
  rw [blockMean_eq_sum, blockMean_eq_sum]
  refine div_le_div_of_nonneg_right (List.sum_le_sum fun step hstep => ?_) (by positivity)
  exact h step (lt_of_mem_blockSteps hstep)

theorem sum_map_ite {β : Type} (p : β → Bool) (a : ℝ) (l : List β) :
    (l.map fun x => if p x then a else 0).sum = a * l.countP p := by
  induction l with
  | nil => simp
  | cons x l ih =>
    rw [List.map_cons, List.sum_cons, ih]
    cases hx : p x with
    | true =>
      rw [List.countP_cons_of_pos hx, if_pos rfl]
      push_cast
      ring
    | false =>
      rw [List.countP_cons_of_neg (by simp [hx]), if_neg Bool.false_ne_true]
      ring

/-- **The mean of a block** that holds one number in some cells and zero in the others. -/
theorem blockMean_ite (p : (Fin 3 → ℕ) → Bool) (a : ℝ) :
    (blockMean f fun step => finite (if p step then a else 0)) =
      a * (blockSteps f).countP p / (f 0 * f 1 * f 2) := by
  rw [blockMean_eq_sum]
  exact congrArg (· / _) (sum_map_ite p a (blockSteps f))

end Block

namespace View

/-- **The number of samples of a voxel** that are inside the field of view. -/
noncomputable def validCount (v : View Exact) (voxel : List Nat) : Nat :=
  ((v.plan.offsets.map (Point.add (point voxel))).map v.mapping.apply).countP v.sampler.valid

variable {v : View Exact} {cells : Tensor Exact} {a b : ℝ} {voxel place : List Nat}

theorem validCount_eq : v.validCount voxel =
    (blockSteps v.plan.factors.get).countP fun step => v.sampler.valid (v.samplePosition voxel step) := by
  rw [validCount, OversamplingPlan.offsets_eq, List.map_map, List.map_map, List.countP_map]
  rfl

theorem blockMean_valid (a : ℝ) :
    (blockMean v.plan.factors.get fun step =>
      finite (if v.sampler.valid (v.samplePosition voxel step) then a else 0)) =
        a * v.validCount voxel / v.plan.count := by
  rw [blockMean_ite, validCount_eq, OversamplingPlan.count]
  push_cast
  rfl

namespace TakesMeans

variable (hv : v.TakesMeans) (hcells : cells.Between a b) (hshape : cells.shape = v.sampler.extent.toShape)
  (hplace : Shape.Inside v.sampler.extent.series place)

include hv hcells hshape hplace

/-- **What is seen inside the field of view** lies between the bounds of the voxels. -/
theorem seen_between {p : Point Exact} (hvalid : v.sampler.valid p = true) :
    ∃ x, (v.ofCells cells).seen place p = finite x ∧ a ≤ x ∧ x ≤ b := by
  obtain ⟨m, hm⟩ := hv.exists_seen hvalid
  have hvoxels : ∀ voxel : Vector Nat 3, Shape.Inside v.sampler.extent.spatial.toList voxel.toList →
      a ≤ cells.realAt (voxel.toList ++ place) ∧ cells.realAt (voxel.toList ++ place) ≤ b := by
    intro voxel hvoxel
    refine hcells.realAt ?_
    rw [hshape]
    exact hvoxel.append hplace
  exact ⟨_, hm cells place hcells.finite hshape hplace, m.le_of fun voxel h => (hvoxels voxel h).1,
    m.of_le fun voxel h => (hvoxels voxel h).2⟩

/-- **A sample inside the field of view** counts as a number between the bounds, and one outside as zero. -/
theorem sample_between (p : Point Exact) :
    (if v.sampler.valid p then a else 0) ≤ ((v.ofCells cells).seen place p).toReal ∧
      ((v.ofCells cells).seen place p).toReal ≤ if v.sampler.valid p then b else 0 := by
  cases hvalid : v.sampler.valid p with
  | true =>
    obtain ⟨x, hx, hbounds⟩ := hv.seen_between hcells hshape hplace hvalid
    rw [hx]
    exact hbounds
  | false =>
    rw [seen_ofCells_of_invalid hvalid]
    exact ⟨le_rfl, le_rfl⟩

end TakesMeans

/-- **The mean of what is seen** lies between the shares of the bounds that samples inside make up. -/
theorem TakesMeans.seenMean_between (hv : v.TakesMeans) (hcells : cells.Between a b)
    (hshape : cells.shape = v.sampler.extent.toShape) (hplace : Shape.Inside v.sampler.extent.series (voxel.drop 3)) :
    a * v.validCount voxel / v.plan.count ≤ v.seenMean cells voxel ∧
      v.seenMean cells voxel ≤ b * v.validCount voxel / v.plan.count := by
  rw [← blockMean_valid, ← blockMean_valid]
  exact ⟨blockMean_mono fun step _ => (hv.sample_between hcells hshape hplace _).1,
    blockMean_mono fun step _ => (hv.sample_between hcells hshape hplace _).2⟩

end View

section Resliced

variable [LinearSolver Exact] {input reference : Grid Exact} {o : ReslicingOptions Exact} {kernel : Kernel}
  {cells : Tensor Exact} {v : View Exact} {a b : ℝ}

/-- **An array of numbers between bounds is resliced to values between their shares.**  With several samples for each
voxel, a voxel has at least the lower bound and at most the upper one, each scaled by the share of its samples that are
inside the field of view: where all numbers are the same, it has this share of them.  With one sample, it lies between
the bounds themselves if it is inside, and has the fallback if it is not. -/
theorem resliceArray_between [Capacity] (hinput : ∀ n ∈ input.shape, 0 < n) (hcells : cells.Between a b)
    (horder : Kernel.ofLiteral o.order = .ok kernel) (hkernel : kernel ≠ .cubic) (hfallback : o.fallback.IsFallback)
    (hdtype : o.dtype = .null) (hview : o.view ⟨.real .double, cells⟩ input (some reference) = .ok v)
    (hroom : (Shape.reserve v.extent.toShape : Except (Fault Exact) Unit) = .ok ()) :
    ∃ t : Tensor Exact, resliceArray ⟨.real .double, cells⟩ input (some reference) o = .ok ⟨.real .double, t⟩ ∧
      t.shape = v.extent.toShape ∧
      ∀ voxel, v.extent.toShape.Inside voxel →
        (v.plan.active = true → ∃ x, t.get? voxel = some (finite x) ∧
          a * v.validCount voxel / v.plan.count ≤ x ∧ x ≤ b * v.validCount voxel / v.plan.count ∧
          (a = b → x = a * v.validCount voxel / v.plan.count)) ∧
        (v.plan.active = false → v.sampler.valid (v.target voxel) = true →
          ∃ x, t.get? voxel = some (finite x) ∧ a ≤ x ∧ x ≤ b) ∧
        (v.plan.active = false → v.sampler.valid (v.target voxel) = false →
          t.get? voxel = some o.fallback.outsideValue) := by
  obtain ⟨hmeans, hextent⟩ := o.takesMeans_of_view hinput horder hkernel hview
  refine ⟨_, resliceArray_ofCells hinput horder hkernel hfallback hdtype hview hroom rfl, rfl, fun voxel hvoxel => ?_⟩
  have hplace : Shape.Inside v.sampler.extent.series (voxel.drop 3) := (Extent.inside_toShape hvoxel).2
  rw [Tensor.get?_build hvoxel]
  -- several samples, a single one inside, and a single one outside
  refine ⟨fun hactive => ?_, fun hactive hvalid => ?_, fun hactive hvalid => ?_⟩
  · obtain ⟨hlower, hupper⟩ := hmeans.seenMean_between hcells hextent.symm hplace
    refine ⟨_, congrArg some (View.blockValue_ofCells hactive _ voxel), hlower, hupper, ?_⟩
    rintro rfl
    exact le_antisymm hupper hlower
  · obtain ⟨x, hx, hbounds⟩ := hmeans.seen_between hcells hextent.symm hplace hvalid
    refine ⟨x, congrArg some ?_, hbounds⟩
    rw [View.blockValue_eq_seen (v := v.ofCells cells) hactive, View.valid_ofCells, View.target_ofCells, if_pos hvalid,
      hx]
  · rw [View.blockValue_eq_seen (v := v.ofCells cells) hactive, View.valid_ofCells, View.target_ofCells, hvalid]
    rfl

end Resliced

/-- **One of the two samples** of a voxel as long as two is inside a single one. -/
theorem View.validCount_long {v : View Exact} (hspatial : v.sampler.extent.spatial = triple 1 1 1)
    (hmapping : v.mapping = affine (resizing ![2, 1, 1])) (hplan : v.plan = pairPlan) :
    v.validCount [0, 0, 0] = 1 := by
  have hfactors : ∀ i, v.plan.factors.get i = ![2, 1, 1] i := by
    rw [hplan]
    decide
  have hposition : ∀ step, v.samplePosition [0, 0, 0] step = centre (blockVoxel ![2, 1, 1] step (triple 0 0 0)) := by
    intro step
    have hreal : (![2, 1, 1] : Fin 3 → ℝ) = fun i => ((![2, 1, 1] : Fin 3 → ℕ) i : ℝ) := by
      funext i
      fin_cases i <;> simp
    have hpoint : (View.point [0, 0, 0] : Point Exact) = centre (triple 0 0 0) := point_append (triple 0 0 0) []
    rw [samplePosition, hmapping, hpoint, hreal, apply_resizing_offset hfactors]
  have hfirst : v.sampler.valid (v.samplePosition [0, 0, 0] ![0, 0, 0]) = true := by
    rw [hposition]
    refine Sampler.valid_centre (Shape.inside_iff_get.2 ?_)
    rw [hspatial]
    decide
  have hsecond : v.sampler.valid (v.samplePosition [0, 0, 0] ![1, 0, 0]) = false := by
    refine Bool.eq_false_of_not_eq_true fun h => ?_
    rw [hposition, centre, Sampler.valid_point] at h
    have hlast := (h 0).2
    rw [hspatial] at hlast
    norm_num [blockVoxel, triple, Vector.get] at hlast
  have hsteps : blockSteps v.plan.factors.get = [![0, 0, 0], ![1, 0, 0]] := by
    rw [hplan]
    rfl
  rw [validCount_eq, hsteps]
  simp [hfirst, hsecond]

/-- **A constant voxel** seen from one that is twice as long: half of the samples are outside, so half of it is left. -/
theorem resliceArray_between_long :
    let cells : Tensor Exact := Tensor.build [1, 1, 1] fun _ => finite 3
    let o : ReslicingOptions Exact := ⟨.null, .number (.int 1),
      .list [.number (.int 2), .number (.int 1), .number (.int 1)], .null, .null, true⟩
    ∃ t : Tensor Exact,
      resliceArray ⟨.real .double, cells⟩ View.unitGrid (some View.longGrid) o = .ok ⟨.real .double, t⟩ ∧
      t.get? [0, 0, 0] = some (finite (3 / 2)) := by
  intro cells o
  have hcells : cells.Between 3 3 := Tensor.forall_mem_build fun _ _ => ⟨3, rfl, le_rfl, le_rfl⟩
  have horder : Kernel.ofLiteral (.number (.int 1) : Literal Exact) = .ok .linear := by
    simp [Kernel.ofLiteral, Kernel.ofDegree?, Number.toScalar]
  obtain ⟨v, hview, hextent, hspatial, hmapping, hplan⟩ := @View.exists_longView cells rfl o _ rfl rfl horder
  have hroom : (Shape.reserve v.extent.toShape : Except (Fault Exact) Unit) = .ok () := by
    rw [hextent]
    rfl
  obtain ⟨t, ht, -, hvalues⟩ := resliceArray_between (by decide) hcells horder (by simp) (.inl rfl) rfl hview hroom
  have hinside : v.extent.toShape.Inside [0, 0, 0] := by
    rw [hextent]
    exact .cons Nat.one_pos (.cons Nat.one_pos (.cons Nat.one_pos .nil))
  obtain ⟨x, hx, -, -, hconstant⟩ := (hvalues [0, 0, 0] hinside).1 (by rw [hplan]; rfl)
  refine ⟨t, ht, hx.trans ?_⟩
  have hcount : v.validCount [0, 0, 0] = 1 := View.validCount_long hspatial hmapping hplan
  have htwo : v.plan.count = 2 := by rw [hplan]; rfl
  rw [hconstant rfl, hcount, htwo]
  norm_num

end Regrid
