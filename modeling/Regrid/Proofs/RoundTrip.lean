import Mathlib
import Regrid.Proofs.Resizers
import Regrid.Proofs.Written
/-!
# RoundTrip — downsampling undoes upsampling

Upsampling by whole factors with the nearest kernel repeats each voxel in a block: no centre of an output voxel is as
far from one voxel as from another.  Downsampling by the same factors makes as many voxels as there were, each of which
is the mean of a block of equal voxels.
-/
namespace Regrid

open Exact RealMatrix

/-- **The block that a voxel lies in**; the blocks have the given sizes. -/
def blockOf (f : Fin 3 → ℕ) (voxel : Vector Nat 3) : Vector Nat 3 := Vector.ofFn fun i => voxel.get i / f i

section Blocks

variable {f step : Fin 3 → ℕ} {n voxel : Vector Nat 3}

theorem blockOf_blockVoxel (hstep : ∀ i, step i < f i) : blockOf f (blockVoxel f step voxel) = voxel := by
  ext i hi
  have hlt := hstep ⟨i, hi⟩
  simp only [blockOf, blockVoxel, Vector.getElem_ofFn, Vector.get_ofFn]
  rw [Nat.mul_add_div (Nat.zero_lt_of_lt hlt), Nat.div_eq_of_lt hlt]
  rfl

theorem inside_blockOf (h : Shape.Inside (Vector.ofFn fun i => f i * n.get i).toList voxel.toList) :
    Shape.Inside n.toList (blockOf f voxel).toList := by
  refine Shape.inside_iff_get.2 fun i => ?_
  have hlt := Shape.inside_iff_get.1 h i
  rw [Vector.get_ofFn] at hlt
  rw [blockOf, Vector.get_ofFn]
  exact Nat.div_lt_of_lt_mul hlt

/-- **The centre of a smaller voxel** is nearest to that of the voxel it lies in: it is at an odd multiple of half the
smaller size from the edge. -/
theorem floor_act_resizing (hf : ∀ i, 1 ≤ f i) (i : Fin 3) :
    ⌊(resizing fun i => 1 / (f i : ℝ)).act (fun i => (voxel.get i : ℝ)) i + 1 / 2⌋ = ((blockOf f voxel).get i : ℤ) := by
  have hpos : (0 : ℝ) < f i := Nat.cast_pos.2 (hf i)
  have hsplit : (f i : ℝ) * (voxel.get i / f i : ℕ) + (voxel.get i % f i : ℕ) = voxel.get i := by
    exact_mod_cast Nat.div_add_mod (voxel.get i) (f i)
  have hrest : ((voxel.get i % f i : ℕ) : ℝ) + 1 ≤ f i := by exact_mod_cast Nat.mod_lt _ (hf i)
  have hnonneg : (0 : ℝ) ≤ (voxel.get i % f i : ℕ) := Nat.cast_nonneg _
  have hposition : (resizing fun i => 1 / (f i : ℝ)).act (fun i => (voxel.get i : ℝ)) i + 1 / 2 =
      (voxel.get i / f i : ℕ) + (2 * (voxel.get i % f i : ℕ) + 1) / (2 * f i) := by
    rw [act_resizing, ← hsplit]
    field_simp
    ring
  have hlow : (0 : ℝ) ≤ (2 * (voxel.get i % f i : ℕ) + 1) / (2 * f i) := by positivity
  have hhigh : (2 * (voxel.get i % f i : ℕ) + 1) / (2 * f i) < (1 : ℝ) := by
    rw [div_lt_one (by positivity)]
    linarith
  rw [hposition, Int.floor_natCast_add, Int.floor_eq_zero_iff.2 ⟨hlow, hhigh⟩, Int.add_zero, blockOf, Vector.get_ofFn]

end Blocks

theorem Sampler.valid_of_floor {s : Sampler Exact} {voxel : Vector Nat 3} {x : Fin 3 → ℝ}
    (h : Shape.Inside s.extent.spatial.toList voxel.toList) (hx : ∀ i, ⌊x i + 1 / 2⌋ = (voxel.get i : ℤ)) :
    s.valid (point x) = true := by
  refine valid_point.2 fun i => ?_
  obtain ⟨hlow, hhigh⟩ := Int.floor_eq_iff.1 (hx i)
  have hlt : (voxel.get i : ℝ) + 1 ≤ s.extent.spatial.get i := by exact_mod_cast Shape.inside_iff_get.1 h i
  have hnonneg : (0 : ℝ) ≤ voxel.get i := Nat.cast_nonneg _
  push_cast at hlow hhigh
  constructor <;> linarith

namespace View.Shows

variable [Capacity] {v : View Exact} {cells : Tensor Exact} {e : Extent} {kernel : Kernel} {f : Fin 3 → ℕ}
  {m voxel : Vector Nat 3} {place : List Nat}

/-- **A view of smaller voxels** shows the voxel that each of them lies in. -/
theorem blockValue_upsampled (hv : v.Shows cells e .nearest (resizing fun i => 1 / (f i : ℝ)) m) (hf : ∀ i, 1 ≤ f i)
    (hactive : v.plan.active = false)
    (hvoxel : Shape.Inside (Vector.ofFn fun i => f i * e.spatial.get i).toList voxel.toList)
    (hplace : Shape.Inside e.series place) (fallback : Exact) :
    some (v.blockValue fallback place (voxel.toList ++ place)) = cells.get? ((blockOf f voxel).toList ++ place) := by
  have hextent := hv.extent
  subst hextent
  let x : Fin 3 → ℝ := (resizing fun i => 1 / (f i : ℝ)).act fun i => (voxel.get i : ℝ)
  have htarget : v.target (voxel.toList ++ place) = Exact.point x := by
    rw [target_append, hv.mapping, centre, apply_affine]
  have hnearest : ∀ i, ⌊x i + 1 / 2⌋ = ((blockOf f voxel).get i : ℤ) := floor_act_resizing hf
  have hinside := inside_blockOf hvoxel
  obtain ⟨y, hy, hestimate⟩ := hv.sound.sampler.estimate_nearest_double hv.volume hv.nearest hinside hplace
    (Kernel.nearestVoxel?_point hinside hnearest)
  have hvalue : v.blockValue fallback place (voxel.toList ++ place) = y := by
    rw [blockValue_of_inactive hactive, htarget, if_pos (Sampler.valid_of_floor hinside hnearest)]
    exact hestimate
  rw [hvalue]
  exact hy.symm

/-- **A view of larger voxels** shows the number that all voxels of a block are. -/
theorem blockValue_constant (hv : v.Shows cells e kernel (resizing fun i => (f i : ℝ)) m) (hkernel : kernel ≠ .cubic)
    (hfactors : ∀ i, v.plan.factors.get i = f i) (hfit : ∀ i, f i * m.get i ≤ e.spatial.get i)
    (hvoxel : Shape.Inside m.toList voxel.toList) (hplace : Shape.Inside e.series place) {x : ℝ}
    (hblock : ∀ step : Fin 3 → ℕ, (∀ i, step i < f i) →
      cells.get? ((blockVoxel f step voxel).toList ++ place) = some (finite x)) (fallback : Exact) :
    v.blockValue fallback place (voxel.toList ++ place) = finite x := by
  have hextent := hv.extent
  subst hextent
  have hsample : ∀ step : Fin 3 → ℕ, (∀ i, step i < f i) →
      v.sampler.valid (v.samplePosition (voxel.toList ++ place) step) = true ∧
        v.sampler.estimate place (v.samplePosition (voxel.toList ++ place) step) = finite x := by
    intro step hstep
    have hinside := inside_blockVoxel hfit hstep hvoxel
    have hposition : v.samplePosition (voxel.toList ++ place) step = centre (blockVoxel f step voxel) := by
      rw [samplePosition, point_append, hv.mapping, apply_resizing_offset hfactors]
    obtain ⟨y, hy, hestimate⟩ := hv.sound.sampler.estimate_centre_double hv.volume (hv.not_cubic hkernel) hinside hplace
    rw [hblock step hstep] at hy
    rw [hposition, hestimate, ← Option.some.inj hy]
    exact ⟨Sampler.valid_centre hinside, rfl⟩
  have hget : v.plan.factors.get = f := funext hfactors
  have hpositive : ∀ i, 1 ≤ f i := fun i => hfactors i ▸ v.plan.positive i
  by_cases hactive : v.plan.active = true
  · rw [blockValue_of_active hactive, hget]
    refine congrArg finite (blockMean_const hpositive fun step hstep => ?_)
    obtain ⟨hvalid, hestimate⟩ := hsample step hstep
    rw [seen, if_pos hvalid, hestimate]
  · have hinactive : v.plan.active = false := Bool.eq_false_of_not_eq_true hactive
    obtain ⟨hvalid, hestimate⟩ := hsample (fun _ => 0) hpositive
    rw [samplePosition_zero hinactive] at hvalid hestimate
    rw [blockValue_of_inactive hinactive, if_pos hvalid, hestimate]

end View.Shows

/-- **The options of a resizing by factors** that leave all others as they are by default. -/
def ToolOptions.byFactor (factor order : Literal Exact) : ToolOptions Exact := { ToolOptions.none with factor, order }

namespace Tool

section Factors

variable [LinearSolver Exact] [LinearSolver.Accurate] [Capacity] {tool : Tool} {cells : Tensor Exact} {e : Extent}
  {factor order order' : Literal Exact} {kernel : Kernel} {plan : OversamplingPlan}

/-- **A resizing of an array by factors** gives the values of a view of it. -/
theorem exists_byFactor (htool : tool = resize ∨ tool = upsample ∨ tool = downsample) (hcells : cells.shape = e.toShape)
    (hpositive : ∀ n ∈ e.toShape, 0 < n) {f : Fin 3 → ℝ} {m : Vector Nat 3}
    (hfactor : Placement.factorsOfRequest tool factor = .ok (point f)) (hf : ∀ i, 0 < f i ∧ f i ≤ e.spatial.get i)
    (hm : ∀ i, ⌊e.spatial.get i / f i⌋₊ = m.get i)
    (horder : Kernel.ofLiteral (order.orElse (.number (.int 1))) = .ok kernel)
    (hplan : OversamplingPlan.plan (affine (resizing f)) .null = .ok plan)
    (hlattice : plan.active = true → (Shape.reserveLattice plan.factors.toList : Except (Fault Exact) Unit) = .ok ())
    (hroom : (Shape.reserve (m.toList ++ e.series) : Except (Fault Exact) Unit) = .ok ()) (w : Workspace Exact) :
    ∃ (v : View Exact) (t : Tensor Exact), v.Shows cells e kernel (resizing f) m ∧ v.plan = plan ∧
      (Task.perform (tool.run .none (.byFactor factor order) (.array ⟨.real .double, cells⟩)) w).1 =
        .ok (.array ⟨.real .double, t⟩) ∧
      t.shape = m.toList ++ e.series ∧
      ∀ (voxel : Vector Nat 3) (place : List Nat), Shape.Inside m.toList voxel.toList → Shape.Inside e.series place →
        t.get? (voxel.toList ++ place) = some (v.blockValue .nan place (voxel.toList ++ place)) := by
  obtain rfl : (Vector.ofFn fun i => ⌊e.spatial.get i / f i⌋₊) = m := by
    ext i hi
    simpa [Vector.get] using hm ⟨i, hi⟩
  obtain ⟨t, horientation⟩ := exists_orientation (o := .byFactor factor order) rfl ⟨.real .double, cells⟩
  exact Resizes.exists_view hcells hpositive ⟨rfl, .inl rfl, rfl, rfl⟩ (.byFactor htool rfl hfactor hf)
    (det_translation_ne_zero t) (stepLength_translation_pos t) horientation rfl horder hplan hlattice hroom w

theorem exists_upsample {f : Fin 3 → ℕ} (hcells : cells.shape = e.toShape) (hpositive : ∀ n ∈ e.toShape, 0 < n)
    (hf : ∀ i, 1 ≤ f i) (hfactor : Placement.factorsOfRequest .upsample factor = .ok (point fun i => 1 / (f i : ℝ)))
    (horder : Kernel.ofLiteral (order.orElse (.number (.int 1))) = .ok .nearest)
    (hroom : (Shape.reserve ((Vector.ofFn fun i => f i * e.spatial.get i).toList ++ e.series) :
      Except (Fault Exact) Unit) = .ok ()) (w : Workspace Exact) :
    ∃ t : Tensor Exact,
      (Task.perform (upsample.run .none (.byFactor factor order) (.array ⟨.real .double, cells⟩)) w).1 =
        .ok (.array ⟨.real .double, t⟩) ∧
      t.shape = (Vector.ofFn fun i => f i * e.spatial.get i).toList ++ e.series ∧
      ∀ (voxel : Vector Nat 3) (place : List Nat),
        Shape.Inside (Vector.ofFn fun i => f i * e.spatial.get i).toList voxel.toList → Shape.Inside e.series place →
        t.get? (voxel.toList ++ place) = cells.get? ((blockOf f voxel).toList ++ place) := by
  have hreal : ∀ i, (1 : ℝ) ≤ f i := fun i => Nat.one_le_cast.2 (hf i)
  have hspatial : ∀ i, (1 : ℝ) ≤ e.spatial.get i := fun i =>
    Nat.one_le_cast.2 (forall_mem_toList.1 (List.forall_mem_append.1 hpositive).1 i)
  have hless : ∀ i, 1 / (f i : ℝ) ≤ 1 := fun i => (div_le_one (zero_lt_one.trans_le (hreal i))).2 (hreal i)
  have hpos : ∀ i, 0 < 1 / (f i : ℝ) := fun i => one_div_pos.2 (zero_lt_one.trans_le (hreal i))
  -- a step is not longer than a voxel, so that one sample is taken
  have hcount : ∀ i, (resizing fun i => 1 / (f i : ℝ)).sampleCount i = 1 := by
    intro i
    refine sampleCount_of_stepLength_le_one ?_
    rw [stepLength_resizing fun i => (hpos i).le]
    exact hless i
  obtain ⟨plan, hplan, hactive⟩ : ∃ plan, OversamplingPlan.plan (affine (resizing fun i => 1 / (f i : ℝ))) .null =
      .ok plan ∧ plan.active = false := OversamplingPlan.exists_inactive hcount (.inl rfl)
  have hsizes : ∀ i, ⌊e.spatial.get i / (1 / (f i : ℝ))⌋₊ = (Vector.ofFn fun i => f i * e.spatial.get i).get i := by
    intro i
    rw [Vector.get_ofFn, div_div_eq_mul_div, div_one, ← Nat.cast_mul, Nat.floor_natCast, Nat.mul_comm]
  obtain ⟨v, t, hv, rfl, hrun, hshape, hvalues⟩ := exists_byFactor (.inr (.inl rfl)) hcells hpositive hfactor
    (fun i => ⟨hpos i, (hless i).trans (hspatial i)⟩) hsizes horder hplan (fun h => by rw [hactive] at h; cases h)
    hroom w
  refine ⟨t, hrun, hshape, fun voxel place hvoxel hplace => ?_⟩
  rw [hvalues voxel place hvoxel hplace, hv.blockValue_upsampled hf hactive hvoxel hplace]

theorem exists_downsample {f : Fin 3 → ℕ} {n : Vector Nat 3} (hn : ∀ i, 0 < n.get i)
    (hspatial : e.spatial = Vector.ofFn fun i => f i * n.get i) (hseries : ∀ k ∈ e.series, 0 < k)
    (hcells : cells.shape = e.toShape) (hf : ∀ i, 1 ≤ f i ∧ f i ≤ 999)
    (hfactor : Placement.factorsOfRequest .downsample factor = .ok (point fun i => (f i : ℝ)))
    (horder : Kernel.ofLiteral (order.orElse (.number (.int 1))) = .ok kernel) (hkernel : kernel ≠ .cubic)
    (hroom : (Shape.reserve e.toShape : Except (Fault Exact) Unit) = .ok ()) (w : Workspace Exact) :
    ∃ t : Tensor Exact,
      (Task.perform (downsample.run .none (.byFactor factor order) (.array ⟨.real .double, cells⟩)) w).1 =
        .ok (.array ⟨.real .double, t⟩) ∧
      t.shape = n.toList ++ e.series ∧
      ∀ (voxel : Vector Nat 3) (place : List Nat) (x : ℝ), Shape.Inside n.toList voxel.toList →
        Shape.Inside e.series place → (∀ step : Fin 3 → ℕ, (∀ i, step i < f i) →
          cells.get? ((blockVoxel f step voxel).toList ++ place) = some (finite x)) →
        t.get? (voxel.toList ++ place) = some (finite x) := by
  have hget : ∀ i, e.spatial.get i = f i * n.get i := fun i => by rw [hspatial, Vector.get_ofFn]
  have hpos : ∀ i, (0 : ℝ) < f i := fun i => Nat.cast_pos.2 (hf i).1
  have hfits : ∀ i, (f i : ℝ) ≤ e.spatial.get i := by
    intro i
    rw [hget i]
    exact Nat.cast_le.2 (Nat.le_mul_of_pos_right _ (hn i))
  have hpositive : ∀ k ∈ e.toShape, 0 < k := by
    refine List.forall_mem_append.2 ⟨forall_mem_toList.2 fun i => ?_, hseries⟩
    rw [hget i]
    exact Nat.mul_pos (hf i).1 (hn i)
  obtain ⟨plan, hplan, hcount⟩ := OversamplingPlan.plan_null (resizing fun i => (f i : ℝ))
  have hfactors : ∀ i, plan.factors.get i = f i := by
    intro i
    have hi := hcount i
    rw [sampleCount_resizing (fun i => (hf i).1) i (hf i).2] at hi
    exact_mod_cast hi
  have hproduct : (Shape.reserve ((Vector.ofFn fun i => plan.factors.get i * n.get i).toList ++ e.series) :
      Except (Fault Exact) Unit) = .ok () := by
    simp only [hfactors]
    rw [← hspatial]
    exact hroom
  obtain ⟨hsmall, hlattice⟩ := Shape.reserve_of_mul hn plan.positive hseries hproduct
  have hsizes : ∀ i, ⌊e.spatial.get i / (f i : ℝ)⌋₊ = n.get i := by
    intro i
    rw [hget i, Nat.floor_div_eq_div, Nat.mul_div_cancel_left _ (hf i).1]
  obtain ⟨v, t, hv, rfl, hrun, hshape, hvalues⟩ := exists_byFactor (.inr (.inr rfl)) hcells hpositive hfactor
    (fun i => ⟨hpos i, hfits i⟩) hsizes horder hplan (fun _ => Shape.reserveLattice_eq_ok hlattice) hsmall w
  refine ⟨t, hrun, hshape, fun voxel place x hvoxel hplace hblock => ?_⟩
  rw [hvalues voxel place hvoxel hplace,
    hv.blockValue_constant hkernel hfactors (fun i => (hget i).ge) hvoxel hplace hblock]

/-- **Downsampling undoes upsampling.**  An array of double precision without empty axes, whose cells are all finite, is
upsampled with the nearest kernel by whole factors below a thousand; there is room for the larger array.  Downsampling
it by the same factors, with the nearest or the linear kernel, gives the first array back. -/
theorem downsample_upsample {f : Fin 3 → ℕ} (hcells : cells.shape = e.toShape) (hpositive : ∀ n ∈ e.toShape, 0 < n)
    (hfinite : ∀ x ∈ cells.toList, Scalar.isFinite x = true) (hf : ∀ i, 1 ≤ f i ∧ f i ≤ 999)
    (hup : Placement.factorsOfRequest .upsample factor = .ok (point fun i => 1 / (f i : ℝ)))
    (hdown : Placement.factorsOfRequest .downsample factor = .ok (point fun i => (f i : ℝ)))
    (horder : Kernel.ofLiteral (order.orElse (.number (.int 1))) = .ok .nearest)
    (horder' : Kernel.ofLiteral (order'.orElse (.number (.int 1))) = .ok kernel) (hkernel : kernel ≠ .cubic)
    (hroom : (Shape.reserve ((Vector.ofFn fun i => f i * e.spatial.get i).toList ++ e.series) :
      Except (Fault Exact) Unit) = .ok ()) (w w' : Workspace Exact) :
    ∃ t : Tensor Exact,
      (Task.perform (upsample.run .none (.byFactor factor order) (.array ⟨.real .double, cells⟩)) w).1 =
        .ok (.array ⟨.real .double, t⟩) ∧
      (Task.perform (downsample.run .none (.byFactor factor order') (.array ⟨.real .double, t⟩)) w').1 =
        .ok (.array ⟨.real .double, cells⟩) := by
  let larger : Extent := ⟨Vector.ofFn fun i => f i * e.spatial.get i, e.series⟩
  have hspatial : ∀ i, 0 < e.spatial.get i := forall_mem_toList.1 (List.forall_mem_append.1 hpositive).1
  obtain ⟨t, hrun, hshape, hvalues⟩ := exists_upsample hcells hpositive (fun i => (hf i).1) hup horder hroom w
  obtain ⟨u, hrun', hshape', hvalues'⟩ := exists_downsample (e := larger) hspatial rfl
    (List.forall_mem_append.1 hpositive).2 hshape hf hdown horder' hkernel hroom w'
  refine ⟨t, hrun, ?_⟩
  have hsame : u = cells := by
    refine Tensor.ext_get? (hshape'.trans hcells.symm) fun index hindex => ?_
    rw [hshape'] at hindex
    obtain ⟨voxel, place, rfl, hvoxel, hplace⟩ := Extent.exists_voxel (e := e) hindex
    have hinside : cells.shape.Inside (voxel.toList ++ place) := hcells.symm ▸ hvoxel.append hplace
    obtain ⟨y, hy, hread⟩ := Tensor.exists_get? hinside
    obtain ⟨x, rfl⟩ := exists_finite (hfinite y hy)
    rw [hread]
    refine hvalues' voxel place x hvoxel hplace fun step hstep => ?_
    have hinside : Shape.Inside larger.spatial.toList (blockVoxel f step voxel).toList :=
      inside_blockVoxel (fun i => by rw [Vector.get_ofFn]) hstep hvoxel
    rw [hvalues _ place hinside hplace, blockOf_blockVoxel hstep, hread]
  rw [hrun', hsame]

end Factors

/-- **Two voxels made six times as many**, and two again: the last factor is repeated. -/
theorem downsample_upsample_two_voxels :
    let cells : Tensor Exact := Tensor.build [2, 1, 1] fun index => if index = [0, 0, 0] then finite 3 else finite 5
    let factor : Literal Exact := .list [.number (.int 3), .number (.int 2)]
    ∃ t : Tensor Exact,
      (Task.perform (upsample.run .none (.byFactor factor (.number (.int 0))) (.array ⟨.real .double, cells⟩))
        (Workspace.ofFiles [])).1 = .ok (.array ⟨.real .double, t⟩) ∧
      (Task.perform (downsample.run .none (.byFactor factor .null) (.array ⟨.real .double, t⟩))
        (Workspace.ofFiles [])).1 = .ok (.array ⟨.real .double, cells⟩) := by
  intro cells factor
  let f : Fin 3 → ℕ := ![3, 2, 2]
  have hpad : factor.pad 3 none = .ok [.number (.int (f 0)), .number (.int (f 1)), .number (.int (f 2))] := rfl
  have hup := Placement.factorsOfRequest_of_pad (l := factor) rfl hpad fun i =>
    Placement.factorOf_upsample (n := f i) (by revert i; decide)
  have hdown := Placement.factorsOfRequest_of_pad (l := factor) rfl hpad fun i =>
    Placement.factorOf_natCast (show downsample ≠ upsample by decide) (f i)
  have horder : Kernel.ofLiteral ((.number (.int 0) : Literal Exact).orElse (.number (.int 1))) = .ok .nearest := by
    simp [Literal.orElse, Literal.isGiven, Kernel.ofLiteral, Kernel.ofDegree?, Number.toScalar]
  have horder' : Kernel.ofLiteral ((.null : Literal Exact).orElse (.number (.int 1))) = .ok .linear := by
    simp [Literal.orElse, Literal.isGiven, Kernel.ofLiteral, Kernel.ofDegree?, Number.toScalar]
  have hcells : cells.shape = Extent.toShape ⟨triple 2 1 1, []⟩ := rfl
  have hfinite : ∀ x ∈ cells.toList, Scalar.isFinite x = true :=
    Tensor.forall_mem_build fun index _ => by split <;> rfl
  exact downsample_upsample hcells (by decide) hfinite (by decide) hup hdown horder horder' (by decide) rfl _ _

/-- **An array with an empty axis** is refused. -/
theorem upsample_refuses :
    (Task.perform (upsample.run .none (.byFactor (.list [.number (.int 2), .number (.int 1), .number (.int 1)])
      (.number (.int 0))) (.array ⟨.real .double, Tensor.build [1, 1, 1, 0] fun _ => 0⟩)) (Workspace.ofFiles [])).1 =
        .error (.gridSizes [1, 1, 1, 0]) := by
  let factor : Literal Exact := .list [.number (.int 2), .number (.int 1), .number (.int 1)]
  let o : ToolOptions Exact := .byFactor factor (.number (.int 0))
  let x : Volume Exact := ⟨.real .double, Tensor.build [1, 1, 1, 0] fun _ => 0⟩
  let f : Fin 3 → ℕ := ![2, 1, 1]
  have hfactors : Placement.factorsOfRequest .upsample o.factor = .ok (point fun i => 1 / (f i : ℝ)) :=
    Placement.factorsOfRequest_of_pad (n := f) rfl rfl fun i => Placement.factorOf_upsample (by revert i; decide)
  have hfits : ∀ i, 0 < 1 / (f i : ℝ) ∧ 1 / (f i : ℝ) ≤ (triple 1 1 1 : Vector Nat 3).get i := by
    have hone : ∀ i, 1 ≤ f i ∧ (triple 1 1 1 : Vector Nat 3).get i = 1 := by decide
    intro i
    have hreal : (1 : ℝ) ≤ f i := Nat.one_le_cast.2 (hone i).1
    rw [(hone i).2, Nat.cast_one]
    exact ⟨one_div_pos.2 (by linarith), (div_le_one (by linarith)).2 hreal⟩
  have hresizes : upsample.Resizes o (Info.ofArray x) (triple 1 1 1) (fun i => 1 / (f i : ℝ)) _ :=
    .byFactor (.inr (.inl rfl)) rfl hfactors hfits
  have hopens := Input.opens_array_of_le (x := x) (by decide) (Workspace.ofFiles []).files
  have hgrid : Task.perform (upsample.inputGrid x (Info.ofArray x) o.inputAffine) (Workspace.ofFiles []) =
      (.error (.gridSizes [1, 1, 1, 0]), Workspace.ofFiles []) := rfl
  have hplacement := hresizes.ofResizing rfl rfl
  rw [← ToolOptions.orElse_none o] at hplacement
  have hrun : Task.perform (upsample.run .none o (.array x)) (Workspace.ofFiles []) =
      (.error (.gridSizes [1, 1, 1, 0]), Workspace.ofFiles []) := by
    rw [perform_run_resizing (by decide) (by decide) hopens.inspect hplacement, perform_resliceTo_of_opens hopens rfl]
    exact Task.perform_bind_error hgrid _
  exact congrArg Prod.fst hrun

end Tool

end Regrid
