import Mathlib
import Regrid.Proofs.BlockMean
/-!
# Evaluation — the array of a view

On volumes of double precision a cursor and the blocks give the same array (`View.copy_eq_resample`).  On volumes of
other types the outcomes agree exactly if the view does not depend on the way it is evaluated
(`resliceArray_agrees_iff`).
-/
namespace Regrid

namespace View

open Walk

/-- **A volume of double precision evaluated in exact arithmetic.**  Wherever the cursor stands, the walk over the
voxels and the walk over the blocks give the same array, each voxel of which is what a cursor reads there, and both
leave the cursor at the first voxel.  Without room for the array both fail. -/
theorem copy_eq_resample [Capacity] [LinearSolver Exact] {cells : Tensor Exact} (hpositive : ∀ n ∈ cells.shape, 0 < n)
    {inputGrid reference : Option (Grid Exact)} {transform oversample order : Literal Exact} {fallback : Option Exact}
    {v : View Exact} (hv : ofVolume ⟨.real .double, cells⟩ inputGrid reference transform oversample order
      (fallback.map fun x => .number (.real x)) = .ok v) {c : Cursor Exact} (hc : c.axes = v.extent.axes) :
    ((Shape.reserve v.extent.toShape : Except (Fault Exact) Unit) = .ok () → ∃ t : Tensor Exact,
      t.shape = v.reference.extent.spatial.toList ++ cells.shape.drop 3 ∧
      perform (v.copy .null) c = (.ok ⟨.real .double, t⟩, v.start) ∧
      perform (v.resample .null) c = (.ok ⟨.real .double, t⟩, v.start) ∧
      ∀ voxel, t.shape.Inside voxel → ∃ x, t.get? voxel = some x ∧ v.readAt voxel = .ok x) ∧
    ∀ f, (Shape.reserve v.extent.toShape : Except (Fault Exact) Unit) = .error f →
      (perform (v.copy .null) c).1 = .error f ∧ ∃ g, (perform (v.resample .null) c).1 = .error g := by
  obtain ⟨hvolume, hfallback⟩ := sampler_of_ofVolume hv
  obtain ⟨-, hshape⟩ := toShape_of_ofVolume hv
  have hreal : ∀ l, (fallback.map fun x => (Literal.number (.real x) : Literal Exact)) = some l →
      ∃ x, l = .number (.real x) := by
    intro l hl
    obtain ⟨x, -, rfl⟩ := Option.map_eq_some_iff.1 hl
    exact ⟨x, rfl⟩
  constructor
  · intro hroom
    have hsound : v.Sound := by
      refine sound_of_ofVolume ?_ (fun x _ => Dtype.stored_double (α := Exact) x) ?_ ?_ hv hroom
      · exact Dtype.isNumeric_double
      · exact hpositive
      · intro l hl
        obtain ⟨x, rfl⟩ := hreal l hl
        exact ⟨_, rfl⟩
    obtain ⟨x, hevaluate, hread⟩ := hsound.evaluate_of_double (by rw [hvolume]) (by rw [hfallback]; exact hreal)
    obtain ⟨hcopy, hresample⟩ := hevaluate c hc
    refine ⟨_, hshape, perform_store_null hcopy, perform_store_null hresample, fun voxel h => ?_⟩
    exact ⟨x voxel, Tensor.get?_build h x, hread voxel h⟩
  · intro f hroom
    obtain ⟨g, hg⟩ := resampleReals_of_noRoom hroom c
    refine ⟨?_, g, ?_⟩
    · rw [copy, perform_store, copyReals_of_noRoom hroom, error_bind]
    · rw [resample, perform_store, hg, error_bind]

/-- **Two voxels that are not finite**, averaged in one output voxel. -/
theorem copy_eq_resample_of_two_voxels : ∃ (reference : Grid Exact) (v : View Exact) (t : Tensor Exact),
    ofVolume ⟨.real .double, Tensor.build [2, 1, 1] fun _ => .nan⟩
      (some ⟨⟨triple 2 1 1, []⟩, [1, 1, 1], Exact.affine 1⟩) (some reference) .null .null
      (.number (.int 0)) none = .ok v ∧ t.shape = [1, 1, 1] ∧
    perform (v.copy .null) v.start = (.ok ⟨.real .double, t⟩, v.start) ∧
    perform (v.resample .null) v.start = (.ok ⟨.real .double, t⟩, v.start) := by
  have hcells : (Tensor.build [2, 1, 1] fun _ => Exact.nan).shape = Extent.toShape ⟨triple 2 1 1, []⟩ := rfl
  have horder : Kernel.ofLiteral (.number (.int 0) : Literal Exact) = .ok .nearest := by
    simp [Kernel.ofLiteral, Kernel.ofDegree?, Number.toScalar]
  obtain ⟨v, hv, hreference, hextent, -⟩ := exists_resizing [1, 1, 1] [1, 1, 1] hcells rfl (f := ![2, 1, 1])
    (A := 1) (by decide) (by simp) horder (by decide)
  have hshape : v.extent.toShape = [1, 1, 1] := by
    rw [extent, hreference, hextent]
    rfl
  have hdefault : (none : Option (Literal Exact)) = (none : Option Exact).map fun x => .number (.real x) := rfl
  obtain ⟨t, ht, hcopy, hresample, -⟩ := (copy_eq_resample (by decide) (hdefault ▸ hv) v.start_axes).1
    (by rw [hshape]; rfl)
  refine ⟨_, v, t, hv, ht.trans ?_, hcopy, hresample⟩
  rw [hreference]
  rfl

end View

namespace ReslicingOptions

variable {α : Type} [Scalar α] [LinearSolver α] [Capacity] {x : Volume α} {input : Grid α} {reference : Option (Grid α)}
  {o : ReslicingOptions α} {v : View α}

/-- **The view of an array of numbers is sound** if there is room for it. -/
theorem sound_of_view (hnumeric : x.dtype.IsNumeric) (hstored : ∀ y ∈ x.cells.toList, x.dtype.Stored y)
    (hinput : ∀ n ∈ input.shape, 0 < n) (hfallback : ∀ l, o.fallback.given? = some l → ∃ n, l = .number n)
    (hroom : ∀ r, reference = some r →
      (Shape.reserve (r.extent.spatial.toList ++ x.shape.drop 3) : Except (Fault α) Unit) = .ok ())
    (hv : o.view x input reference = .ok v) : v.Sound := by
  unfold view at hv
  obtain ⟨hr, hshape⟩ := View.toShape_of_ofVolume hv
  have hpositive : ∀ n ∈ x.shape, 0 < n := by
    obtain ⟨g, _, _, hg, -, hsampler, -⟩ := View.ofVolume_eq_ok.1 hv
    obtain ⟨_, _, -, hgrid, -, -⟩ := Sampler.make_eq_ok.1 hsampler
    cases hg
    rw [← hgrid input rfl]
    exact hinput
  exact View.sound_of_ofVolume hnumeric hstored hpositive hfallback hv (hshape ▸ hroom _ hr)

omit [LinearSolver α] in
theorem evaluate_eq (o : ReslicingOptions α) (v : View α) :
    o.evaluate v = v.values o.vectorize >>= fun t => View.store t o.dtype := by
  rw [View.values, ← View.perform_store]
  unfold evaluate
  cases o.vectorize <;> rfl

end ReslicingOptions

/-- **Reslicing an array one voxel at a time or at once.**  The outcomes agree for every type of the output if the view
does not depend on the way it is evaluated, and only then if no type is asked for. -/
theorem resliceArray_agrees_iff [Capacity] {α : Type} [Scalar α] [Scalar.Lawful α] [LinearSolver α] {x : Volume α}
    {input : Grid α} {reference : Option (Grid α)} {o : ReslicingOptions α} (hnumeric : x.dtype.IsNumeric)
    (hstored : ∀ y ∈ x.cells.toList, x.dtype.Stored y) (hinput : ∀ n ∈ input.shape, 0 < n)
    (hfallback : ∀ l, o.fallback.given? = some l → ∃ n, l = .number n)
    (hroom : ∀ r, reference = some r →
      (Shape.reserve (r.extent.spatial.toList ++ x.shape.drop 3) : Except (Fault α) Unit) = .ok ()) :
    ((∀ v, o.view x input reference = .ok v → v.Consistent) →
      Agree (resliceArray x input reference { o with vectorize := false })
        (resliceArray x input reference { o with vectorize := true })) ∧
    (o.dtype = .null →
      Agree (resliceArray x input reference { o with vectorize := false })
        (resliceArray x input reference { o with vectorize := true }) →
      ∀ v, o.view x input reference = .ok v → v.Consistent) := by
  have hrun : ∀ vectorize, resliceArray x input reference { o with vectorize } =
      o.view x input reference >>= fun v => (Walk.perform (if vectorize then v.resampleReals else v.copyReals)
        v.start).1 >>= fun t => View.store t o.dtype := fun vectorize =>
    bind_congr fun v => ReslicingOptions.evaluate_eq { o with vectorize } v
  rw [hrun false, hrun true]
  cases hview : o.view x input reference with
  | error f => exact ⟨fun _ => rfl, fun _ _ _ h => by cases h⟩
  | ok v =>
    have hagree := (o.sound_of_view hnumeric hstored hinput hfallback hroom hview).agree_iff v.start_axes
    constructor
    · intro h
      exact (hagree.2 (h v rfl)).bind _
    · intro hdtype h w hw
      cases hw
      rw [hdtype] at h
      -- without a type that is asked for the array is stored as it is, which keeps arrays apart
      have hinj : Function.Injective fun t : Tensor α => (⟨.real .double, t⟩ : Volume α) := fun t u htu => by
        cases htu; rfl
      exact hagree.1 (Agree.of_bind hinj h)

section Rows

open Exact RealMatrix

/-- **A row of voxels** of size one. -/
noncomputable def rowGrid (n : ℕ) : Grid Exact := ⟨⟨triple n 1 1, []⟩, [1, 1, 1], affine 1⟩

/-- **A row of voxels** each of which covers two voxels of size one. -/
noncomputable def pairGrid (n : ℕ) : Grid Exact :=
  ⟨⟨triple n 1 1, []⟩, [2, 1, 1], affine (resizing fun i => ((![2, 1, 1] : Fin 3 → ℕ) i : ℝ))⟩

/-- **The plan that takes two samples** along the first axis. -/
def pairPlan : OversamplingPlan := ⟨triple 2 1 1, by decide⟩

/-- **Two samples per voxel**, with a fallback if one is given. -/
def pairOptions (fallback : Literal Exact) : ReslicingOptions Exact :=
  ⟨.null, .number (.int 0), .list [.number (.int 2), .number (.int 1), .number (.int 1)], fallback, .null, true⟩

/-- **The view of a row** that averages its voxels in pairs. -/
noncomputable def pairView (x : Volume Exact) (n m : ℕ) (fallback : Literal Exact) : View Exact :=
  ⟨⟨x, ⟨triple n 1 1, []⟩, .nearest, fallback.given?, some (rowGrid n), .text ""⟩, pairGrid m,
    affine (resizing fun i => ((![2, 1, 1] : Fin 3 → ℕ) i : ℝ)), pairPlan⟩

theorem view_pairOptions {n : ℕ} {x : Volume Exact} (hshape : x.shape = [n, 1, 1]) (m : ℕ) (fallback : Literal Exact) :
    (pairOptions fallback).view x (rowGrid n) (some (pairGrid m)) = .ok (pairView x n m fallback) := by
  have horder : Kernel.ofLiteral (.number (.int 0) : Literal Exact) = .ok .nearest := by
    simp [Kernel.ofLiteral, Kernel.ofDegree?, Number.toScalar]
  have hproduct : (1 : RealMatrix 4 4) * resizing (fun i => ((![2, 1, 1] : Fin 3 → ℕ) i : ℝ)) =
      1 * resizing fun i => ((![2, 1, 1] : Fin 3 → ℕ) i : ℝ) := rfl
  exact View.ofVolume_affine hshape.symm rfl (by simp) rfl ofLiteral_null hproduct horder rfl
    (OversamplingPlan.ofRequest_factors pairPlan) fun _ => rfl

/-- **Half precision keeps no half of an odd number** beyond a thousand. -/
theorem narrow_half_ne (x : Exact) : Scalar.narrow .half x ≠ finite (2049 / 2) := by
  intro h
  cases x with
  | finite x =>
    obtain ⟨n, hn⟩ | hle := (isMember_of_nearest (by decide) h).eq_intCast_or_le
    · have hodd : (2 * n : ℤ) = 2049 := by
        exact_mod_cast (by rw [← hn]; ring : (2 * n : ℝ) = 2049)
      omega
    · norm_num [Binary.format, abs_of_pos] at hle
  | infinity | nan => cases h

/-- **The cells of a row of half precision**, which does not keep the sum of the first two. -/
noncomputable def halfCell (i : ℕ) : Exact := finite ((if i = 0 then 1 else 2048 : ℤ) : ℝ)

noncomputable def halfRow : Volume Exact :=
  ⟨.real .half, Tensor.build [2, 1, 1] fun index => halfCell ((index[0]?).getD 0)⟩

theorem stored_halfRow : ∀ y ∈ halfRow.cells.toList, halfRow.dtype.Stored y := by
  refine Tensor.forall_mem_build fun index _ => Dtype.stored_real.2 (nearest_intCast (by decide) (by decide) ?_ ?_) <;>
    split <;> norm_num [Binary.format]

/-- **In double precision** the first two cells of the row have this average. -/
theorem mean_halfRow : View.mean .double (pairView halfRow 2 1 .null).plan.normalization
    ((pairView halfRow 2 1 .null).samples [] [0, 0, 0]) = finite (2049 / 2) := by
  have hsteps : blockSteps ![2, 1, 1] = [![0, 0, 0], ![1, 0, 0]] := rfl
  have horigin : Shape.Inside (triple 1 1 1).toList (triple 0 0 0).toList :=
    .cons one_pos (.cons one_pos (.cons one_pos .nil))
  have hcell : ∀ step : Fin 3 → ℕ, (∀ i, step i < (![2, 1, 1] : Fin 3 → ℕ) i) → ∃ x,
      halfRow.cell? ((blockVoxel ![2, 1, 1] step (triple 0 0 0)).toList ++ []) = some x ∧
      halfRow.dtype.scalar x = halfCell (step 0) ∧ Scalar.isFinite (halfCell (step 0)) = true := by
    intro step hstep
    have hinside : Shape.Inside (triple 2 1 1).toList (blockVoxel ![2, 1, 1] step (triple 0 0 0)).toList :=
      inside_blockVoxel (by decide) hstep horigin
    have hfirst : (((blockVoxel ![2, 1, 1] step (triple 0 0 0)).toList ++ [])[0]?).getD 0 = step 0 := by
      simp [blockVoxel, triple]
    exact ⟨_, Tensor.get?_build (hinside.append .nil) _, congrArg halfCell hfirst, rfl⟩
  have hsound : (pairView halfRow 2 1 .null).sampler.Sound :=
    ⟨rfl, by decide, by simp [pairView, halfRow, Dtype.IsNumeric], stored_halfRow, fun l hl => by cases hl⟩
  have hsamples : (pairView halfRow 2 1 .null).samples [] ((triple 0 0 0).toList ++ []) =
      (blockSteps ![2, 1, 1]).map fun step => halfCell (step 0) :=
    View.samples_block hsound (by simp [pairView]) rfl (by decide) (by decide) horigin .nil hcell
  have hvalue : ((1 + 2048) * 2⁻¹ : ℝ) = 2049 / 2 := by norm_num
  rw [show ([0, 0, 0] : List ℕ) = (triple 0 0 0).toList ++ [] from rfl, hsamples, hsteps, View.mean, View.sum,
    OversamplingPlan.normalization_eq]
  simpa [pairView, halfCell, pairPlan, triple, Vector.get] using hvalue

/-- **Rows of voxels averaged in pairs** come out alike in both ways if they are bytes and the fallback is a byte.  Rows
of half precision do not, since a cursor rounds the sum of 1 and 2048. -/
theorem resliceArray_agrees_of_rows :
    let bytes : Volume Exact :=
      ⟨.int .uint8, Tensor.build [3, 1, 1] fun index => IntType.uint8.wrap ((100 * (index[0]?).getD 0 : ℕ) : ℤ)⟩
    let run (x : Volume Exact) (n m : ℕ) (fallback : Literal Exact) (vectorize : Bool) :=
      resliceArray x (rowGrid n) (some (pairGrid m)) { pairOptions fallback with vectorize }
    Agree (run bytes 3 2 (.number (.int 7)) false) (run bytes 3 2 (.number (.int 7)) true) ∧
      ¬Agree (run halfRow 2 1 .null false) (run halfRow 2 1 .null true) := by
  intro bytes run
  constructor
  · refine (resliceArray_agrees_iff (x := bytes) (o := pairOptions (.number (.int 7))) trivial
      (fun y _ => Dtype.stored_int _ y) (by decide) (fun l hl => ⟨_, (Option.some.inj hl).symm⟩) ?_).1 fun v hv => ?_
    · rintro r ⟨⟩
      rfl
    · rw [view_pairOptions rfl] at hv
      cases hv
      exact View.consistent_of_outside rfl rfl rfl
  · intro hagree
    have hconsistent := (resliceArray_agrees_iff (x := halfRow) (o := pairOptions .null)
      (by simp [halfRow, Dtype.IsNumeric]) stored_halfRow (by decide) (fun l hl => by cases hl)
      (by rintro r ⟨⟩; rfl)).2 rfl hagree _ (view_pairOptions rfl 1 .null)
    have hmean := hconsistent.averages rfl [0, 0, 0] (.cons one_pos (.cons one_pos (.cons one_pos .nil)))
    exact narrow_half_ne _ (hmean.trans mean_halfRow)

end Rows

end Regrid
