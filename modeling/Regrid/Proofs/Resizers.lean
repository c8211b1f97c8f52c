import Mathlib
import Regrid.Proofs.Arrays
/-!
# Resizers — tools that scale voxels

All tools for resizing find factors between voxel sizes and output sizes (`Tool.Resizes`).  From there on they do the
same: they reslice onto the grid whose voxels are scaled about the outer corner of the first one.
-/
namespace Regrid

open Exact RealMatrix

namespace Placement

/-- **The factors that take a shape to another** are the quotients of the sizes. -/
theorem factorsBetween_natCast {shape : Shape} {n m : Vector Nat 3} (hshape : shape.take 3 = n.toList)
    (hm : ∀ i, 0 < m.get i) :
    factorsBetween shape (m.toList.map Int.ofNat) = .ok (point fun i => (n.get i / m.get i : ℝ)) := by
  have hpairs : (m.toList.map Int.ofNat).zip shape = (List.finRange 3).map fun i => ((m.get i : ℤ), n.get i) := by
    clear hm
    obtain ⟨⟨spatial⟩, hspatial⟩ := n
    obtain ⟨⟨sizes⟩, hsizes⟩ := m
    match spatial, hspatial, sizes, hsizes, shape, hshape with
    | [x, y, z], _, [a, b, c], _, _ :: _ :: _ :: _, rfl => rfl
  have hquotient : ∀ i : Fin 3, quotient? (Scalar.ofInt (n.get i)) (Scalar.ofInt (m.get i : ℤ)) =
      (Except.ok (finite (n.get i / m.get i)) : Except (Fault Exact) Exact) := by
    intro i
    have hne : (m.get i : ℝ) ≠ 0 := Nat.cast_ne_zero.2 (hm i).ne'
    unfold quotient?
    simp [hne, finite_div _ hne]
  have hquotients : ((m.toList.map Int.ofNat).zip shape).mapM (fun p =>
      quotient? (Scalar.ofInt p.2) (Scalar.ofInt p.1) : ℤ × ℕ → Except (Fault Exact) Exact) =
        .ok ((List.finRange 3).map fun i => finite (n.get i / m.get i)) := by
    rw [hpairs, List.mapM_map]
    exact Tensor.list_mapM_eq_pure fun i _ => hquotient i
  unfold factorsBetween
  rw [hquotients]
  rfl

/-- **A tool for a factor** makes as many voxels as fit, if no shape is asked for. -/
theorem ofResizing_byFactor {α : Type} [Scalar α] {tool : Tool} {o : ToolOptions α} {info : Info α}
    {factor : Vector α 3} {sizes : List Int} (htool : tool = .resize ∨ tool = .upsample ∨ tool = .downsample)
    (hshape : o.outputShape = .null) (hfactors : factorsOfRequest tool o.factor = .ok factor)
    (hsizes : fittingSizes info.shape factor = .ok sizes) (hscalable : checkScalable o.inputAffine = .ok ()) :
    ofResizing tool o info = .ok (ofFactor factor fun _ => .ok sizes) := by
  have hplacement : ofResizing tool o info = (do
      let factor ← factorsOfRequest tool o.factor
      checkScalable o.inputAffine
      return ofFactor factor (← resizedSizes o.outputShape info.shape factor)) := by
    rcases htool with rfl | rfl | rfl <;> rfl
  rw [hplacement, hfactors, ok_bind, hscalable, ok_bind, hshape, resizedSizes]
  simp only [Literal.isGiven, Bool.false_eq_true, if_false, hsizes]
  rfl

theorem transform_ofFactor (f : Fin 3 → ℝ) (A : RealMatrix 4 4) (sizes : Shape → Except (Fault Exact) (List Int)) :
    (ofFactor (point f) sizes).transform (affine A) = .ok (affine (A * resizing f)) := by
  change Except.ok ((affine A).compose (resizingTransform (point f))) = _
  rw [resizingTransform_point, compose_affine]

end Placement

/-- **A tool resizes** a volume of which this is known, and whose spatial sizes these are, by factors between voxel
sizes to output sizes.  A tool for a shape takes any sizes, which have to be positive; the others take factors that do
not exceed the sizes of the volume, and make as many voxels as fit. -/
inductive Tool.Resizes (o : ToolOptions Exact) (info : Info Exact) (n : Vector Nat 3) :
    Tool → (Fin 3 → ℝ) → Vector Nat 3 → Prop
  | toShape {m : Vector Nat 3} (hsizes : Placement.sizesOfRequest o.outputShape = .ok (m.toList.map Int.ofNat))
      (hm : ∀ i, 0 < m.get i) : Resizes o info n resizeShape (fun i => n.get i / m.get i) m
  | toVoxelSize {f : Fin 3 → ℝ} (hshape : o.outputShape = .null)
      (hfactors : Placement.factorsToVoxelSize (columnLengths info.affine) o.voxelSize = .ok (point f))
      (hf : ∀ i, 0 < f i ∧ f i ≤ n.get i) :
      Resizes o info n resizeVoxel f (Vector.ofFn fun i => ⌊n.get i / f i⌋₊)
  | byFactor {tool : Tool} {f : Fin 3 → ℝ} (htool : tool = resize ∨ tool = upsample ∨ tool = downsample)
      (hshape : o.outputShape = .null) (hfactors : Placement.factorsOfRequest tool o.factor = .ok (point f))
      (hf : ∀ i, 0 < f i ∧ f i ≤ n.get i) : Resizes o info n tool f (Vector.ofFn fun i => ⌊n.get i / f i⌋₊)

namespace Tool.Resizes

variable {o : ToolOptions Exact} {info : Info Exact} {n m : Vector Nat 3} {tool : Tool} {f : Fin 3 → ℝ}

/-- **The placement of a resizing** scales voxels by its factors, and has its sizes. -/
theorem ofResizing (h : tool.Resizes o info n f m) (hinfo : info.shape.take 3 = n.toList)
    (hscalable : Placement.checkScalable o.inputAffine = .ok ()) : Placement.ofResizing tool o info =
      .ok (Placement.ofFactor (point f) fun _ => .ok (m.toList.map Int.ofNat)) := by
  cases h with
  | toShape hsizes hm =>
    have hgiven : o.outputShape.isGiven = true := by
      cases hshape : o.outputShape with
      | null =>
        rw [hshape] at hsizes
        cases hsizes
      | number | text | list | record => rfl
    simp only [Placement.ofResizing, hgiven, Bool.not_true, Bool.false_eq_true, if_false]
    rw [hsizes, ok_bind, Placement.factorsBetween_natCast hinfo hm, ok_bind, hscalable]
    rfl
  | toVoxelSize hshape hfactors hf =>
    have hgiven : o.voxelSize.isGiven = true := by
      cases hsize : o.voxelSize with
      | null =>
        rw [hsize] at hfactors
        cases hfactors
      | number | text | list | record => rfl
    simp only [Placement.ofResizing, hgiven, Bool.not_true, Bool.false_eq_true, if_false]
    rw [hfactors, ok_bind, hscalable, ok_bind, hshape, Placement.resizedSizes]
    simp only [Literal.isGiven, Bool.false_eq_true, if_false, Placement.fittingSizes_point hinfo hf]
    rfl
  | byFactor htool hshape hfactors hf =>
    exact Placement.ofResizing_byFactor htool hshape hfactors (Placement.fittingSizes_point hinfo hf) hscalable

theorem not_reslice (h : tool.Resizes o info n f m) : tool ≠ reslice ∧ tool ≠ like := by
  cases h with
  | toShape | toVoxelSize => decide
  | byFactor htool => rcases htool with rfl | rfl | rfl <;> decide

theorem fits_of_floor {f : Fin 3 → ℝ} (hf : ∀ i, 0 < f i ∧ f i ≤ n.get i) (i : Fin 3) :
    0 < f i ∧ 0 < (Vector.ofFn fun i => ⌊n.get i / f i⌋₊).get i ∧
      f i * (Vector.ofFn fun i => ⌊n.get i / f i⌋₊).get i ≤ n.get i := by
  obtain ⟨hpos, hle⟩ := hf i
  have hfloor : (⌊n.get i / f i⌋₊ : ℝ) ≤ n.get i / f i := Nat.floor_le (div_nonneg (Nat.cast_nonneg _) hpos.le)
  rw [Vector.get_ofFn]
  refine ⟨hpos, Nat.floor_pos.2 ((one_le_div hpos).2 hle), ?_⟩
  calc f i * ⌊n.get i / f i⌋₊ ≤ f i * (n.get i / f i) := mul_le_mul_of_nonneg_left hfloor hpos.le
    _ = n.get i := mul_div_cancel₀ _ hpos.ne'

/-- **The output voxels fit** into the volume. -/
theorem fits (h : tool.Resizes o info n f m) (hn : ∀ i, 0 < n.get i) (i : Fin 3) :
    0 < f i ∧ 0 < m.get i ∧ f i * m.get i ≤ n.get i := by
  cases h with
  | toShape hsizes hm =>
    have hmi : (0 : ℝ) < m.get i := Nat.cast_pos.2 (hm i)
    exact ⟨div_pos (Nat.cast_pos.2 (hn i)) hmi, hm i, (div_mul_cancel₀ _ hmi.ne').le⟩
  | toVoxelSize hshape hfactors hf => exact fits_of_floor hf i
  | byFactor htool hshape hfactors hf => exact fits_of_floor hf i

theorem fits_exactly (h : resizeShape.Resizes o info n f m) (i : Fin 3) : f i * m.get i = n.get i := by
  cases h with
  | toShape hsizes hm => exact div_mul_cancel₀ _ (Nat.cast_ne_zero.2 (hm i).ne')
  | byFactor htool => rcases htool with h | h | h <;> cases h

end Tool.Resizes

namespace Tool

section Run

variable [LinearSolver Exact] [Capacity] {tool : Tool} {making use o : ToolOptions Exact} {x : Input Exact}
  {w : Workspace Exact} {info : Info Exact} {cells : Volume Exact} {e : Extent} {A : RealMatrix 4 4} {f : Fin 3 → ℝ}
  {m : Vector Nat 3}

/-- **A placement by factors** comes to reslicing a volume with an orientation onto the scaled grid, whose voxel sizes
are those of the orientation times the factors. -/
theorem exists_perform_run_ofFactor (hreslice : tool ≠ reslice) (hlike : tool ≠ like)
    (hopens : x.Opens w.files info cells) (hcells : cells.shape = e.toShape) (hpositive : ∀ n ∈ e.toShape, 0 < n)
    {sizes : Shape → Except (Fault Exact) (List Int)}
    (hplacement : Placement.ofResizing tool (use.orElse making) info = .ok (Placement.ofFactor (point f) sizes))
    (hsizes : sizes cells.shape = .ok (m.toList.map Int.ofNat)) (hm : ∀ i, 0 < m.get i) (hf : ∀ i, 0 < f i)
    (hlengths : ∀ i, 0 < A.stepLength i) (horientation : orientation (use.orElse making) info = .ok (affine A))
    (hsurplus : (use.orElse making).surplus = false) : ∃ spacing,
      Task.perform (tool.run making use x) w = Task.perform (tool.finish (use.orElse making) x info cells
        ⟨e, spacing, affine A⟩
        ⟨⟨m, []⟩, (point fun i => f i * A.stepLength i).toList, affine (A * resizing f)⟩) w := by
  have hscaled : ∀ i, stepLength (A * resizing f) i = f i * A.stepLength i :=
    stepLength_mul_resizing A fun i => (hf i).le
  obtain ⟨spacing, hinput⟩ := Grid.make_affine hpositive hlengths
  have hreference := Grid.make_lengths hm (a := A * resizing f) fun i => hscaled i ▸ mul_pos (hf i) (hlengths i)
  rw [show stepLength (A * resizing f) = fun i => f i * A.stepLength i from funext hscaled] at hreference
  rw [← hcells] at hinput
  have hzooms : tool.readsZooms = false := by
    cases tool <;> first | rfl | contradiction
  refine ⟨spacing, ?_⟩
  rw [perform_run_resizing hreslice hlike hopens.inspect hplacement]
  exact perform_resliceTo hopens hsurplus (perform_inputGrid (by simp [hzooms]) horientation hinput w) hsizes
    (Placement.transform_ofFactor f A _) hreference

/-- **A tool that resizes** comes to reslicing a volume with an orientation onto the scaled grid. -/
theorem Resizes.exists_perform_run (hmade : use.orElse making = o) (hopens : x.Opens w.files info cells)
    (hcells : cells.shape = e.toShape) (hpositive : ∀ n ∈ e.toShape, 0 < n)
    (hresizes : tool.Resizes o info e.spatial f m) (hlengths : ∀ i, 0 < A.stepLength i)
    (horientation : orientation o info = .ok (affine A)) (hscalable : Placement.checkScalable o.inputAffine = .ok ())
    (hsurplus : o.surplus = false) : ∃ spacing spacing',
      Task.perform (tool.run making use x) w = Task.perform (tool.finish o x info cells
        ⟨e, spacing, affine A⟩ ⟨⟨m, []⟩, spacing', affine (A * resizing f)⟩) w := by
  subst hmade
  have hspatial : ∀ i, 0 < e.spatial.get i := forall_mem_toList.1 (List.forall_mem_append.1 hpositive).1
  have hfits := hresizes.fits hspatial
  obtain ⟨hreslice, hlike⟩ := hresizes.not_reslice
  have hplacement := hresizes.ofResizing (hopens.spatial hcells) hscalable
  obtain ⟨spacing, hrun⟩ := exists_perform_run_ofFactor hreslice hlike hopens hcells hpositive hplacement rfl
    (fun i => (hfits i).2.1) (fun i => (hfits i).1) hlengths horientation hsurplus
  exact ⟨spacing, _, hrun⟩

end Run

section Arrays

variable [LinearSolver Exact] [LinearSolver.Accurate] [Capacity] {tool : Tool} {o : ToolOptions Exact}
  {cells : Tensor Exact} {e : Extent} {A : RealMatrix 4 4} {f : Fin 3 → ℝ} {m : Vector Nat 3} {kernel : Kernel}
  {plan : OversamplingPlan}

/-- **A tool that resizes an array** gives the values of a view of it. -/
theorem Resizes.exists_view (hcells : cells.shape = e.toShape) (hpositive : ∀ n ∈ e.toShape, 0 < n) (ho : o.Plain)
    (hresizes : tool.Resizes o (Info.ofArray ⟨.real .double, cells⟩) e.spatial f m) (hdet : A.det ≠ 0)
    (hlengths : ∀ i, 0 < A.stepLength i)
    (horientation : orientation o (Info.ofArray ⟨.real .double, cells⟩) = .ok (affine A))
    (hscalable : Placement.checkScalable o.inputAffine = .ok ())
    (horder : Kernel.ofLiteral (o.order.orElse (.number (.int 1))) = .ok kernel)
    (hplan : OversamplingPlan.plan (affine (resizing f)) o.oversample = .ok plan)
    (hlattice : plan.active = true → (Shape.reserveLattice plan.factors.toList : Except (Fault Exact) Unit) = .ok ())
    (hroom : (Shape.reserve (m.toList ++ e.series) : Except (Fault Exact) Unit) = .ok ()) (w : Workspace Exact) :
    ∃ (v : View Exact) (t : Tensor Exact), v.Shows cells e kernel (resizing f) m ∧ v.plan = plan ∧
      (Task.perform (tool.run .none o (.array ⟨.real .double, cells⟩)) w).1 = .ok (.array ⟨.real .double, t⟩) ∧
      t.shape = m.toList ++ e.series ∧
      ∀ (voxel : Vector Nat 3) (place : List Nat), Shape.Inside m.toList voxel.toList → Shape.Inside e.series place →
        t.get? (voxel.toList ++ place) = some (v.blockValue o.fallback.outsideValue place (voxel.toList ++ place)) := by
  have haxes : 3 ≤ (⟨.real .double, cells⟩ : Volume Exact).shape.length := by
    rw [show (⟨.real .double, cells⟩ : Volume Exact).shape = e.toShape from hcells, Extent.length_toShape]
    exact Nat.le_add_right 3 _
  obtain ⟨spacing, spacing', hrun⟩ := Resizes.exists_perform_run (ToolOptions.orElse_none o)
    (Input.opens_array_of_le haxes w.files) hcells hpositive hresizes hlengths horientation hscalable ho.surplus
  rw [hrun]
  exact exists_perform_finish tool cells ⟨e, spacing, affine A⟩ ⟨⟨m, []⟩, spacing', affine (A * resizing f)⟩ ho hcells
    hpositive rfl rfl hdet rfl horder hplan hlattice hroom w

end Arrays

end Tool

end Regrid
