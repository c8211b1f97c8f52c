import Mathlib
import Regrid.Proofs.Arrays
import Regrid.Proofs.Values
import Regrid.Proofs.Written
/-!
# Rearranging — flips, permutations and shifts of the axes

Reslicing onto a grid whose axes are those of the volume in another order or direction, from a shifted start, moves
voxels and changes none of them: the estimate is taken at the centre of a voxel, where it is the voxel itself, even one
that is not finite.
-/
namespace Regrid

open Exact RealMatrix

/-- **A rearrangement of the axes**: a coordinate in the volume is one in the output, in the same direction or the
opposite one, and shifted. -/
structure Rearrangement where
  axis : Equiv.Perm (Fin 3)
  sign : Fin 3 → ℤˣ
  shift : Fin 3 → ℤ

namespace Rearrangement

variable (r : Rearrangement)

/-- **The voxel of the volume** that is shown at a voxel of the output. -/
def image (voxel : Fin 3 → ℤ) : Fin 3 → ℤ := fun i => r.sign i * voxel (r.axis i) + r.shift i

/-- **A permutation matrix with signs.** -/
def linear : RealMatrix 3 3 := Matrix.of fun i j => if j = r.axis i then ((r.sign i : ℤ) : ℝ) else 0

/-- **The matrix of a rearrangement**, whose translations are whole. -/
def matrix : RealMatrix 4 4 := parts r.linear fun i => r.shift i

/-- **The way back.** -/
def inverse : Rearrangement :=
  { axis := r.axis.symm
    sign := fun i => r.sign (r.axis.symm i)
    shift := fun i => -(r.sign (r.axis.symm i) * r.shift (r.axis.symm i)) }

theorem sign_mul_self (i : Fin 3) : (r.sign i : ℤ) * r.sign i = 1 := by
  rw [← Units.val_mul, Int.units_mul_self, Units.val_one]

theorem inverse_image (voxel : Fin 3 → ℤ) : r.inverse.image (r.image voxel) = voxel := by
  funext i
  have hsign := r.sign_mul_self (r.axis.symm i)
  simp only [image, inverse, Equiv.apply_symm_apply]
  linear_combination voxel i * hsign

theorem isAffine_matrix : r.matrix.IsAffine := isAffine_parts _ _

theorem act_matrix (x : Fin 3 → ℝ) (i : Fin 3) : r.matrix.act x i = r.sign i * x (r.axis i) + r.shift i := by
  rw [matrix, act_parts]
  simp [linear]

/-- **A voxel is taken to a voxel.** -/
theorem act_matrix_intCast (voxel : Fin 3 → ℤ) :
    r.matrix.act (fun i => (voxel i : ℝ)) = fun i => (r.image voxel i : ℝ) := by
  funext i
  rw [act_matrix, image]
  push_cast
  rfl

theorem matrix_mul_inverse : r.matrix * r.inverse.matrix = 1 := by
  refine (r.isAffine_matrix.mul r.inverse.isAffine_matrix).eq_of_act isAffine_one fun x => funext fun i => ?_
  have hsign : ((r.sign i : ℤ) : ℝ) * ((r.sign i : ℤ) : ℝ) = 1 := by exact_mod_cast r.sign_mul_self i
  rw [act_mul r.inverse.isAffine_matrix, act_matrix, act_matrix, act_one]
  simp only [inverse, Equiv.symm_apply_apply]
  push_cast
  linear_combination (x i - r.shift i) * hsign

theorem det_matrix_ne_zero : r.matrix.det ≠ 0 := by
  refine (isUnit_iff_ne_zero.1 (IsUnit.of_mul_eq_one r.inverse.matrix.det ?_))
  rw [← Matrix.det_mul, matrix_mul_inverse, Matrix.det_one]

theorem mul_matrix (a : RealMatrix 4 4) (i : Fin 4) (j : Fin 3) :
    (a * r.matrix) i j.castSucc = a i (r.axis.symm j).castSucc * r.sign (r.axis.symm j) := by
  have hlast : r.matrix (Fin.last 3) j.castSucc = 0 :=
    (r.isAffine_matrix _).trans (if_neg (Fin.castSucc_lt_last j).ne)
  have hentry : ∀ k : Fin 3, r.matrix k.castSucc j.castSucc =
      if k = r.axis.symm j then ((r.sign k : ℤ) : ℝ) else 0 := by
    intro k
    rw [matrix, parts_castSucc, linear, Matrix.of_apply]
    exact if_congr (eq_comm.trans r.axis.eq_symm_apply.symm) rfl rfl
  rw [Matrix.mul_apply, Fin.sum_univ_castSucc, hlast]
  simp only [hentry]
  simp

/-- **The steps along the axes keep their lengths.** -/
theorem stepLength_mul_matrix (a : RealMatrix 4 4) (j : Fin 3) :
    stepLength (a * r.matrix) j = a.stepLength (r.axis.symm j) := by
  have hsign : ((r.sign (r.axis.symm j) : ℤ) : ℝ) ^ 2 = 1 := by
    rw [pow_two]
    exact_mod_cast r.sign_mul_self _
  simp only [stepLength, mul_matrix, mul_pow, hsign, mul_one]

theorem sampleCount_matrix (j : Fin 3) : r.matrix.sampleCount j = 1 := by
  have hone : (1 : RealMatrix 4 4).stepLength (r.axis.symm j) = 1 := by
    simp [stepLength, Matrix.one_apply]
  have hlength : r.matrix.stepLength j = 1 := by
    rw [← one_mul r.matrix, stepLength_mul_matrix, hone]
  exact sampleCount_of_stepLength_le_one hlength.le

/-- **The voxel that is shown**, if it is one of a lattice of these sizes. -/
def source? (n voxel : Vector Nat 3) : Option (Vector Nat 3) :=
  let image := r.image fun i => voxel.get i
  if ∀ i, 0 ≤ image i ∧ image i < n.get i then some (Vector.ofFn fun i => (image i).toNat) else none

/-- **Every voxel in its place.** -/
def identity : Rearrangement := ⟨1, 1, 0⟩

theorem matrix_identity : identity.matrix = 1 := by
  refine identity.isAffine_matrix.eq_of_act isAffine_one fun x => funext fun i => ?_
  rw [act_matrix, act_one]
  simp [identity]

variable {r} {n voxel source : Vector Nat 3}

theorem source?_eq_some : r.source? n voxel = some source ↔
    Shape.Inside n.toList source.toList ∧ (r.image fun i => voxel.get i) = fun i => (source.get i : ℤ) := by
  constructor
  · intro h
    simp only [source?] at h
    split at h
    · next hinside =>
      cases h
      have htoNat : ∀ i, ((r.image (fun i => voxel.get i) i).toNat : ℤ) = r.image (fun i => voxel.get i) i := fun i =>
        Int.toNat_of_nonneg (hinside i).1
      refine ⟨Shape.inside_iff_get.2 fun i => ?_, funext fun i => ?_⟩
      · rw [Vector.get_ofFn]
        have hlt := (hinside i).2
        rw [← htoNat i] at hlt
        exact_mod_cast hlt
      · rw [Vector.get_ofFn, htoNat]
    · cases h
  · rintro ⟨hinside, himage⟩
    have hall : ∀ i, 0 ≤ r.image (fun i => voxel.get i) i ∧ r.image (fun i => voxel.get i) i < n.get i := by
      intro i
      rw [congrFun himage i]
      exact ⟨Int.natCast_nonneg _, Int.ofNat_lt.2 (Shape.inside_iff_get.1 hinside i)⟩
    rw [source?, if_pos hall, himage]
    refine congrArg some (Vector.ext fun i hi => ?_)
    simp [Vector.get]

theorem identity_source? (h : Shape.Inside n.toList voxel.toList) : identity.source? n voxel = some voxel := by
  rw [source?_eq_some]
  refine ⟨h, funext fun i => ?_⟩
  simp [image, identity]

/-- **A voxel that is shown is found again** on the way back. -/
theorem inverse_source? {m : Vector Nat 3} (hvoxel : Shape.Inside m.toList voxel.toList)
    (h : (r.image fun i => voxel.get i) = fun i => (source.get i : ℤ)) : r.inverse.source? m source = some voxel := by
  rw [source?_eq_some, ← h, inverse_image]
  exact ⟨hvoxel, rfl⟩

end Rearrangement

/-- **The rearranged array**: on a lattice of these sizes, each cell is the one that is shown there, if there is one. -/
structure Rearrangement.Makes (r : Rearrangement) (e : Extent) (cells : Tensor Exact) (m : Vector Nat 3)
    (fallback : Exact) (t : Tensor Exact) : Prop where
  shape : t.shape = m.toList ++ e.series
  get? (voxel : Vector Nat 3) (place : List Nat) (hvoxel : Shape.Inside m.toList voxel.toList)
    (hplace : Shape.Inside e.series place) : t.get? (voxel.toList ++ place) =
      (r.source? e.spatial voxel).elim (some fallback) fun source => cells.get? (source.toList ++ place)

namespace Rearrangement.Makes

variable {r : Rearrangement} {e : Extent} {cells t u : Tensor Exact} {m : Vector Nat 3} {fallback fallback' : Exact}

theorem eq_of_identity (h : identity.Makes e cells e.spatial fallback t) (hcells : cells.shape = e.toShape) :
    t = cells := by
  refine Tensor.ext_get? (h.shape.trans hcells.symm) fun index hindex => ?_
  rw [h.shape] at hindex
  obtain ⟨voxel, place, rfl, hvoxel, hplace⟩ := Extent.exists_voxel (e := e) hindex
  rw [h.get? voxel place hvoxel hplace, identity_source? hvoxel]
  rfl

/-- **The way back** gives the array if every voxel of it is shown. -/
theorem eq_of_inverse (h : r.Makes e cells m fallback t) (h' : r.inverse.Makes ⟨m, e.series⟩ t e.spatial fallback' u)
    (hcells : cells.shape = e.toShape)
    (honto : ∀ source : Vector Nat 3, Shape.Inside e.spatial.toList source.toList →
      ∃ voxel : Vector Nat 3, Shape.Inside m.toList voxel.toList ∧ r.source? e.spatial voxel = some source) :
    u = cells := by
  refine Tensor.ext_get? (h'.shape.trans hcells.symm) fun index hindex => ?_
  rw [h'.shape] at hindex
  obtain ⟨source, place, rfl, hsource, hplace⟩ := Extent.exists_voxel (e := e) hindex
  obtain ⟨voxel, hvoxel, hfound⟩ := honto source hsource
  have himage := (source?_eq_some.1 hfound).2
  rw [h'.get? source place hsource hplace, inverse_source? hvoxel himage]
  exact (h.get? voxel place hvoxel hplace).trans (by rw [hfound]; rfl)

end Rearrangement.Makes

/-- **A position with whole coordinates** is inside the field of view if it is the centre of a voxel. -/
theorem Sampler.valid_intCast {s : Sampler Exact} {k : Fin 3 → ℤ} : s.valid (point fun i => (k i : ℝ)) = true ↔
    ∀ i, 0 ≤ k i ∧ k i < s.extent.spatial.get i := by
  rw [valid_point]
  refine forall_congr' fun i => ⟨fun ⟨hlow, hhigh⟩ => ?_, fun ⟨hlow, hhigh⟩ => ?_⟩
  · have hlow' : (-1 : ℝ) < k i := by linarith
    have hhigh' : (k i : ℝ) < s.extent.spatial.get i := by linarith
    exact ⟨by exact_mod_cast hlow', by exact_mod_cast hhigh'⟩
  · have hlow' : (0 : ℝ) ≤ k i := by exact_mod_cast hlow
    have hhigh' : (k i : ℝ) + 1 ≤ s.extent.spatial.get i := by exact_mod_cast hhigh
    constructor <;> linarith

/-- **A view that rearranges axes** shows voxels as they are. -/
theorem View.Shows.blockValue_rearranged [Capacity] {v : View Exact} {cells : Tensor Exact} {e : Extent}
    {kernel : Kernel} {r : Rearrangement} {m : Vector Nat 3} (hv : v.Shows cells e kernel r.matrix m)
    (hkernel : kernel ≠ .cubic) (hactive : v.plan.active = false) (fallback : Exact) (voxel : Vector Nat 3)
    {place : List Nat} (hplace : Shape.Inside e.series place) :
    some (v.blockValue fallback place (voxel.toList ++ place)) =
      (r.source? e.spatial voxel).elim (some fallback) fun source => cells.get? (source.toList ++ place) := by
  have hextent := hv.extent
  subst hextent
  have htarget : v.target (voxel.toList ++ place) =
      Exact.point fun i => (r.image (fun i => (voxel.get i : ℤ)) i : ℝ) := by
    rw [target_append, hv.mapping, centre, apply_affine, ← r.act_matrix_intCast]
    rfl
  rw [blockValue_of_inactive hactive, htarget]
  cases hfound : r.source? v.sampler.extent.spatial voxel with
  | none =>
    have hinvalid : ¬v.sampler.valid (Exact.point fun i => (r.image (fun i => (voxel.get i : ℤ)) i : ℝ)) = true := by
      rw [Sampler.valid_intCast]
      intro hinside
      rw [Rearrangement.source?, if_pos hinside] at hfound
      cases hfound
    rw [if_neg hinvalid]
    rfl
  | some source =>
    obtain ⟨hinside, himage⟩ := Rearrangement.source?_eq_some.1 hfound
    have hcentre : (Exact.point fun i => (r.image (fun i => (voxel.get i : ℤ)) i : ℝ)) = centre source := by
      rw [himage]
      rfl
    obtain ⟨x, hx, hestimate⟩ := hv.sound.sampler.estimate_centre_double hv.volume (hv.not_cubic hkernel) hinside
      hplace
    rw [hcentre, if_pos (Sampler.valid_centre hinside), hestimate]
    exact hx.symm

/-- **Options that copy voxels**: no splines, and one sample per voxel. -/
structure ToolOptions.Copies (o : ToolOptions Exact) : Prop extends o.Plain where
  order : ∃ kernel, Kernel.ofLiteral (o.order.orElse (.number (.int 1))) = .ok kernel ∧ kernel ≠ .cubic
  oversample : o.oversample = .null ∨
    o.oversample.isGiven = true ∧ OversamplingPlan.ofRequest o.oversample = .ok .single

theorem ToolOptions.copies_none : (ToolOptions.none : ToolOptions Exact).Copies := by
  refine ⟨⟨rfl, .inl rfl, rfl, rfl⟩, ⟨.linear, ?_, by decide⟩, .inl rfl⟩
  simp [none, Literal.orElse, Literal.isGiven, Kernel.ofLiteral, Kernel.ofDegree?, Number.toScalar]

theorem ToolOptions.Copies.placed {o : ToolOptions Exact} (h : o.Copies) (inputAffine outputAffine outputShape) :
    { o with inputAffine, outputAffine, outputShape }.Copies :=
  ⟨⟨h.transform, h.fallback, h.writer, h.surplus⟩, h.order, h.oversample⟩

/-- **Options that move a volume** of a shape from a given orientation to another, on a lattice of these sizes. -/
structure ToolOptions.Moves (o : ToolOptions Exact) (A B : RealMatrix 4 4) (s : Shape) (m : Vector Nat 3) : Prop
    extends o.Copies where
  given : o.inputAffine.isGiven = true
  input : AffineTransform.ofLiteral o.inputAffine = .ok (affine A)
  output : (Placement.ofOrientation o.outputAffine o.outputShape).transform (affine A) = .ok (affine B)
  sizes : (Placement.ofOrientation o.outputAffine o.outputShape).sizes s = .ok (m.toList.map Int.ofNat)

namespace Tool

section Rearranged

variable [LinearSolver Exact] [LinearSolver.Accurate] [Capacity] {stored : Tensor Exact} {e : Extent}
  {A : RealMatrix 4 4} {o : ToolOptions Exact} {r : Rearrangement} {m : Vector Nat 3}

theorem exists_reslice (ho : o.Copies) (hcells : stored.padded.shape = e.toShape) (hpositive : ∀ n ∈ e.toShape, 0 < n)
    {spacing : List Exact} {w w' : Workspace Exact}
    (hinput : Task.perform (reslice.inputGrid ⟨.real .double, stored.padded⟩ (Info.ofArray ⟨.real .double, stored⟩)
      o.inputAffine) w = (.ok ⟨e, spacing, affine A⟩, w'))
    (hdet : A.det ≠ 0) (hlengths : ∀ i, 0 < A.stepLength i) (hm : ∀ i, 0 < m.get i)
    (htransform : (Placement.ofOrientation o.outputAffine o.outputShape).transform (affine A) =
      .ok (affine (A * r.matrix)))
    (hsizes : (Placement.ofOrientation o.outputAffine o.outputShape).sizes e.toShape = .ok (m.toList.map Int.ofNat))
    (hroom : (Shape.reserve (m.toList ++ e.series) : Except (Fault Exact) Unit) = .ok ()) :
    ∃ t : Tensor Exact,
      (Task.perform (reslice.run .none o (.array ⟨.real .double, stored⟩)) w).1 = .ok (.array ⟨.real .double, t⟩) ∧
      r.Makes e stored.padded m o.fallback.outsideValue t := by
  obtain ⟨spacing', hreference⟩ := Grid.make_lattice hm fun i => by
    rw [r.stepLength_mul_matrix A i]
    exact hlengths _
  obtain ⟨kernel, horder, hkernel⟩ := ho.order
  obtain ⟨plan, hplan, hactive⟩ := OversamplingPlan.exists_inactive r.sampleCount_matrix ho.oversample
  obtain ⟨v, t, hv, rfl, hfinish, hshape, hvalues⟩ := exists_perform_finish reslice stored ⟨e, spacing, affine A⟩
    ⟨⟨m, []⟩, spacing', affine (A * r.matrix)⟩ ho.toPlain hcells hpositive rfl rfl hdet rfl horder hplan
    (fun h => by rw [hactive] at h; cases h) hroom w'
  refine ⟨t, ?_, hshape, fun voxel place hvoxel hplace => ?_⟩
  · rw [← hcells] at hsizes
    rw [run_reslice, perform_resliceTo (Input.opens_array ⟨.real .double, stored⟩ w.files) ho.surplus hinput hsizes
      htransform hreference]
    exact hfinish
  · rw [hvalues voxel place hvoxel hplace, hv.blockValue_rearranged hkernel hactive _ voxel hplace]

theorem exists_reslice_moves (hcells : stored.padded.shape = e.toShape) (hpositive : ∀ n ∈ e.toShape, 0 < n)
    (hdet : A.det ≠ 0) (hlengths : ∀ i, 0 < A.stepLength i) (hm : ∀ i, 0 < m.get i)
    (ho : o.Moves A (A * r.matrix) e.toShape m)
    (hroom : (Shape.reserve (m.toList ++ e.series) : Except (Fault Exact) Unit) = .ok ()) (w : Workspace Exact) :
    ∃ t : Tensor Exact,
      (Task.perform (reslice.run .none o (.array ⟨.real .double, stored⟩)) w).1 = .ok (.array ⟨.real .double, t⟩) ∧
      r.Makes e stored.padded m o.fallback.outsideValue t := by
  let x : Volume Exact := ⟨.real .double, stored⟩
  obtain ⟨spacing, hmake⟩ := Grid.make_affine hpositive hlengths
  rw [← show x.padded.shape = e.toShape from hcells] at hmake
  have horientation : orientation o (Info.ofArray x) = .ok (affine A) := (if_pos ho.given).trans ho.input
  have hinput : Task.perform (reslice.inputGrid x.padded (Info.ofArray x) o.inputAffine) w =
      (.ok ⟨e, spacing, affine A⟩, w) := perform_inputGrid (fun _ => ho.given) horientation hmake w
  exact exists_reslice ho.toCopies hcells hpositive hinput hdet hlengths hm ho.output ho.sizes hroom

/-- **Reslicing that rearranges axes moves voxels.**  An array of double precision without empty axes, for which there
is room, is resliced from a given orientation that is not singular, and along whose axes the steps have lengths.  If the
output orientation is that of the input after a rearrangement of the axes, each output voxel is the one that the
rearrangement takes it to, if that is in the array, and has the value outside the field of view otherwise.  If every
voxel is shown, reslicing the output back gives the array.  Without options the array itself is given, with at least
three axes. -/
theorem reslice_rearranged (hcells : stored.padded.shape = e.toShape) (hpositive : ∀ n ∈ e.toShape, 0 < n)
    (hfits : (Shape.reserve e.toShape : Except (Fault Exact) Unit) = .ok ()) (w : Workspace Exact) :
    (∀ (A : RealMatrix 4 4) (r : Rearrangement) (m : Vector Nat 3) (o : ToolOptions Exact), A.det ≠ 0 →
      (∀ i, 0 < A.stepLength i) → (∀ i, 0 < m.get i) → o.Moves A (A * r.matrix) e.toShape m →
      (Shape.reserve (m.toList ++ e.series) : Except (Fault Exact) Unit) = .ok () →
      ∃ t : Tensor Exact,
        (Task.perform (reslice.run .none o (.array ⟨.real .double, stored⟩)) w).1 =
          .ok (.array ⟨.real .double, t⟩) ∧
        r.Makes e stored.padded m o.fallback.outsideValue t ∧
        ∀ back : ToolOptions Exact, back.Moves (A * r.matrix) A (m.toList ++ e.series) e.spatial →
          (∀ source : Vector Nat 3, Shape.Inside e.spatial.toList source.toList →
            ∃ voxel : Vector Nat 3, Shape.Inside m.toList voxel.toList ∧ r.source? e.spatial voxel = some source) →
          (Task.perform (reslice.run .none back (.array ⟨.real .double, t⟩)) w).1 =
            .ok (.array ⟨.real .double, stored.padded⟩)) ∧
    (Task.perform (reslice.run .none .none (.array ⟨.real .double, stored⟩)) w).1 =
      .ok (.array ⟨.real .double, stored.padded⟩) := by
  have hspatial : ∀ i, 0 < e.spatial.get i := forall_mem_toList.1 (List.forall_mem_append.1 hpositive).1
  have hseries : ∀ n ∈ e.series, 0 < n := (List.forall_mem_append.1 hpositive).2
  constructor
  · intro A r m o hdet hlengths hm ho hroom
    obtain ⟨t, hrun, hmakes⟩ := exists_reslice_moves hcells hpositive hdet hlengths hm ho hroom w
    refine ⟨t, hrun, hmakes, fun back hback honto => ?_⟩
    have hpadded : t.padded = t := by
      refine Tensor.padded_of_le ?_
      rw [hmakes.shape, List.length_append, Vector.length_toList]
      exact Nat.le_add_right 3 _
    have hmoved : t.padded.shape = (⟨m, e.series⟩ : Extent).toShape := by
      rw [hpadded, hmakes.shape, Extent.toShape]
    have hback' : back.Moves (A * r.matrix) (A * r.matrix * r.inverse.matrix) (⟨m, e.series⟩ : Extent).toShape
        e.spatial := by
      rw [Matrix.mul_assoc, r.matrix_mul_inverse, Matrix.mul_one]
      exact hback
    obtain ⟨u, hrun', hmakes'⟩ := exists_reslice_moves hmoved
      (List.forall_mem_append.2 ⟨forall_mem_toList.2 hm, hseries⟩)
      (by rw [Matrix.det_mul]; exact mul_ne_zero hdet r.det_matrix_ne_zero)
      (fun i => by rw [r.stepLength_mul_matrix]; exact hlengths _) hspatial hback' hfits w
    rw [hpadded] at hmakes'
    rw [hrun', hmakes.eq_of_inverse hmakes' hcells honto]
  · obtain ⟨spacing, s, w', hinput⟩ := exists_inputGrid (x := ⟨.real .double, stored⟩) hcells hpositive w
    have hsizes : (Placement.ofOrientation (.null : Literal Exact) .null).sizes e.toShape =
        .ok (e.spatial.toList.map Int.ofNat) := by
      have htake : e.toShape.take 3 = e.spatial.toList := List.take_left' Vector.length_toList
      exact congrArg (fun l => Except.ok (l.map Int.ofNat)) htake
    obtain ⟨t, hrun, hmakes⟩ := exists_reslice (r := .identity) ToolOptions.copies_none hcells hpositive hinput
      (det_translation_ne_zero s) (stepLength_translation_pos s) hspatial
      (by rw [Rearrangement.matrix_identity, Matrix.mul_one]; rfl) hsizes hfits
    rw [hrun, hmakes.eq_of_identity hcells]

end Rearranged

/-- **A row of two voxels flipped**, and flipped back. -/
theorem reslice_flipped :
    let stored : Tensor Exact := Tensor.build [2] fun index => if index = [0] then finite 5 else .nan
    let flip : Rearrangement := ⟨1, ![-1, 1, 1], ![1, 0, 0]⟩
    let o : ToolOptions Exact := { ToolOptions.none with
      inputAffine := Literal.ofMatrix 1
      outputAffine := Literal.ofMatrix (1 * flip.matrix) }
    let back : ToolOptions Exact := { ToolOptions.none with
      inputAffine := Literal.ofMatrix (1 * flip.matrix)
      outputAffine := Literal.ofMatrix 1 }
    ∃ t : Tensor Exact,
      (Task.perform (reslice.run .none o (.array ⟨.real .double, stored⟩)) (Workspace.ofFiles [])).1 =
        .ok (.array ⟨.real .double, t⟩) ∧
      t.get? [0, 0, 0] = some .nan ∧ t.get? [1, 0, 0] = some (finite 5) ∧
      (Task.perform (reslice.run .none back (.array ⟨.real .double, t⟩)) (Workspace.ofFiles [])).1 =
        .ok (.array ⟨.real .double, stored.padded⟩) := by
  intro stored flip o back
  let n : Vector Nat 3 := triple 2 1 1
  have hmoves : o.Moves 1 (1 * flip.matrix) (Extent.toShape ⟨n, []⟩) n :=
    ⟨ToolOptions.copies_none.placed _ _ _, rfl, AffineTransform.ofLiteral_ofMatrix _,
      AffineTransform.ofLiteral_ofMatrix _, rfl⟩
  have hback : back.Moves (1 * flip.matrix) 1 (n.toList ++ []) n :=
    ⟨ToolOptions.copies_none.placed _ _ _, rfl, AffineTransform.ofLiteral_ofMatrix _,
      AffineTransform.ofLiteral_ofMatrix _, rfl⟩
  have hlengths : ∀ i : Fin 3, 0 < stepLength (1 : RealMatrix 4 4) i := stepLength_pos isAffine_one (by simp)
  have hcells : stored.padded.shape = Extent.toShape ⟨n, []⟩ := rfl
  obtain ⟨t, hrun, hmakes, hreturn⟩ := (reslice_rearranged hcells (by decide) rfl (Workspace.ofFiles [])).1 1 flip n
    o (by simp) hlengths (by decide) hmoves rfl
  have hflip : flip.source? n (triple 0 0 0) = some (triple 1 0 0) ∧
      flip.source? n (triple 1 0 0) = some (triple 0 0 0) := by decide
  have hfirst := hmakes.get? (triple 0 0 0) [] (Shape.inside_iff_get.2 (by decide)) .nil
  have hlast := hmakes.get? (triple 1 0 0) [] (Shape.inside_iff_get.2 (by decide)) .nil
  rw [hflip.1] at hfirst
  rw [hflip.2] at hlast
  have hcell : ∀ k < 2, stored.padded.get? [k, 0, 0] = some (if k = 0 then finite 5 else .nan) := by
    intro k hk
    have hinside : stored.shape.Inside [k] := by simpa [stored, Shape.Inside] using hk
    refine (Tensor.get?_padded hinside).trans ((Tensor.get?_build hinside _).trans ?_)
    simp
  refine ⟨t, hrun, hfirst.trans (hcell 1 (by decide)), hlast.trans (hcell 0 (by decide)),
    hreturn back hback fun source hsource => ?_⟩
  have hbox : source = triple 0 0 0 ∨ source = triple 1 0 0 := by
    have hinside := Shape.inside_iff_get.1 hsource
    have hsource : source = triple (source.get 0) (source.get 1) (source.get 2) := (triple_get source).symm
    have hfirst : source.get 0 < 2 := hinside 0
    have hsecond : source.get 1 = 0 := Nat.lt_one_iff.1 (hinside 1)
    have hthird : source.get 2 = 0 := Nat.lt_one_iff.1 (hinside 2)
    rw [hsecond, hthird] at hsource
    interval_cases source.get 0
    · exact .inl hsource
    · exact .inr hsource
  obtain rfl | rfl := hbox
  · exact ⟨triple 1 0 0, Shape.inside_iff_get.2 (by decide), hflip.2⟩
  · exact ⟨triple 0 0 0, Shape.inside_iff_get.2 (by decide), hflip.1⟩

/-- **An orientation with an axis without length**, an empty axis, and an output without voxels are refused. -/
theorem reslice_refuses :
    let orientation : Literal Exact := Literal.ofMatrix exchange
    let identity : Literal Exact := Literal.ofMatrix 1
    let voxel : Volume Exact := ⟨.real .double, Tensor.build [1, 1, 1] fun _ => finite 5⟩
    let empty : Volume Exact := ⟨.real .double, Tensor.build [1, 0, 1] fun _ => finite 5⟩
    exchange.det ≠ 0 ∧
    (Task.perform (reslice.run .none { ToolOptions.none with inputAffine := orientation, outputAffine := orientation }
      (.array voxel)) (Workspace.ofFiles [])).1 = .error (.degenerateGrid (Exact.matrix exchange)) ∧
    (Task.perform (reslice.run .none { ToolOptions.none with inputAffine := identity, outputAffine := identity }
      (.array empty)) (Workspace.ofFiles [])).1 = .error (.gridSizes [1, 0, 1]) ∧
    (Task.perform (reslice.run .none { ToolOptions.none with
      inputAffine := identity
      outputAffine := identity
      outputShape := .list [.number (.int 0), .number (.int 1), .number (.int 1)] }
      (.array voxel)) (Workspace.ofFiles [])).1 = .error (.gridSizes [0, 1, 1]) := by
  intro orientation identity voxel empty
  have hrun : ∀ (o : ToolOptions Exact) (x : Volume Exact) (A : RealMatrix 4 4), 3 ≤ x.shape.length →
      o.inputAffine = Literal.ofMatrix A → o.surplus = false → o.writer = none →
      (Task.perform (reslice.run .none o (.array x)) (Workspace.ofFiles [])).1 = (do
        let input ← Grid.make (x.shape.map Int.ofNat) none (some (affine A))
        let sizes ← (Placement.ofOrientation o.outputAffine o.outputShape).sizes x.shape
        let reference ← Grid.make sizes none
          (some (← (Placement.ofOrientation o.outputAffine o.outputShape).transform input.transform))
        let y ← resliceArray x input (some reference) o.reslicing
        return .array (← y.toStored x.dtype)) := by
    intro o x A haxes hgiven hsurplus hwriter
    rw [run_reslice, fst_perform_resliceTo haxes hsurplus hwriter (by rw [hgiven]; rfl), hgiven,
      AffineTransform.ofLiteral_ofMatrix]
    rfl
  refine ⟨det_exchange_ne_zero, ?_, ?_, ?_⟩
  · have hdegenerate : Grid.make (voxel.shape.map Int.ofNat) none (some (affine exchange)) =
        .error (.degenerateGrid (Exact.matrix exchange)) :=
      Grid.make_affine_of_stepLength (e := ⟨triple 1 1 1, []⟩) (by decide) stepLength_exchange
    rw [hrun _ _ exchange (by decide) rfl rfl rfl, hdegenerate]
    rfl
  · rw [hrun _ _ 1 (by decide) rfl rfl rfl]
    rfl
  · obtain ⟨input, hinput, htransform⟩ : ∃ input, Grid.make (voxel.shape.map Int.ofNat) none (some (affine 1)) =
        .ok input ∧ (if identity.isGiven then AffineTransform.ofLiteral identity else .ok input.transform) =
          .ok (affine 1) := by
      obtain ⟨spacing, hinput⟩ := Grid.make_affine (e := ⟨triple 1 1 1, []⟩) (by decide)
        (stepLength_pos isAffine_one (by simp))
      exact ⟨_, hinput, AffineTransform.ofLiteral_ofMatrix 1⟩
    rw [hrun _ _ 1 (by decide) rfl rfl rfl, hinput]
    simp only [ok_bind, Placement.ofOrientation, htransform]
    rfl

end Tool

end Regrid
