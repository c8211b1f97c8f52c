import Mathlib
import Regrid.Matrix.Numeric
import Regrid.Proofs.Arrays
import Regrid.Proofs.Marks
import Regrid.Proofs.Written
/-!
# Labels — integers that are selected one by one

A tool that takes the nearest voxel once per output voxel selects labels: integers that are not to be mixed.  On their
way they are real numbers of double precision, so that a label comes out as it was if the scalars keep it, and zero
stands outside of the field of view.
-/
namespace Regrid

variable {α : Type} [Scalar α]

/-- **The positions that a lattice sees**: those at most half a voxel beyond the centres of its outermost voxels. -/
def Extent.sees (e : Extent) (p : Point α) : Bool := (Vector.zipWith Sampler.insideAxis e.spatial p).all id

theorem Sampler.valid_eq_sees (s : Sampler α) (p : Point α) : s.valid p = s.extent.sees p := rfl

theorem View.point_toList_append (voxel : Vector Nat 3) (place : List Nat) :
    (point (voxel.toList ++ place) : Point α) = voxel.map fun n : Nat => Scalar.ofInt n := by
  rw [← point_take, List.take_left' Vector.length_toList]
  ext i hi
  simp [point]

/-- **A label is selected** by the nearest kernel, and read as the real number it stands for. -/
theorem Sampler.Sound.exists_label {s : Sampler α} (hs : s.Sound) {t : IntType} {labels : Tensor t.Value}
    (hvolume : s.volume = ⟨.int t, labels⟩) (hsource : s.source = .nearest) {place : List Nat}
    (hplace : Shape.Inside s.extent.series place) (p : Point α) :
    ∃ voxel label, Kernel.nearestVoxel? s.extent.spatial p = some voxel ∧
      labels.get? (voxel.toList ++ place) = some label ∧ s.estimate place p = Scalar.ofInt label.val := by
  obtain ⟨voxel, hnearest, hinside⟩ := Kernel.exists_clampVoxel hs.spatial_positive
    (p.map fun x => Scalar.floor (x + Scalar.half))
  have hlabel := hs.estimate_nearest hsource hinside hplace hnearest
  rw [hvolume] at hlabel
  obtain ⟨label, hget, hestimate⟩ := hlabel
  exact ⟨voxel, label, hnearest, hget, hestimate⟩

theorem Volume.toStored_int (t : IntType) (s : Shape) (f : List Nat → α) :
    toStored ⟨.real .double, Tensor.build s f⟩ (.int t) =
      .ok ⟨.int t, Tensor.build s fun index => Dtype.wholeOf t (f index)⟩ := by
  have hcells : (Tensor.build s f).mapM (Dtype.storeReal (.int t)) =
      (.ok (Tensor.build s fun index => Dtype.wholeOf t (f index)) : Except (Fault α) (Tensor t.Value)) :=
    Tensor.mapM_build fun index _ => Dtype.storeReal_int t (f index)
  rw [toStored_reals]
  exact congrArg (Functor.map _) hcells

/-- **One sample per voxel** is what the number one asks for. -/
theorem OversamplingPlan.ofRequest_single [Scalar.Lawful α] [Scalar.Counting α] :
    ofRequest (.number (.int 1)) = (.ok single : Except (Fault α) OversamplingPlan) := by
  have hkept : Scalar.Keeps α 1 := Scalar.keeps_of_small (by decide) (by decide)
  have hone : (Scalar.ofInt? 1 : Option α) = some (Scalar.ofInt 1) := if_pos hkept.isFinite
  have hwhole : Literal.isWhole (.number (.int 1) : Literal α) = true := by
    simp [Literal.isWhole, Number.isWhole, hone, hkept.floor]
  have hweights : checkWeights α single = .ok single := by
    refine if_pos (List.all_eq_true.2 fun n hn => ?_)
    obtain rfl : n = 1 := by
      revert n
      decide
    exact congrArg Option.isSome hone
  have hfactors : ∀ i, single.factors.get i = 1 := by decide
  refine (ofRequest_number _).trans (ofWholeLiterals_of_isWhole .square (p := single) (fun i => ?_) hweights)
  rw [hfactors]
  exact hwhole

/-- **Options that select labels**: the nearest voxel once per output voxel, and neither a fallback nor a writer. -/
structure ToolOptions.SelectsLabels (o : ToolOptions α) : Prop where
  order : o.order = .number (.int 0)
  oversample : o.oversample = .number (.int 1)
  fallback : o.fallback = .null
  writer : o.writer = .none
  surplus : o.surplus = false

section Selecting

variable [Scalar.Lawful α] {t : IntType} {labels : Tensor t.Value}

/-- **The values of a view of labels** that takes the nearest voxel once per voxel. -/
theorem View.values_labels [Capacity] {v : View α} (hv : v.Sound) (hvolume : v.sampler.volume = ⟨.int t, labels⟩)
    (hfallback : v.sampler.fallback = none) (vectorize : Bool) : v.values vectorize =
      .ok (Tensor.build v.extent.toShape fun voxel => v.blockValue (Scalar.ofInt 0) (voxel.drop 3) voxel) := by
  have hdtype : v.sampler.volume.dtype = .int t := congrArg Volume.dtype hvolume
  refine values_of_default hv (sumPrecision_double (.inr ⟨t, hdtype⟩)) hfallback ?_ vectorize
  rw [hdtype]
  exact Reading.toReal_missing_int t

variable [Scalar.Counting α] {o : ToolOptions α}

/-- **A label that the scalars keep** comes back from the real number it stands for. -/
theorem Dtype.wholeOf_label {label : t.Value} (h : Scalar.floor (Scalar.ofInt label.val : α) = label.val) :
    wholeOf t (Scalar.ofInt label.val : α) = label := by
  have hkept : Scalar.Keeps α label.val := by
    obtain ⟨hleast, hmost⟩ := range_of_holds label.property
    exact ⟨hleast, hmost, h⟩
  rw [wholeOf_ofInt t hkept]
  exact Subtype.ext (IntType.residue_eq_self label.property)

omit [Scalar.Lawful α] in
/-- **The labels of at most 32 bits** are kept. -/
theorem IntType.floor_label (ht : t.bits ≤ 32) (label : t.Value) :
    Scalar.floor (Scalar.ofInt label.val : α) = label.val := by
  have hsmall : -9007199254740992 ≤ label.val ∧ label.val ≤ 9007199254740992 := by
    have hlabel := label.property
    cases t <;> simp [holds, minimum, maximum, count, signed, bits] at ht hlabel <;> omega
  exact Scalar.Counting.floor_ofInt hsmall.1 hsmall.2

omit [Scalar.Lawful α] in
theorem ToolOptions.SelectsLabels.kernel (ho : o.SelectsLabels) :
    Kernel.ofLiteral o.reslicing.order = .ok .nearest := by
  have horder : o.reslicing.order = .number (.int 0) := by
    rw [reslicing, ho.order]
    rfl
  have hnearest : Kernel.ofDegree? (Scalar.ofInt 0 : α) = some .nearest :=
    if_pos (Scalar.Counting.ofInt_beq_self Scalar.keeps_zero)
  rw [horder, Kernel.ofLiteral, Number.toScalar, hnearest]

theorem ToolOptions.SelectsLabels.plan (ho : o.SelectsLabels) (mapping : AffineTransform α) :
    OversamplingPlan.plan mapping o.oversample = .ok .single := by
  rw [ho.oversample]
  exact (if_pos rfl).trans OversamplingPlan.ofRequest_single

variable [LinearSolver α] [Capacity]

/-- **Labels are resliced** to the labels of the nearest voxels. -/
theorem resliceArray_labels (ho : o.SelectsLabels) (input reference : Grid α) {extra mapping : AffineTransform α}
    (hinput : input.shape = labels.shape) (hpositive : ∀ n ∈ labels.shape, 0 < n)
    (hextra : AffineTransform.ofLiteral o.transform = .ok extra)
    (hmapping : View.mappingBetween input reference extra = .ok mapping)
    (hroom : (Shape.reserve (reference.extent.spatial.toList ++ input.extent.series) : Except (Fault α) Unit) =
      .ok ()) :
    ∃ f : List Nat → α, resliceArray ⟨.int t, labels⟩ input (some reference) o.reslicing =
        .ok ⟨.real .double, Tensor.build (reference.extent.spatial.toList ++ input.extent.series) f⟩ ∧
      ∀ (voxel : Vector Nat 3) (place : List Nat), Shape.Inside input.extent.series place →
        let p := mapping.apply (voxel.map fun n : Nat => Scalar.ofInt n)
        (input.extent.sees p = true → ∃ nearest label, Kernel.nearestVoxel? input.extent.spatial p = some nearest ∧
          labels.get? (nearest.toList ++ place) = some label ∧
          f (voxel.toList ++ place) = Scalar.ofInt label.val) ∧
        (input.extent.sees p = false → f (voxel.toList ++ place) = Scalar.ofInt 0) := by
  let v : View α :=
    ⟨⟨⟨.int t, labels⟩, input.extent, .nearest, none, some input, .text ""⟩, reference, mapping, .single⟩
  have hview : o.reslicing.view ⟨.int t, labels⟩ input (some reference) = .ok v := by
    have hnone : o.reslicing.fallback.given? = none := congrArg Literal.given? ho.fallback
    unfold ReslicingOptions.view
    rw [hnone]
    exact View.ofVolume_of_solved hinput ho.kernel rfl hextra hmapping (ho.plan mapping) fun h => by cases h
  have hsampler : v.sampler.Sound :=
    ⟨hinput.symm, hpositive, trivial, fun y _ => Dtype.stored_int t y, fun l h => by cases h⟩
  have hv : v.Sound := ⟨hsampler, hroom⟩
  have hvolume : v.sampler.volume = ⟨.int t, labels⟩ := rfl
  have hvalues := View.values_labels hv hvolume rfl o.reslicing.vectorize
  refine ⟨fun voxel => v.blockValue (Scalar.ofInt 0) (voxel.drop 3) voxel,
    resliceArray_eq_ok.2 ⟨v, _, hview, hvalues, rfl⟩, fun voxel place hplace => ?_⟩
  have hdrop : (voxel.toList ++ place).drop 3 = place := List.drop_left' Vector.length_toList
  have htarget : v.target (voxel.toList ++ place) = mapping.apply (voxel.map fun n : Nat => Scalar.ofInt n) :=
    congrArg mapping.apply (View.point_toList_append voxel place)
  have hblock : v.blockValue (Scalar.ofInt 0) ((voxel.toList ++ place).drop 3) (voxel.toList ++ place) =
      if input.extent.sees (mapping.apply (voxel.map fun n : Nat => Scalar.ofInt n)) = true then
        v.sampler.estimate place (mapping.apply (voxel.map fun n : Nat => Scalar.ofInt n)) else Scalar.ofInt 0 := by
    rw [hdrop, ← htarget, ← v.sampler.valid_eq_sees]
    exact View.blockValue_of_inactive (show OversamplingPlan.single.active = false by decide) _ _
  refine ⟨fun hseen => ?_, fun hunseen => ?_⟩
  · obtain ⟨nearest, label, hnearest, hlabel, hestimate⟩ := hsampler.exists_label rfl rfl hplace
      (mapping.apply (voxel.map fun n : Nat => Scalar.ofInt n))
    exact ⟨nearest, label, hnearest, hlabel, (hblock.trans (if_pos hseen)).trans hestimate⟩
  · refine hblock.trans (if_neg ?_)
    rw [hunseen]
    exact Bool.false_ne_true

namespace Tool

/-- **A tool selects labels**: each output voxel whose position is in the field of view has the label of the nearest
voxel, if the scalars keep it, and every other one has zero. -/
theorem reslice_labels (ho : o.SelectsLabels) {e lattice : Extent} {input output extra mapping : AffineTransform α}
    (hlabels : labels.padded.shape = e.toShape) (hpositive : ∀ n ∈ e.toShape, 0 < n)
    (hinput : orientation o (Info.ofArray ⟨.int t, labels⟩) = .ok input)
    (hinputLength : Grid.positiveSpacing (columnLengths input.matrix).toList = true)
    (hsizes : (Placement.ofOrientation o.outputAffine o.outputShape).sizes e.toShape =
      .ok (lattice.toShape.map Int.ofNat)) (hlattice : ∀ n ∈ lattice.toShape, 0 < n)
    (houtput : (Placement.ofOrientation o.outputAffine o.outputShape).transform input = .ok output)
    (houtputLength : Grid.positiveSpacing (columnLengths output.matrix).toList = true)
    (hextra : AffineTransform.ofLiteral o.transform = .ok extra)
    (hmapping : input.solve (extra.compose output) = .ok mapping)
    (hroom : (Shape.reserve (lattice.spatial.toList ++ e.series) : Except (Fault α) Unit) = .ok ()) (w : Workspace α) :
    ∃ out : Tensor t.Value,
      (Task.perform (reslice.run .none o (.array ⟨.int t, labels⟩)) w).1 = .ok (.array ⟨.int t, out⟩) ∧
      out.shape = lattice.spatial.toList ++ e.series ∧
      ∀ (voxel : Vector Nat 3) (place : List Nat), Shape.Inside lattice.spatial.toList voxel.toList →
        Shape.Inside e.series place → let p := mapping.apply (voxel.map fun n : Nat => Scalar.ofInt n)
        (e.sees p = true → ∃ nearest label, Kernel.nearestVoxel? e.spatial p = some nearest ∧
          labels.padded.get? (nearest.toList ++ place) = some label ∧
          (Scalar.floor (Scalar.ofInt label.val : α) = label.val →
            out.get? (voxel.toList ++ place) = some label)) ∧
        (e.sees p = false → (out.get? (voxel.toList ++ place)).map (·.val) = some 0) := by
  let x : Volume α := ⟨.int t, labels⟩
  have hshape : x.padded.shape = e.toShape := hlabels
  have hextent : (Extent.ofSizes (x.padded.shape.map Int.ofNat) : Except (Fault α) Extent) = .ok e := by
    rw [hshape]
    exact Grid.ofSizes_toShape hpositive
  obtain ⟨spacing, hgrid⟩ := exists_fst_perform_inputGrid reslice hinput hinputLength hextent w
  obtain ⟨spacing', hreference⟩ := Grid.exists_make (Grid.ofSizes_toShape hlattice) houtputLength
  obtain ⟨f, hresliced, hvalues⟩ := resliceArray_labels ho ⟨e, spacing, input⟩ ⟨lattice, spacing', output⟩ hlabels.symm
    (by rwa [hlabels]) hextra hmapping hroom
  refine ⟨Tensor.build (lattice.spatial.toList ++ e.series) fun index => Dtype.wholeOf t (f index), ?_, rfl, ?_⟩
  · have hwriter : o.writer.getD (reslice.standardWriter (.array x)) = .converter .null := by
      rw [ho.writer]
      rfl
    have hconvert : ∀ y : Volume α,
        Writer.convert y [.null] (.ok (some (Info.ofArray x).dtype)) = y.toStored (.int t) := fun y => rfl
    rw [run_reslice, fst_perform_resliceTo_converter (Input.opens_array x w.files) ho.surplus hwriter, hgrid, ok_bind,
      reslicedTo, hshape, hsizes, ok_bind, houtput, ok_bind, hreference, ok_bind]
    refine (congrArg (· >>= _) hresliced).trans ?_
    rw [ok_bind, hconvert, Volume.toStored_int]
    rfl
  · intro voxel place hvoxel hplace
    obtain ⟨hseen, hunseen⟩ := hvalues voxel place hplace
    have hget : (Tensor.build (lattice.spatial.toList ++ e.series) fun index => Dtype.wholeOf t (f index)).get?
        (voxel.toList ++ place) = some (Dtype.wholeOf t (f (voxel.toList ++ place))) :=
      Tensor.get?_build (hvoxel.append hplace) _
    refine ⟨fun h => ?_, fun h => ?_⟩
    · obtain ⟨nearest, label, hnearest, hlabel, hvalue⟩ := hseen h
      refine ⟨nearest, label, hnearest, hlabel, fun hkept => ?_⟩
      rw [hget, hvalue, Dtype.wholeOf_label hkept]
    · have hzero : (t.wrap 0).val = 0 := by cases t <;> rfl
      rw [hget, hunseen h, Dtype.wholeOf_ofInt t Scalar.keeps_zero]
      exact congrArg some hzero

end Tool

end Selecting

open Exact RealMatrix in
/-- **Two labels** that are seen from one voxel further: the second one, and nothing. -/
theorem Tool.reslice_labels_shifted :
    let labels : Tensor IntType.int8.Value := Tensor.build [2, 1, 1] fun index =>
      IntType.int8.wrap (if index = [0, 0, 0] then 7 else -3)
    let o : ToolOptions Exact :=
      { ToolOptions.none with
        inputAffine := .ofMatrix 1, outputAffine := .ofMatrix (translation ![1, 0, 0]), order := .number (.int 0),
        oversample := .number (.int 1) }
    ∃ out : Tensor IntType.int8.Value,
      (Task.perform (reslice.run .none o (.array ⟨.int .int8, labels⟩)) (.ofFiles [])).1 =
        .ok (.array ⟨.int .int8, out⟩) ∧
      (out.get? [0, 0, 0]).map (·.val) = some (-3) ∧ (out.get? [1, 0, 0]).map (·.val) = some 0 := by
  intro labels o
  let e : Extent := ⟨triple 2 1 1, []⟩
  let T : RealMatrix 4 4 := translation ![1, 0, 0]
  have hmapping : (affine 1).solve ((affine 1).compose (affine T)) = .ok (affine T) := by
    obtain ⟨D, hD, hsolve⟩ := View.solve_of_det_ne_zero (A := 1) (C := 1 * T) (by simp)
    rw [compose_affine, hsolve, ← Matrix.one_mul D, hD, Matrix.one_mul]
  have hpadded : labels.padded = labels := Tensor.padded_of_le (by decide)
  have ho : o.SelectsLabels := ⟨rfl, rfl, rfl, rfl, rfl⟩
  have hshape : labels.padded.shape = e.toShape := congrArg Tensor.shape hpadded
  have hsizes : (Placement.ofOrientation o.outputAffine o.outputShape).sizes e.toShape =
      .ok (e.toShape.map Int.ofNat) := rfl
  have hroom : (Shape.reserve (e.spatial.toList ++ e.series) : Except (Fault Exact) Unit) = .ok () := rfl
  obtain ⟨out, hrun, -, hvalues⟩ := reslice_labels ho hshape (by decide) (AffineTransform.ofLiteral_ofMatrix 1)
    (Grid.positiveSpacing_affine (stepLength_pos isAffine_one (by simp))) hsizes (by decide)
    (AffineTransform.ofLiteral_ofMatrix T) (Grid.positiveSpacing_affine (stepLength_translation_pos _)) ofLiteral_null
    hmapping hroom (.ofFiles [])
  have hposition : ∀ voxel : Vector Nat 3, (affine T).apply (voxel.map fun n : Nat => Scalar.ofInt n) =
      point ((fun i => (voxel.get i : ℝ)) + ![1, 0, 0]) := by
    intro voxel
    have hcentre : (voxel.map fun n : Nat => (Scalar.ofInt n : Exact)) = point fun i => (voxel.get i : ℝ) := by
      ext i hi
      simp [point, Vector.get]
    rw [hcentre, apply_affine, act_translation]
  have hsees : ∀ x : Fin 3 → ℝ, e.sees (point x) = true ↔ ∀ i, -(1 / 2) ≤ x i ∧ x i ≤ e.spatial.get i - 1 / 2 :=
    fun x => Sampler.valid_point (s := { View.unitSampler with extent := e })
  refine ⟨out, hrun, ?_, ?_⟩
  · obtain ⟨hseen, -⟩ := hvalues (triple 0 0 0) [] (Shape.inside_iff_get.2 (by decide)) .nil
    have hnext : point ((fun i => (((triple 0 0 0).get i : ℕ) : ℝ)) + ![1, 0, 0]) = centre (triple 1 0 0) := by
      refine congrArg point (funext fun i => ?_)
      fin_cases i <;> simp [triple, Vector.get]
    rw [hposition, hnext] at hseen
    have hsecond : Shape.Inside e.spatial.toList (triple 1 0 0).toList := Shape.inside_iff_get.2 (by decide)
    obtain ⟨nearest, label, hnearest, hlabel, hout⟩ := hseen
      (Sampler.valid_centre (s := { View.unitSampler with extent := e }) hsecond)
    rw [Kernel.nearestVoxel?_centre hsecond] at hnearest
    cases hnearest
    have hget : labels.get? ((triple 1 0 0).toList ++ []) = some (IntType.int8.wrap (-3)) := by rfl
    obtain rfl : IntType.int8.wrap (-3) = label := Option.some.inj (hget.symm.trans (hpadded ▸ hlabel))
    exact congrArg (Option.map Subtype.val) (hout (IntType.floor_label (by decide) _))
  · obtain ⟨-, hunseen⟩ := hvalues (triple 1 0 0) [] (Shape.inside_iff_get.2 (by decide)) .nil
    refine hunseen (Bool.eq_false_of_not_eq_true fun hseen => ?_)
    rw [hposition, hsees] at hseen
    have hfirst := (hseen 0).2
    simp [e, triple, Vector.get] at hfirst
    norm_num at hfirst

/-- **The integers of an array** that is not in a file. -/
def Written.integers : Except (Fault Float) (Written Float) → List Int
  | .ok (.array ⟨.int _, cells⟩) => cells.toList.map (·.val)
  | _ => []

/-- **A label that double precision does not keep** comes out as its neighbour, although it is read at its centre. -/
theorem Tool.reslice_label_not_kept :
    let label : IntType.int64.Value := IntType.int64.wrap 9007199254740993
    let o : ToolOptions Float :=
      { ToolOptions.none with order := .number (.int 0), oversample := .number (.int 1) }
    let e : Extent := ⟨triple 1 1 1, []⟩
    let input : AffineTransform Float := ⟨e.toShape.centring⟩
    let position : Option (Point Float) := (input.solve (AffineTransform.identity.compose input)).toOption.map fun m =>
      m.apply (Vector.replicate 3 (Scalar.ofInt 0))
    position.map e.sees = some true ∧ position.bind (Kernel.nearestVoxel? e.spatial) = some (triple 0 0 0) ∧
      label.val = 9007199254740993 ∧
      Written.integers (Task.perform (reslice.run .none o
        (.array ⟨.int .int64, Tensor.build e.toShape fun _ => label⟩)) (.ofFiles [])).1 = [9007199254740992] := by
  refine ⟨?_, ?_, ?_, ?_⟩ <;> decide +kernel

end Regrid
