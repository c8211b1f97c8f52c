import Mathlib
import Regrid.Proofs.Evaluation
import Regrid.Proofs.PartViews
import Regrid.Proofs.Stored
import Regrid.Proofs.Values
import Regrid.Proofs.Written
/-!
# Series — reslicing a series one volume at a time

A series is resliced exactly if each of its parts is, and the parts of the array are the arrays of the parts
(`resliceArray_eq_ok_iff_parts`).  A cursor that reads one value at a time comes to this by its reset and its steps, and
the blocks by the place that is set for each of them.
-/
namespace Regrid

variable {α : Type}

namespace View

variable [Scalar α] {v v' : View α} {place : List Nat}

section Outcome

open Walk

/-- **What is gathered from the blocks** of all places has a part for each of them. -/
theorem IsPart.select?_gather (h : v.IsPart place v') {blocks blocks' : Tensor (Tensor α)}
    (hblocks : blocks'.get? [] = blocks.get? place) : (v.gather blocks).select? 3 place = some (v'.gather blocks') := by
  refine (Tensor.select?_eq_some_iff (t := v.gather blocks) h.drop_toShape).2
    ⟨h.toShape_eq.trans (take_toShape v.extent).symm, fun index hindex => ?_⟩
  change Shape.Inside (v.extent.toShape.take 3) index at hindex
  have hinside : v'.extent.toShape.Inside index := by
    rw [h.toShape_eq]
    rwa [take_toShape] at hindex
  have hlength : index.length = 3 := by
    rw [hinside.length_eq, h.toShape_eq, Vector.length_toList]
  have hwhole : v.extent.toShape.Inside (index ++ place) :=
    Tensor.inside_append (t := v.gather blocks) hindex h.drop_toShape
  rw [gather, gather, Tensor.get?_build hinside, Tensor.get?_build hwhole, List.drop_left' hlength,
    List.take_left' hlength, List.drop_eq_nil_of_le hlength.le, List.take_of_length_le hlength.le, hblocks]

variable [Capacity]

theorem fst_perform_copyReals (hroom : (Shape.reserve v.extent.toShape : Except (Fault α) Unit) = .ok ())
    {c : Cursor α} (hc : c.axes = v.extent.axes) :
    (perform v.copyReals c).1 = Tensor.buildM v.extent.toShape v.readAt := by
  cases h : Tensor.buildM v.extent.toShape v.readAt with
  | error f => exact copyReals_of_error hroom hc h
  | ok t => rw [copyReals_of_ok hroom hc h]

theorem fst_perform_resampleReals (hroom : (Shape.reserve v.extent.toShape : Except (Fault α) Unit) = .ok ())
    {c : Cursor α} (hc : c.axes = v.extent.axes) :
    (perform v.resampleReals c).1 = v.gather <$> Tensor.buildM v.extent.series v.blockAt := by
  cases h : Tensor.buildM v.extent.series v.blockAt with
  | error f => exact resampleReals_of_error hroom hc h
  | ok blocks => rw [resampleReals_of_ok hroom hc h]; rfl

theorem reserve_of_values {vectorize : Bool} {t : Tensor α} (h : v.values vectorize = .ok t) :
    (Shape.reserve v.extent.toShape : Except (Fault α) Unit) = .ok () := by
  cases hroom : (Shape.reserve v.extent.toShape : Except (Fault α) Unit) with
  | ok _ => rfl
  | error f =>
    obtain ⟨g, hg⟩ := values_of_noRoom hroom vectorize
    rw [hg] at h
    cases h

omit [Scalar α] in
theorem IsPart.reserve (h : v.IsPart place v')
    (hroom : (Shape.reserve v.extent.toShape : Except (Fault α) Unit) = .ok ()) :
    (Shape.reserve v'.extent.toShape : Except (Fault α) Unit) = .ok () := by
  rw [h.toShape_eq]
  exact Shape.reserve_of_append hroom

theorem shape_of_values {vectorize : Bool} {t : Tensor α} (ht : v.values vectorize = .ok t) :
    t.shape = v.extent.toShape := by
  have hroom := reserve_of_values ht
  cases vectorize with
  | false =>
    have hcopy := (fst_perform_copyReals hroom v.start_axes).symm.trans ht
    exact (Tensor.buildM_eq_pure_iff.1 hcopy).1
  | true =>
    have hresample := (fst_perform_resampleReals hroom v.start_axes).symm.trans ht
    obtain ⟨blocks, -, rfl⟩ := map_eq_ok.1 hresample
    rfl

variable [Scalar.Lawful α]

/-- **The values of a part** are the part of the values. -/
theorem IsPart.values_eq (h : v.IsPart place v') {vectorize : Bool} {t : Tensor α} (ht : v.values vectorize = .ok t) :
    ∃ u, v'.values vectorize = .ok u ∧ t.select? 3 place = some u := by
  have hroom := reserve_of_values ht
  have hroom' := h.reserve hroom
  cases vectorize with
  | false =>
    have hcopy := (fst_perform_copyReals hroom v.start_axes).symm.trans ht
    obtain ⟨hshape, hcells⟩ := Tensor.buildM_eq_pure_iff.1 hcopy
    have hplace : Shape.Inside (t.shape.drop 3) place := by
      rw [hshape]
      exact h.drop_toShape
    obtain ⟨u, hu⟩ := Tensor.exists_select? hplace
    obtain ⟨hushape, hget⟩ := (Tensor.select?_eq_some_iff hplace).1 hu
    refine ⟨u, (fst_perform_copyReals hroom' v'.start_axes).trans ?_, hu⟩
    rw [hshape, take_toShape] at hushape hget
    refine Tensor.buildM_eq_pure_iff.2 ⟨hushape.trans h.toShape_eq.symm, fun index hindex => ?_⟩
    rw [h.toShape_eq] at hindex
    have hinside : v.extent.toShape.Inside (index ++ place) := hindex.append h.sampler.inside
    rw [hget index hindex, h.readAt_eq hindex (countable_of_inside hinside hroom)]
    exact hcells _ hinside
  | true =>
    have hresample := (fst_perform_resampleReals hroom v.start_axes).symm.trans ht
    obtain ⟨blocks, hblocks, rfl⟩ := map_eq_ok.1 hresample
    obtain ⟨-, hcells⟩ := Tensor.buildM_eq_pure_iff.1 hblocks
    obtain ⟨block, hblock, hpure⟩ := hcells place h.sampler.inside
    have hblocks' : Tensor.buildM v'.extent.series v'.blockAt = .ok (Tensor.build [] fun _ => block) := by
      rw [h.extent_eq]
      refine Tensor.buildM_eq_pure fun index hindex => ?_
      cases hindex
      rw [h.blockAt_eq, hpure]
    have hget : (Tensor.build [] fun _ => block).get? [] = blocks.get? place := by
      rw [hblock]
      exact Tensor.get?_build .nil _
    refine ⟨_, ?_, h.select?_gather hget⟩
    rw [values, if_pos rfl, fst_perform_resampleReals hroom' v'.start_axes, hblocks']
    rfl

/-- **A view has values** if all its parts have. -/
theorem exists_values (hroom : (Shape.reserve v.extent.toShape : Except (Fault α) Unit) = .ok ()) (vectorize : Bool)
    (h : ∀ place, Shape.Inside v.extent.series place →
      ∃ v' u, v.IsPart place v' ∧ v'.values vectorize = .ok u) : ∃ t, v.values vectorize = .ok t := by
  cases vectorize with
  | false =>
    refine (?_ : ∃ t, (perform v.copyReals v.start).1 = .ok t)
    rw [fst_perform_copyReals hroom v.start_axes]
    refine Tensor.exists_buildM fun index hindex => ?_
    obtain ⟨hspatial, hseries⟩ := Extent.inside_toShape hindex
    obtain ⟨v', u, hpart, hu⟩ := h _ hseries
    have hcopy := (fst_perform_copyReals (hpart.reserve hroom) v'.start_axes).symm.trans hu
    obtain ⟨x, -, hx⟩ := (Tensor.buildM_eq_pure_iff.1 hcopy).2 (index.take 3) (by rwa [hpart.toShape_eq])
    refine ⟨x, ?_⟩
    rw [hpart.readAt_eq hspatial, List.take_append_drop] at hx
    · exact hx
    · rw [List.take_append_drop]
      exact countable_of_inside hindex hroom
  | true =>
    refine (?_ : ∃ t, (perform v.resampleReals v.start).1 = .ok t)
    rw [fst_perform_resampleReals hroom v.start_axes]
    obtain ⟨blocks, hblocks⟩ : ∃ blocks, Tensor.buildM v.extent.series v.blockAt = .ok blocks := by
      refine Tensor.exists_buildM fun place hplace => ?_
      obtain ⟨v', u, hpart, hu⟩ := h place hplace
      have hresample := (fst_perform_resampleReals (hpart.reserve hroom) v'.start_axes).symm.trans hu
      obtain ⟨blocks, hblocks, -⟩ := map_eq_ok.1 hresample
      rw [hpart.extent_eq] at hblocks
      obtain ⟨block, -, hblock⟩ := (Tensor.buildM_eq_pure_iff.1 hblocks).2 [] .nil
      exact ⟨block, hpart.blockAt_eq.symm.trans hblock⟩
    exact ⟨_, map_eq_ok.2 ⟨blocks, hblocks, rfl⟩⟩

end Outcome

/-- **Output values are stored cell by cell** in one type, unless there is no such type. -/
theorem store_cases (dtype : Literal α) : (∃ f, ∀ t : Tensor α, store t dtype = .error f) ∨
    ∃ (d : Dtype) (g : α → Except (Fault α) (d.Value α)), ∀ t : Tensor α, store t dtype = (⟨d, ·⟩) <$> t.mapM g := by
  unfold store
  cases Dtype.ofLiteral? dtype with
  | error f => exact .inl ⟨f, fun t => rfl⟩
  | ok d? =>
    cases d? with
    | none =>
      refine .inr ⟨.real .double, .ok, fun t => ?_⟩
      have hcells : t.mapM (Except.ok : α → Except (Fault α) α) = .ok t :=
        Tensor.mapM_eq_pure_iff.2 ⟨rfl, fun index hindex => by
          obtain ⟨x, -, hx⟩ := Tensor.exists_get? hindex
          exact ⟨x, x, hx, hx, rfl⟩⟩
      rw [hcells]
      rfl
    | some d => exact .inr ⟨d.storing, d.storeReal, fun t => Volume.toOutput_reals t d⟩

end View

/-- **Volumes with the same parts** are the same, if they have any. -/
theorem Volume.ext_parts {x y : Volume α} (hshape : x.shape = y.shape) {place : List Nat}
    (hplace : Shape.Inside (x.shape.drop 3) place)
    (h : ∀ place, Shape.Inside (x.shape.drop 3) place → x.part? place = y.part? place) : x = y := by
  obtain ⟨d, cells⟩ := x
  obtain ⟨d', cells'⟩ := y
  have hpart : ∀ place, Shape.Inside (cells.shape.drop 3) place → ∃ u u', cells.select? 3 place = some u ∧
      cells'.select? 3 place = some u' ∧ (⟨d, u⟩ : Volume α) = ⟨d', u'⟩ := by
    intro place hplace
    obtain ⟨u, hu⟩ := Tensor.exists_select? hplace
    have hplace' : Shape.Inside (cells'.shape.drop 3) place := (congrArg (List.drop 3) hshape) ▸ hplace
    obtain ⟨u', hu'⟩ := Tensor.exists_select? hplace'
    have hsame := h place hplace
    rw [part?, part?, hu, hu'] at hsame
    exact ⟨u, u', hu, hu', Option.some.inj hsame⟩
  obtain ⟨_, _, -, -, hsame⟩ := hpart place hplace
  obtain rfl : d = d' := congrArg dtype hsame
  refine congrArg (mk d) (Tensor.ext_parts 3 hshape fun place hplace => ?_)
  obtain ⟨u, u', hu, hu', hsame⟩ := hpart place hplace
  cases hsame
  rw [hu, hu']

section Series

variable [Scalar α] [LinearSolver α] {x y : Volume α} {input reference : Grid α} {o : ReslicingOptions α}

theorem resliceArray_eq_ok [Capacity] : resliceArray x input (some reference) o = .ok y ↔ ∃ v t,
    o.view x input (some reference) = .ok v ∧ v.values o.vectorize = .ok t ∧ View.store t o.dtype = .ok y := by
  unfold resliceArray
  rw [bind_eq_ok]
  simp only [ReslicingOptions.evaluate_eq, bind_eq_ok]
  constructor
  · rintro ⟨v, hv, t, ht, hy⟩
    exact ⟨v, t, hv, ht, hy⟩
  · rintro ⟨v, t, hv, ht, hy⟩
    exact ⟨v, hv, t, ht, hy⟩

omit [LinearSolver α] in
theorem View.shape_store {dtype : Literal α} {t : Tensor α} (hy : store t dtype = .ok y) : y.shape = t.shape := by
  obtain ⟨f, hf⟩ | ⟨d, g, hg⟩ := store_cases dtype
  · rw [hf] at hy
    cases hy
  · rw [hg] at hy
    obtain ⟨cells, hcells, rfl⟩ := map_eq_ok.1 hy
    exact (Tensor.mapM_eq_pure_iff.1 hcells).1

omit [LinearSolver α] in
/-- **What is stored of a part** is the part of what is stored. -/
theorem View.part?_store {dtype : Literal α} {t u : Tensor α} {place : List Nat} (hy : store t dtype = .ok y)
    (hplace : Shape.Inside (t.shape.drop 3) place) (hu : t.select? 3 place = some u) :
    ∃ z, store u dtype = .ok z ∧ y.part? place = some z := by
  obtain ⟨f, hf⟩ | ⟨d, g, hg⟩ := store_cases dtype
  · rw [hf] at hy
    cases hy
  · rw [hg] at hy
    obtain ⟨cells, hcells, rfl⟩ := map_eq_ok.1 hy
    obtain ⟨u', hu', hmap⟩ := Tensor.select?_mapM hcells hplace hu
    refine ⟨⟨d, u'⟩, (hg u).trans (map_eq_ok.2 ⟨u', hmap, rfl⟩), ?_⟩
    rw [Volume.part?, hu']
    rfl

omit [LinearSolver α] in
/-- **Values can be stored** if those of all parts can, of which there is one. -/
theorem View.exists_store {dtype : Literal α} {t : Tensor α} {first : List Nat}
    (hfirst : Shape.Inside (t.shape.drop 3) first) (h : ∀ place, Shape.Inside (t.shape.drop 3) place →
      ∃ u z, t.select? 3 place = some u ∧ store u dtype = .ok z) : ∃ y, store t dtype = .ok y := by
  obtain ⟨f, hf⟩ | ⟨d, g, hg⟩ := store_cases dtype
  · obtain ⟨u, z, -, hz⟩ := h first hfirst
    rw [hf] at hz
    cases hz
  · obtain ⟨cells, hcells⟩ : ∃ cells, t.mapM g = .ok cells := by
      refine Tensor.exists_mapM_of_parts 3 fun place hplace => ?_
      obtain ⟨u, z, hu, hz⟩ := h place hplace
      rw [hg] at hz
      obtain ⟨u', hu', -⟩ := map_eq_ok.1 hz
      exact ⟨u, u', hu, hu'⟩
    exact ⟨⟨d, cells⟩, (hg t).trans (map_eq_ok.2 ⟨cells, hcells, rfl⟩)⟩

variable [Capacity]

theorem View.series_of_ofVolume {v : View α} (h : o.view x input (some reference) = .ok v) :
    v.extent.series = x.shape.drop 3 := by
  obtain ⟨-, hshape⟩ := toShape_of_ofVolume h
  exact List.append_cancel_left hshape

variable [Scalar.Lawful α]

/-- **The parts of a resliced series** are its resliced parts. -/
theorem part?_resliceArray (h : resliceArray x input (some reference) o = .ok y) :
    (Shape.reserve (reference.extent.spatial.toList ++ x.shape.drop 3) : Except (Fault α) Unit) = .ok () ∧
    y.shape = reference.extent.spatial.toList ++ x.shape.drop 3 ∧
    ∀ place, Shape.Inside (x.shape.drop 3) place → ∃ part z, x.part? place = some part ∧
      resliceArray part input.spatial (some reference.spatial) o = .ok z ∧ y.part? place = some z := by
  obtain ⟨v, t, hv, ht, hy⟩ := resliceArray_eq_ok.1 h
  obtain ⟨hreference, hextent⟩ := View.toShape_of_ofVolume hv
  rw [← Option.some.inj hreference] at hextent
  have hshape : t.shape = reference.extent.spatial.toList ++ x.shape.drop 3 := (View.shape_of_values ht).trans hextent
  have hdrop : t.shape.drop 3 = x.shape.drop 3 := by
    rw [hshape]
    exact List.drop_left' Vector.length_toList
  refine ⟨hextent ▸ View.reserve_of_values ht, (View.shape_store hy).trans hshape, fun place hplace => ?_⟩
  obtain ⟨cells, hcells⟩ := Tensor.exists_select? hplace
  have hpart : x.part? place = some ⟨x.dtype, cells⟩ := by
    rw [Volume.part?, hcells]
    rfl
  obtain ⟨v', hv', hispart⟩ := View.ofVolume_part hplace hpart hv
  obtain ⟨u, hu, hselect⟩ := hispart.values_eq ht
  obtain ⟨z, hz, hypart⟩ := View.part?_store hy (hdrop ▸ hplace) hselect
  exact ⟨_, z, hpart, resliceArray_eq_ok.2 ⟨v', u, hv', hu, hz⟩, hypart⟩

/-- **A series can be resliced** if all its parts can and there is room for it. -/
theorem exists_resliceArray (hshape : input.shape = x.shape) (hpositive : ∀ n ∈ x.shape, 0 < n)
    (hroom : (Shape.reserve (reference.extent.spatial.toList ++ x.shape.drop 3) : Except (Fault α) Unit) = .ok ())
    (h : ∀ place, Shape.Inside (x.shape.drop 3) place → ∃ part z, x.part? place = some part ∧
      resliceArray part input.spatial (some reference.spatial) o = .ok z) :
    ∃ y, resliceArray x input (some reference) o = .ok y := by
  have hparts : ∀ place, Shape.Inside (x.shape.drop 3) place → ∃ part v' u z, x.part? place = some part ∧
      o.view part input.spatial (some reference.spatial) = .ok v' ∧ v'.values o.vectorize = .ok u ∧
      View.store u o.dtype = .ok z := by
    intro place hplace
    obtain ⟨part, z, hpart, hz⟩ := h place hplace
    obtain ⟨v', u, hv', hu, hz⟩ := resliceArray_eq_ok.1 hz
    exact ⟨part, v', u, z, hpart, hv', hu, hz⟩
  obtain ⟨v, hv⟩ : ∃ v, o.view x input (some reference) = .ok v := by
    refine View.exists_ofVolume hshape hpositive fun place hplace => ?_
    obtain ⟨part, v', -, -, hpart, hv', -⟩ := hparts place hplace
    exact ⟨part, v', hpart, hv'⟩
  have hviews : ∀ place, Shape.Inside (x.shape.drop 3) place → ∃ v' u z, v.IsPart place v' ∧
      v'.values o.vectorize = .ok u ∧ View.store u o.dtype = .ok z := by
    intro place hplace
    obtain ⟨part, v', u, z, hpart, hv', hu, hz⟩ := hparts place hplace
    obtain ⟨w, hw, hispart⟩ := View.ofVolume_part hplace hpart hv
    obtain rfl : v' = w := Except.ok.inj (hv'.symm.trans hw)
    exact ⟨v', u, z, hispart, hu, hz⟩
  obtain ⟨hreference, hextent⟩ := View.toShape_of_ofVolume hv
  rw [← Option.some.inj hreference] at hextent
  obtain ⟨t, ht⟩ : ∃ t, v.values o.vectorize = .ok t := by
    refine View.exists_values (hextent ▸ hroom) o.vectorize fun place hplace => ?_
    rw [View.series_of_ofVolume hv] at hplace
    obtain ⟨v', u, -, hispart, hu, -⟩ := hviews place hplace
    exact ⟨v', u, hispart, hu⟩
  have hdrop : t.shape.drop 3 = x.shape.drop 3 := by
    rw [View.shape_of_values ht, hextent]
    exact List.drop_left' Vector.length_toList
  obtain ⟨y, hy⟩ : ∃ y, View.store t o.dtype = .ok y := by
    refine View.exists_store (hdrop ▸ Shape.inside_drop_zeros hpositive 3) fun place hplace => ?_
    obtain ⟨v', u, z, hispart, hu, hz⟩ := hviews place (hdrop ▸ hplace)
    obtain ⟨u', hu', hselect⟩ := hispart.values_eq ht
    obtain rfl : u = u' := Except.ok.inj (hu.symm.trans hu')
    exact ⟨u, z, hselect, hz⟩
  exact ⟨y, resliceArray_eq_ok.2 ⟨v, t, hv, ht, hy⟩⟩

/-- **A series is resliced one part at a time**, by a cursor and block by block. -/
theorem resliceArray_eq_ok_iff_parts (hshape : input.shape = x.shape) (hpositive : ∀ n ∈ x.shape, 0 < n) :
    resliceArray x input (some reference) o = .ok y ↔
      (Shape.reserve (reference.extent.spatial.toList ++ x.shape.drop 3) : Except (Fault α) Unit) = .ok () ∧
      y.shape = reference.extent.spatial.toList ++ x.shape.drop 3 ∧
      ∀ place, Shape.Inside (x.shape.drop 3) place → ∃ part z, x.part? place = some part ∧
        resliceArray part input.spatial (some reference.spatial) o = .ok z ∧ y.part? place = some z := by
  refine ⟨part?_resliceArray, fun ⟨hroom, hyshape, hparts⟩ => ?_⟩
  obtain ⟨y', hy'⟩ := exists_resliceArray hshape hpositive hroom fun place hplace => by
    obtain ⟨part, z, hpart, hz, -⟩ := hparts place hplace
    exact ⟨part, z, hpart, hz⟩
  obtain ⟨-, hyshape', hparts'⟩ := part?_resliceArray hy'
  have hdrop : y.shape.drop 3 = x.shape.drop 3 := by
    rw [hyshape]
    exact List.drop_left' Vector.length_toList
  have hsame : y = y' := by
    refine Volume.ext_parts (hyshape.trans hyshape'.symm) (hdrop ▸ Shape.inside_drop_zeros hpositive 3)
      fun place hplace => ?_
    rw [hdrop] at hplace
    obtain ⟨part, z, hpart, hz, hy⟩ := hparts place hplace
    obtain ⟨part', z', hpart', hz', hy'⟩ := hparts' place hplace
    obtain rfl : part = part' := Option.some.inj (hpart.symm.trans hpart')
    rw [hy, hy', Except.ok.inj (hz.symm.trans hz')]
  rw [hsame, hy']

end Series
open Exact RealMatrix View in
/-- **A series of two voxels**, of which a spline is made. -/
theorem resliceArray_series_of_two :
    let x : Volume Exact := ⟨.real .double, Tensor.build [1, 1, 1, 2] fun index =>
      if index = [0, 0, 0, 0] then finite 3 else .nan⟩
    let input : Grid Exact := ⟨⟨triple 1 1 1, [2]⟩, [1, 1, 1, 1], affine 1⟩
    let o : ReslicingOptions Exact := ⟨.null, .number (.int 3), .number (.int 1), .null, .null, true⟩
    ∃ y, resliceArray x input (some View.unitGrid) o = .ok y ∧ y.shape = [1, 1, 1, 2] ∧
      ∀ place, Shape.Inside [2] place → ∃ part z, x.part? place = some part ∧
        resliceArray part input.spatial (some View.unitGrid.spatial) o = .ok z ∧ y.part? place = some z := by
  intro x input o
  obtain ⟨source, hsource, -⟩ := Source.exists_ofKernel x.cells .cubic
  have horder : Kernel.ofLiteral (.number (.int 3) : Literal Exact) = .ok .cubic := by
    have hdegree : Kernel.ofDegree? (Number.toScalar (.int 3) : Exact) = some .cubic := by
      simp only [Kernel.ofDegree?, Number.toScalar, ofInt_eq, ofNat_eq, finite_beq]
      norm_num
    rw [Kernel.ofLiteral, hdegree]
  have hplan : OversamplingPlan.plan (affine 1) (.number (.int 1)) = .ok .single := by
    rw [OversamplingPlan.plan, if_pos (by rfl), OversamplingPlan.ofRequest_one]
  let v : View Exact := ⟨⟨x, input.extent, source, none, some input, .text ""⟩, View.unitGrid, affine 1, .single⟩
  have hview : o.view x input (some View.unitGrid) = .ok v :=
    View.ofVolume_affine rfl rfl (A := 1) (by simp) rfl ofLiteral_null rfl horder hsource hplan fun h => by cases h
  have hinput : input.shape = x.shape := rfl
  have hpositive : ∀ n ∈ x.shape, 0 < n := by decide
  have hy := resliceArray_eq_build hpositive (.inl rfl) rfl hview rfl
  obtain ⟨-, hshape, hparts⟩ := (resliceArray_eq_ok_iff_parts hinput hpositive).1 hy
  exact ⟨_, hy, hshape, hparts⟩

end Regrid
