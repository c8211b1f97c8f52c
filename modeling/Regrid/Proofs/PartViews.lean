import Mathlib
import Regrid.Proofs.Drivers
import Regrid.Proofs.Parts
/-!
# PartViews — what is seen of one volume of a series

The view of a part of a series reads what the view of the whole reads at its place (`View.IsPart.readAt_eq`,
`View.IsPart.blockAt_eq`), and a series can be viewed exactly if its parts can (`View.ofVolume_part`,
`View.exists_ofVolume`).  Spline coefficients of a part are those of the whole, since each line that is filtered lies
in one part.
-/
namespace Regrid

variable {α : Type}

theorem Tensor.get?_of_select? {β : Type} {t u : Tensor β} {place : List Nat}
    (hplace : Shape.Inside (t.shape.drop 3) place) (hu : t.select? 3 place = some u) (voxel : Vector Nat 3) :
    u.get? (voxel.toList ++ []) = t.get? (voxel.toList ++ place) := by
  obtain ⟨hshape, hget⟩ := (select?_eq_some_iff hplace).1 hu
  rw [List.append_nil]
  by_cases hvoxel : Shape.Inside (t.shape.take 3) voxel.toList
  · exact hget _ hvoxel
  · rw [get?_eq_none (hshape ▸ hvoxel), get?_eq_none]
    intro hinside
    have htake := (hinside.take_drop 3).1
    rw [List.take_left' Vector.length_toList] at htake
    exact hvoxel htake

/-- **The part of a volume** at a place of its series. -/
def Volume.part? (x : Volume α) (place : List Nat) : Option (Volume α) :=
  (x.cells.select? 3 place).map (⟨x.dtype, ·⟩)

/-- **A grid without the axes of a series.** -/
def Grid.spatial (g : Grid α) : Grid α := ⟨⟨g.extent.spatial, []⟩, g.spacing.take 3, g.transform⟩

/-- **A source is that of a part** of a volume. -/
def Source.IsPart (place : List Nat) : Source α → Source α → Prop
  | nearest, nearest | linear, linear => True
  | cubic c, cubic c' => Shape.Inside (c.shape.drop 3) place ∧ c.select? 3 place = some c'
  | _, _ => False

namespace Sampler

/-- **A sampler is that of a part** of a volume: it has the same kernel and the same fallback. -/
structure IsPart (s : Sampler α) (place : List Nat) (s' : Sampler α) : Prop where
  shape : s.volume.shape = s.extent.toShape
  inside : Shape.Inside s.extent.series place
  volume : s.volume.part? place = some s'.volume
  extent : s'.extent = ⟨s.extent.spatial, []⟩
  source : s.source.IsPart place s'.source
  fallback : s'.fallback = s.fallback

variable [Scalar α] {s s' : Sampler α} {place : List Nat}

/-- **What a sampler reads at a place**: the type of its values, and a value or a fault at each position. -/
def readings (s : Sampler α) (last : List Nat) : (d : Dtype) × (Point α → Except (Fault α) (d.Value α)) :=
  ⟨s.dtype, s.sample last⟩

/-- **The sampler of a part** reads what that of the whole reads at the place. -/
theorem IsPart.readings_eq (h : s.IsPart place s') : s'.readings [] = s.readings place := by
  obtain ⟨⟨d, cells⟩, extent, source, fallback, grid, name⟩ := s
  obtain ⟨volume', extent', source', fallback', grid', name'⟩ := s'
  obtain ⟨hshape, hinside, hvolume, hextent, hsource, -⟩ := h
  obtain ⟨cells', hcells, rfl⟩ := Option.map_eq_some_iff.1 hvolume
  obtain rfl : extent' = ⟨extent.spatial, []⟩ := hextent
  have hplace : Shape.Inside (cells.shape.drop 3) place := by
    have hdrop : cells.shape.drop 3 = extent.series :=
      (congrArg (List.drop 3) hshape).trans (List.drop_left' Vector.length_toList)
    rwa [hdrop]
  have hget := Tensor.get?_of_select? hplace hcells
  cases source <;> cases source' <;> first | exact hsource.elim | skip
  case nearest.nearest =>
    refine congrArg (Sigma.mk d) (funext fun p => ?_)
    simp only [sample, Source.sample, Volume.cell?, hget]
    cases Kernel.nearestVoxel? extent.spatial p <;> rfl
  case linear.linear =>
    refine congrArg (Sigma.mk (Dtype.real .double)) (funext fun p => ?_)
    simp only [sample, Source.sample, Volume.cell?, hget]
    rfl
  case cubic.cubic c c' =>
    refine congrArg (Sigma.mk (Dtype.real .double)) (funext fun p => ?_)
    simp only [sample, Source.sample, Tensor.get?_of_select? hsource.1 hsource.2]
    rfl

/-- **The values at many positions**, from what is read there. -/
def valuesOf (r : (d : Dtype) × (Point α → Except (Fault α) (d.Value α))) (valid : Point α → Bool)
    (beside : Dtype → Except (Fault α) (Dtype × Volume α)) (points : Points α) : Except (Fault α) (Volume α) := do
  let read := points.map fun p => if valid p then p else Vector.replicate 3 0
  read.toList.forM fun p => match (do let _ ← r.2 p : Except (Fault α) Unit) with
    | .ok _ | .error .unsupportedOperation => .ok ()
    | .error f => .error f
  let values ← read.mapM r.2
  let (d, outside) ← beside r.1
  Volume.choose d (points.map valid) ⟨r.1, values⟩ outside

theorem valuesAt_eq (hplace : Shape.Inside s.extent.series place) (points : Points α) :
    s.valuesAt (place.map fun i : Nat => .number (.int i)) points =
      valuesOf (s.readings place) s.valid s.beside points := by
  have htried : ∀ points : Points α, s.tryWeights place points =
      points.toList.forM fun p => match (do let _ ← s.sample place p : Except (Fault α) Unit) with
        | .ok _ | .error .unsupportedOperation => .ok ()
        | .error f => .error f := by
    intro points
    unfold tryWeights
    refine congrArg points.toList.forM (funext fun p => ?_)
    cases s.sample place p with
    | ok x => rfl
    | error f => cases f <;> rfl
  unfold valuesAt valuesOf
  rw [place_of_inside hplace]
  simp only [htried, ok_bind]
  rfl

theorem IsPart.valuesAt_eq (h : s.IsPart place s') (points : Points α) :
    s'.valuesAt [] points = s.valuesAt (place.map fun i : Nat => .number (.int i)) points := by
  have hvalid : s'.valid = s.valid := by
    funext p
    rw [valid, valid, h.extent]
  have hbeside : s'.beside = s.beside := by
    obtain ⟨cells', -, hvolume⟩ := Option.map_eq_some_iff.1 h.volume
    funext d
    unfold beside
    rw [h.fallback, ← hvolume]
  have hnone : Shape.Inside s'.extent.series [] := by
    rw [h.extent]
    exact .nil
  rw [Sampler.valuesAt_eq h.inside, ← h.readings_eq, ← hvalid, ← hbeside]
  exact Sampler.valuesAt_eq hnone points

end Sampler

namespace View

/-- **A view is that of a part** of a volume, onto the same lattice and with the same plan. -/
structure IsPart (v : View α) (place : List Nat) (v' : View α) : Prop where
  sampler : v.sampler.IsPart place v'.sampler
  reference : v'.reference.extent.spatial = v.reference.extent.spatial
  mapping : v'.mapping = v.mapping
  plan : v'.plan = v.plan

variable {v v' : View α} {place : List Nat}

theorem IsPart.extent_eq (h : v.IsPart place v') : v'.extent = ⟨v.extent.spatial, []⟩ := by
  unfold extent
  rw [h.reference, h.sampler.extent]

theorem IsPart.drop_toShape (h : v.IsPart place v') : Shape.Inside (v.extent.toShape.drop 3) place := by
  have hdrop : v.extent.toShape.drop 3 = v.extent.series := List.drop_left' Vector.length_toList
  rw [hdrop]
  exact h.sampler.inside

theorem take_toShape (e : Extent) : e.toShape.take 3 = e.spatial.toList := List.take_left' Vector.length_toList

theorem IsPart.toShape_eq (h : v.IsPart place v') : v'.extent.toShape = v.extent.spatial.toList := by
  rw [h.extent_eq, Extent.toShape, List.append_nil]

variable [Scalar α]

theorem IsPart.valid_eq (h : v.IsPart place v') : v'.sampler.valid = v.sampler.valid := by
  funext p
  rw [Sampler.valid, Sampler.valid, h.sampler.extent]

/-- **The block of a part** is that of the whole at the place. -/
theorem IsPart.blockAt_eq (h : v.IsPart place v') : v'.blockAt [] = v.blockAt place := by
  have hadd : ∀ voxels : Points α, v'.addSamples [] voxels =
      v.addSamples (place.map fun i : Nat => .number (.int i)) voxels := by
    intro voxels
    funext sums offset
    simp only [addSamples, h.mapping, h.sampler.valuesAt_eq, h.valid_eq]
  have hspatial : v'.extent.spatial = v.extent.spatial := by rw [h.extent_eq]
  simp only [blockAt, averagedBlock, plainBlock, h.plan, h.mapping, hspatial, List.map_nil, hadd, h.sampler.valuesAt_eq]

section Value

variable (r : (d : Dtype) × (Point α → Except (Fault α) (d.Value α))) (valid : Point α → Bool)

/-- **The average of samples**, from what is read at their positions. -/
def averageOf (normalization : α) (points : List (Point α)) : Except (Fault α) (Reading α) := do
  let store : α → α := Scalar.narrow (sumPrecision r.1)
  let sum ← points.foldlM (fun sum p => do
    if !valid p then return sum
    let x ← r.2 p
    if ← r.1.isFinite x then return store (sum + (← r.1.convert (.real .double) x)) else return sum) 0
  return .cell ⟨.real (sumPrecision r.1), store (sum * store normalization)⟩

/-- **The value at a voxel**, from what is read at the positions that belong to it. -/
def valueOf (outside : Reading α) (plan : OversamplingPlan) (mapping : AffineTransform α) (x : Point α) :
    Except (Fault α) (Reading α) :=
  if plan.active then averageOf r valid plan.normalization ((plan.offsets.map (Point.add x)).map mapping.apply)
  else if valid (mapping.apply x) then do return .cell ⟨r.1, ← r.2 (mapping.apply x)⟩
  else .ok outside

end Value

theorem readAt_eq [Scalar.Lawful α] {voxel : List Nat} (hcount : Countable voxel)
    (hplace : Shape.Inside v.sampler.extent.series (voxel.drop 3)) : v.readAt voxel =
      valueOf (v.sampler.readings (voxel.drop 3)) v.sampler.valid v.sampler.outside v.plan v.mapping (point voxel) >>=
        Reading.toReal := by
  have haverage : ∀ points, v.average ((voxel.drop 3).map fun i : Nat => .number (.int i)) points =
      averageOf (v.sampler.readings (voxel.drop 3)) v.sampler.valid v.plan.normalization points := by
    intro points
    unfold average averageOf
    rw [Sampler.place_of_inside hplace]
    rfl
  have hvalue : v.valueAt (.ofVoxel voxel) =
      valueOf (v.sampler.readings (voxel.drop 3)) v.sampler.valid v.sampler.outside v.plan v.mapping (point voxel) := by
    unfold valueAt valueOf Sampler.valueAt
    rw [position_ofVoxel hcount, place_ofVoxel, ok_bind, haverage, Sampler.place_of_inside hplace]
    split
    · rfl
    · split
      · simp only [ok_bind, bind_assoc, pure_bind]
        rfl
      · rfl
  rw [readAt, hvalue]

/-- **A cursor on a part** reads what one on the whole reads at the place. -/
theorem IsPart.readAt_eq [Scalar.Lawful α] (h : v.IsPart place v') {voxel : List Nat}
    (hvoxel : Shape.Inside v.extent.spatial.toList voxel) (hcount : Countable (voxel ++ place)) :
    v'.readAt voxel = v.readAt (voxel ++ place) := by
  have hlength : voxel.length = 3 := by
    rw [hvoxel.length_eq, Vector.length_toList]
  have hdrop : (voxel ++ place).drop 3 = place := List.drop_left' hlength
  have hnone : voxel.drop 3 = [] := List.drop_eq_nil_of_le hlength.le
  have hpoint : (point (voxel ++ place) : Point α) = point voxel := by
    rw [← point_take (voxel ++ place), List.take_left' hlength]
  have houtside : v'.sampler.outside = v.sampler.outside := by
    obtain ⟨cells', -, hvolume⟩ := Option.map_eq_some_iff.1 h.sampler.volume
    unfold Sampler.outside
    rw [h.sampler.fallback, ← hvolume]
  rw [View.readAt_eq hcount (by rw [hdrop]; exact h.sampler.inside), hdrop, hpoint, ← h.sampler.readings_eq, ← houtside,
    ← h.valid_eq, ← h.plan, ← h.mapping, View.readAt_eq, hnone]
  · exact fun i hi => hcount i (List.mem_append_left _ hi)
  · rw [hnone, h.sampler.extent]
    exact .nil

end View

section Reslicing

variable [Scalar α] [LinearSolver α] {x part : Volume α} {place : List Nat} {input reference : Grid α}
  {transform oversample order : Literal α} {fallback : Option (Literal α)}

omit [LinearSolver α] in
theorem Source.exists_part {kernel : Kernel} {source : Source α} (haxes : 3 ≤ x.shape.length)
    (hplace : Shape.Inside (x.shape.drop 3) place) (hpart : x.part? place = some part)
    (h : ofKernel x kernel = .ok source) :
    ∃ source', ofKernel part kernel = .ok source' ∧ source.IsPart place source' := by
  obtain ⟨cells, hcells, rfl⟩ := Option.map_eq_some_iff.1 hpart
  cases kernel with
  | nearest => cases h; exact ⟨.nearest, rfl, trivial⟩
  | linear => cases h; exact ⟨.linear, rfl, trivial⟩
  | cubic =>
    obtain ⟨t, ht, h⟩ := bind_eq_ok.1 h
    cases h
    obtain ⟨u, hu, hreals⟩ := Tensor.select?_mapM ht hplace hcells
    have hshape : t.shape = x.shape := (Tensor.mapM_eq_pure_iff.1 ht).1
    refine ⟨.cubic (Spline.spatialCoefficients u), ?_, ?_, ?_⟩
    · exact bind_eq_ok.2 ⟨u, hreals, rfl⟩
    · rw [← hshape] at hplace
      exact hplace
    · rw [← hshape] at hplace haxes
      exact Spline.select?_spatialCoefficients haxes hplace hu

theorem View.ofVolume_part [Capacity] (hplace : Shape.Inside (x.shape.drop 3) place) (hpart : x.part? place = some part)
    {v : View α} (h : ofVolume x (some input) (some reference) transform oversample order fallback = .ok v) :
    ∃ v', ofVolume part (some input.spatial) (some reference.spatial) transform oversample order fallback = .ok v' ∧
      v.IsPart place v' := by
  obtain ⟨_, kernel, sampler, hg, hkernel, hsampler, hview⟩ := ofVolume_eq_ok.1 h
  cases hg
  obtain ⟨extent, source, hextent, hgrid, hsource, rfl⟩ := Sampler.make_eq_ok.1 hsampler
  obtain ⟨hreference, hs, -, hmapping, hplan, hroom⟩ := ofSampler_eq_ok.1 hview
  cases hreference
  have hshape : x.shape = extent.toShape := Extent.ofShape?_eq_some hextent
  have hinput : input.extent = extent := by
    have hsame : input.extent.toShape = extent.toShape := (hgrid input rfl).trans hshape
    have hof := Extent.ofShape?_toShape input.extent
    rw [hsame, Extent.ofShape?_toShape] at hof
    exact (Option.some.inj hof).symm
  have haxes : 3 ≤ x.shape.length := by
    rw [hshape, Extent.length_toShape, Extent.axes]
    omega
  obtain ⟨source', hsource', hispart⟩ := Source.exists_part haxes hplace hpart hsource
  have hpartShape : part.shape = (⟨extent.spatial, []⟩ : Extent).toShape := by
    obtain ⟨cells, hcells, rfl⟩ := Option.map_eq_some_iff.1 hpart
    refine ((Tensor.select?_eq_some_iff hplace).1 hcells).1.trans ?_
    rw [show x.cells.shape = extent.toShape from hshape, take_toShape, Extent.toShape, List.append_nil]
  have hgridShape : input.spatial.shape = part.shape := by
    rw [hpartShape, ← hinput]
    rfl
  refine ⟨⟨⟨part, ⟨extent.spatial, []⟩, source', fallback, some input.spatial, .text ""⟩, v.reference.spatial,
    v.mapping, v.plan⟩, ofVolume_eq_ok.2 ⟨_, kernel, _, rfl, hkernel, Sampler.make_eq_ok.2
      ⟨⟨extent.spatial, []⟩, source', ?_, ?_, hsource', rfl⟩, ofSampler_eq_ok.2
        ⟨rfl, rfl, hgridShape, hmapping, hplan, hroom⟩⟩, ⟨?_, rfl, rfl, rfl⟩⟩
  · rw [hpartShape]
    exact Extent.ofShape?_toShape _
  · rintro _ ⟨⟩
    exact hgridShape
  · rw [hs]
    refine ⟨hshape, ?_, hpart, rfl, hispart, rfl⟩
    have hdrop : x.shape.drop 3 = extent.series := by
      rw [hshape]
      exact List.drop_left' Vector.length_toList
    rwa [hdrop] at hplace

omit [LinearSolver α] in
/-- **A kernel can be applied to a volume** if it can to all its parts. -/
theorem Source.exists_of_parts {kernel : Kernel} (h : ∀ place, Shape.Inside (x.shape.drop 3) place →
    ∃ part source', x.part? place = some part ∧ ofKernel part kernel = .ok source') :
    ∃ source, ofKernel x kernel = .ok source := by
  cases kernel with
  | nearest => exact ⟨.nearest, rfl⟩
  | linear => exact ⟨.linear, rfl⟩
  | cubic =>
    obtain ⟨t, ht⟩ : ∃ t, x.toReals = .ok t := by
      refine Tensor.exists_mapM_of_parts 3 fun place hplace => ?_
      obtain ⟨part, source', hpart, hsource⟩ := h place hplace
      obtain ⟨cells, hcells, rfl⟩ := Option.map_eq_some_iff.1 hpart
      obtain ⟨u, hu, -⟩ := bind_eq_ok.1 hsource
      exact ⟨cells, u, hcells, hu⟩
    exact ⟨_, bind_eq_ok.2 ⟨t, ht, rfl⟩⟩

theorem Shape.inside_drop_zeros {s : Shape} (h : ∀ n ∈ s, 0 < n) (rank : Nat) :
    Shape.Inside (s.drop rank) (List.replicate (s.drop rank).length 0) :=
  inside_zeros fun n hn => h n (List.mem_of_mem_drop hn)

/-- **A volume can be viewed** if all its parts can. -/
theorem View.exists_ofVolume [Capacity] (hshape : input.shape = x.shape) (hpositive : ∀ n ∈ x.shape, 0 < n)
    (h : ∀ place, Shape.Inside (x.shape.drop 3) place → ∃ part v', x.part? place = some part ∧
      ofVolume part (some input.spatial) (some reference.spatial) transform oversample order fallback = .ok v') :
    ∃ v, ofVolume x (some input) (some reference) transform oversample order fallback = .ok v := by
  obtain ⟨part, v', -, hv'⟩ := h _ (Shape.inside_drop_zeros hpositive 3)
  obtain ⟨_, kernel, sampler', hg, hkernel, -, hview⟩ := ofVolume_eq_ok.1 hv'
  cases hg
  obtain ⟨hreference, -, -, hmapping, hplan, hroom⟩ := ofSampler_eq_ok.1 hview
  obtain ⟨source, hsource⟩ : ∃ source, Source.ofKernel x kernel = .ok source := by
    refine Source.exists_of_parts fun place hplace => ?_
    obtain ⟨part, v', hpart, hv'⟩ := h place hplace
    obtain ⟨_, kernel', _, -, hkernel', hsampler, -⟩ := ofVolume_eq_ok.1 hv'
    obtain ⟨_, source', -, -, hsource, -⟩ := Sampler.make_eq_ok.1 hsampler
    rw [hkernel] at hkernel'
    cases hkernel'
    exact ⟨part, source', hpart, hsource⟩
  have hextent : Extent.ofShape? x.shape = some input.extent := by
    rw [← hshape]
    exact Extent.ofShape?_toShape input.extent
  rw [← Option.some.inj hreference] at hmapping
  refine ⟨⟨⟨x, input.extent, source, fallback, some input, .text ""⟩, reference, v'.mapping, v'.plan⟩,
    ofVolume_eq_ok.2 ⟨input, kernel, _, rfl, hkernel, Sampler.make_eq_ok.2 ⟨_, source, hextent, ?_, hsource, rfl⟩,
      ofSampler_eq_ok.2 ⟨rfl, rfl, hshape, hmapping, hplan, hroom⟩⟩⟩
  rintro _ ⟨⟩
  exact hshape

end Reslicing

end Regrid
