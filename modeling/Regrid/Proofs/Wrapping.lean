import Mathlib
import Regrid.Proofs.Parts
import Regrid.Proofs.RegularGrids
import Regrid.Proofs.Worlds
/-!
# Wrapping — a volume that is wrapped before it is viewed

A view wraps its volume in a sampler that knows the grid of the volume.  If the volume is wrapped beforehand, the grid
is given to the view alone.  Both ways show the same volume on the same lattice, or fail alike.  But a view takes the
voxel sizes of the series from its sampler, and a sampler without a grid answers one (`View.ofWrapped_agrees`).
-/
namespace Regrid

variable {α : Type} [Scalar α]

omit [Scalar α] in
theorem Extent.atAxis_natCast {β : Type} {xs : List β} {axis : Nat} {x : β} (h : xs[axis]? = some x) :
    (atAxis xs axis : Except (Fault α) β) = .ok x := by
  have hless : axis < xs.length := (List.getElem?_eq_some_iff.1 h).1
  have haxis : Shape.axis? xs.length axis = some axis := by
    rw [Shape.axis?, if_pos (Int.natCast_nonneg axis), if_pos (Int.ofNat_lt.2 hless), Int.toNat_natCast]
  rw [atAxis, haxis, Option.bind_some, h]

theorem Tensor.list_mapM_range {ε β : Type} {f : Nat → Except ε β} {xs : List β}
    (h : ∀ i x, xs[i]? = some x → f i = .ok x) : (List.range xs.length).mapM f = .ok xs := by
  refine list_mapM_eq_pure_iff.2 (List.forall₂_iff_get.2 ⟨List.length_range, fun i hrange hi => ?_⟩)
  rw [List.get_eq_getElem, List.getElem_range]
  exact h i _ (List.getElem?_eq_getElem hi)

namespace Sampler

variable {volume : Volume α} {grid : Grid α}

/-- **The same sampler without a grid.** -/
def bare (s : Sampler α) : Sampler α := { s with grid := none }

theorem make_bare (kernel : Kernel) (fallback : Option (Literal α)) (hshape : grid.shape = volume.shape) :
    make kernel volume fallback none .null = bare <$> make kernel volume fallback (some grid) .null := by
  unfold make
  cases Extent.ofShape? volume.shape with
  | none => rfl
  | some extent =>
    simp only [hshape, ne_eq, not_true_eq_false, if_false]
    cases Source.ofKernel volume kernel <;> rfl

end Sampler

namespace View

/-- **The same view of a sampler without a grid.** -/
def bare (v : View α) : View α := { v with sampler := v.sampler.bare }

/-- **Two outcomes show the same lattice**: the same fault, or views with the same sizes, reference, mapping and plan,
which begin at the same place and have the same value everywhere. -/
def SameLattice : Except (Fault α) (View α) → Except (Fault α) (View α) → Prop
  | .ok v, .ok w => v.extent = w.extent ∧ (∀ axis, v.size axis = w.size axis) ∧ v.reference = w.reference ∧
      v.mapping = w.mapping ∧ v.plan = w.plan ∧ v.start = w.start ∧ ∀ c, v.valueAt c = w.valueAt c
  | .error e, .error f => e = f
  | _, _ => False

theorem sameLattice_bare (x : Except (Fault α) (View α)) : SameLattice x (bare <$> x) := by
  cases x with
  | error f => exact rfl
  | ok v => exact ⟨rfl, fun _ => rfl, rfl, rfl, rfl, rfl, fun _ => rfl⟩

section Spacing

variable {v : View α} {input : Grid α} (hreference : v.reference.Regular) (hextent : v.sampler.extent = input.extent)
  (hinput : input.Regular)

include hreference hextent hinput

/-- **The voxel sizes of a view** are those of its reference, and for its series those that the sampler answers. -/
theorem spacing_eq {series : List α} (hlength : series.length = (input.spacing.drop 3).length)
    (hseries : ∀ (i : Nat) (x : α), series[i]? = some x → v.sampler.voxelSize ((i + 3 : Nat) : Int) = .ok x) :
    v.spacing = .ok (v.reference.spacing.take 3 ++ series) := by
  have hspatial : (v.reference.spacing.take 3).length = 3 := by
    rw [List.length_take, min_eq_left (hreference.axes.trans_eq hreference.spacing.symm)]
  have hthree : 3 ≤ input.spacing.length := hinput.axes.trans_eq hinput.spacing.symm
  have haxes : v.extent.axes = (v.reference.spacing.take 3 ++ series).length := by
    have hinputAxes : v.extent.axes = input.spacing.length := by
      rw [hinput.spacing, Grid.shape, Extent.length_toShape, ← hextent]
      rfl
    rw [hinputAxes, List.length_append, hspatial, hlength, List.length_drop]
    omega
  unfold spacing
  rw [haxes]
  refine Tensor.list_mapM_range fun i x hx => ?_
  unfold voxelSize
  by_cases hi : i < 3
  · rw [List.getElem?_append_left (hi.trans_eq hspatial.symm)] at hx
    rw [if_pos (by omega)]
    exact Extent.atAxis_natCast hx
  · rw [List.getElem?_append_right (by omega), hspatial] at hx
    have hplace := hseries (i - 3) x hx
    rw [Nat.sub_add_cancel (not_lt.1 hi)] at hplace
    rwa [if_neg (by omega)]

theorem spacing_of_grid (hgrid : v.sampler.grid = some input) :
    v.spacing = .ok (v.reference.spacing.take 3 ++ input.spacing.drop 3) := by
  refine spacing_eq hreference hextent hinput rfl fun i x hx => ?_
  rw [List.getElem?_drop, Nat.add_comm] at hx
  rw [Sampler.voxelSize, hgrid]
  exact Extent.atAxis_natCast hx

theorem spacing_of_bare (hgrid : v.sampler.grid = none) :
    v.spacing = .ok (v.reference.spacing.take 3 ++ List.replicate (input.spacing.drop 3).length 1) := by
  refine spacing_eq hreference hextent hinput List.length_replicate fun i x hx => ?_
  obtain rfl := List.eq_of_mem_replicate (List.mem_of_getElem? hx)
  rw [Sampler.voxelSize, hgrid]

end Spacing

variable [LinearSolver α]

/-- **A view of a volume that is wrapped beforehand**, when nothing is known of its grid. -/
def ofWrapped [Capacity] (volume : Volume α) (inputGrid reference : Option (Grid α))
    (transform oversample order : Literal α) (fallback : Option (Literal α)) : Except (Fault α) (View α) := do
  let sampler ← Sampler.make (← Kernel.ofLiteral order) volume fallback none .null
  ofSampler sampler inputGrid reference transform oversample

theorem ofSampler_bare [Capacity] {sampler : Sampler α} {input : Grid α} (hshape : input.shape = sampler.volume.shape)
    (reference : Grid α) (transform oversample : Literal α) :
    ofSampler sampler.bare (some input) (some reference) transform oversample =
      bare <$> ofSampler sampler (some input) (some reference) transform oversample := by
  have hshape' : input.shape = sampler.bare.volume.shape := hshape
  rw [ofSampler_eq hshape', ofSampler_eq hshape, map_bind]
  refine bind_congr fun mapping => ?_
  rw [map_bind]
  refine bind_congr fun plan => ?_
  cases plan.active with
  | false => rfl
  | true => cases (Shape.reserveLattice plan.factors.toList : Except (Fault α) Unit) <;> rfl

/-- **A volume that is wrapped beforehand** gives the same view, or the same fault, but its sampler has no grid. -/
theorem ofWrapped_eq [Capacity] {volume : Volume α} {input reference : Grid α} (hshape : input.shape = volume.shape)
    (transform oversample order : Literal α) (fallback : Option (Literal α)) :
    ofWrapped volume (some input) (some reference) transform oversample order fallback =
      bare <$> ofVolume volume (some input) (some reference) transform oversample order fallback := by
  unfold ofWrapped ofVolume
  simp only [pure_bind, map_bind]
  refine bind_congr fun kernel => ?_
  rw [Sampler.make_bare kernel fallback hshape]
  cases hs : Sampler.make kernel volume fallback (some input) .null with
  | error f => rfl
  | ok sampler =>
    have hvolume : input.shape = sampler.volume.shape := by
      obtain ⟨_, _, -, hgrid, -, rfl⟩ := Sampler.make_eq_ok.1 hs
      exact hgrid input rfl
    exact ofSampler_bare hvolume reference transform oversample

section Series

open Exact RealMatrix

/-- **A series of one voxel.** -/
def seriesOfOne : Volume Exact := ⟨.real .double, Tensor.build [1, 1, 1, 1] fun _ => finite 1⟩

/-- **The grid of a series** whose voxels are two units apart. -/
noncomputable def seriesGrid : Grid Exact := ⟨⟨triple 1 1 1, [1]⟩, [1, 1, 1, 2], affine 1⟩

theorem regular_seriesGrid : seriesGrid.Regular :=
  ⟨by decide, by decide, rfl, by simp [seriesGrid, ofNat_eq]⟩

theorem regular_unitGrid : unitGrid.Regular :=
  ⟨by decide, by decide, rfl, by simp [unitGrid, ofNat_eq]⟩

/-- **Two rows of two voxels** that tell their indices. -/
noncomputable def seriesOfRows : Volume Exact :=
  ⟨.real .double, Tensor.build [2, 1, 1, 2] fun index =>
    finite ((10 * (index[0]?).getD 0 + (index[3]?).getD 0 : ℕ) : ℝ)⟩

/-- **The grid of two rows** that are two units apart. -/
noncomputable def rowsGrid : Grid Exact := ⟨⟨triple 2 1 1, [2]⟩, [1, 1, 1, 2], affine 1⟩

theorem regular_rowsGrid : rowsGrid.Regular :=
  ⟨by decide, by decide, rfl, by simp [rowsGrid, ofNat_eq]⟩

theorem regular_rowGrid : (rowGrid 2).Regular :=
  ⟨by decide, by decide, rfl, by simp [rowGrid, ofNat_eq]⟩

/-- **The view of a volume in its own world**, without a fallback and one sample per voxel. -/
noncomputable def aligned (volume : Volume Exact) (input reference : Grid Exact) : View Exact :=
  ⟨⟨volume, input.extent, .nearest, none, some input, .text ""⟩, reference, affine 1, .single⟩

section Aligned

variable [Capacity] {volume : Volume Exact} {input reference : Grid Exact} (hshape : input.shape = volume.shape)
  (hinput : input.transform = affine 1) (hreference : reference.transform = affine 1)

include hshape hinput hreference

theorem ofVolume_aligned : ofVolume volume (some input) (some reference) .null (.number (.int 1)) (.number (.int 0))
    none = .ok (aligned volume input reference) := by
  have horder : Kernel.ofLiteral (.number (.int 0) : Literal Exact) = .ok .nearest := by
    simp [Kernel.ofLiteral, Kernel.ofDegree?, Number.toScalar]
  have hplan : OversamplingPlan.plan (affine 1) (.number (.int 1)) = .ok .single := by
    rw [OversamplingPlan.plan, if_pos (by rfl), OversamplingPlan.ofRequest_one]
  have hproduct : (1 : RealMatrix 4 4) * 1 = 1 * 1 := rfl
  exact ofVolume_affine hshape hinput (by simp) hreference ofLiteral_null hproduct horder rfl hplan fun h => by cases h

theorem ofWrapped_aligned : ofWrapped volume (some input) (some reference) .null (.number (.int 1)) (.number (.int 0))
    none = .ok (aligned volume input reference).bare := by
  rw [ofWrapped_eq hshape, ofVolume_aligned hshape hinput hreference]
  rfl

end Aligned

theorem valueAt_seriesOfRows {i k : ℕ} (hi : i < 2) (hk : k < 2) :
    (aligned seriesOfRows rowsGrid (rowGrid 2)).valueAt (.ofVoxel [i, 0, 0, k]) =
      .ok (.cell ⟨.real .double, finite ((10 * i + k : ℕ) : ℝ)⟩) := by
  have hinside : Shape.Inside rowsGrid.extent.spatial.toList (triple i 0 0).toList :=
    .cons hi (.cons one_pos (.cons one_pos .nil))
  have hplace : Shape.Inside rowsGrid.extent.series [k] := .cons hk .nil
  have hroom : (Shape.reserve rowsGrid.shape : Except (Fault Exact) Unit) = .ok () := rfl
  have hcountable : Countable [i, 0, 0, k] := (hinside.append hplace).lt_countless hroom
  have htarget : (aligned seriesOfRows rowsGrid (rowGrid 2)).target [i, 0, 0, k] = centre (triple i 0 0) := by
    rw [target, show ([i, 0, 0, k] : List ℕ) = (triple i 0 0).toList ++ [k] from rfl, point_append, centre]
    exact (apply_affine 1 _).trans (congrArg Exact.point (act_one _))
  have hcell : seriesOfRows.cell? ((triple i 0 0).toList ++ [k]) = some (finite ((10 * i + k : ℕ) : ℝ)) :=
    Tensor.get?_build (hinside.append hplace) _
  have hread : (aligned seriesOfRows rowsGrid (rowGrid 2)).sampler.valueAt ([k].map fun n : Nat => .number (.int n))
      (centre (triple i 0 0)) = .ok (.cell ⟨.real .double, finite ((10 * i + k : ℕ) : ℝ)⟩, true) :=
    Sampler.valueAt_centre_of_cell hinside hplace hcell
  rw [valueAt_of_inactive rfl hcountable, htarget]
  exact congrArg (fun x : Except (Fault Exact) (Reading Exact × Bool) => do return (← x).1) hread

/-- **The voxel sizes of a series** depend on what wraps its volume. -/
theorem spacing_seriesOfOne : seriesGrid.Regular ∧ unitGrid.Regular ∧ seriesGrid.shape = seriesOfOne.shape ∧
    ∃ v w, ofVolume seriesOfOne (some seriesGrid) (some unitGrid) .null (.number (.int 1)) (.number (.int 0)) none =
        .ok v ∧
      ofWrapped seriesOfOne (some seriesGrid) (some unitGrid) .null (.number (.int 1)) (.number (.int 0)) none =
        .ok w ∧
      v.spacing ≠ w.spacing := by
  refine ⟨regular_seriesGrid, regular_unitGrid, rfl, aligned seriesOfOne seriesGrid unitGrid,
    (aligned seriesOfOne seriesGrid unitGrid).bare, ofVolume_aligned rfl rfl rfl, ofWrapped_aligned rfl rfl rfl,
    fun h => ?_⟩
  rw [spacing_of_grid regular_unitGrid rfl regular_seriesGrid rfl,
    spacing_of_bare regular_unitGrid rfl regular_seriesGrid rfl, Except.ok.injEq] at h
  have hsame : ([2] : List Exact) = [1] := List.append_cancel_left h
  simp only [ofNat_eq, List.cons.injEq, finite.injEq] at hsame
  norm_num at hsame

end Series

/-- **Wrapping a volume beforehand or not.**  Both ways fail with the same fault, or show the same sizes, transform,
mapping, plan and values everywhere.  The voxel sizes along the spatial axes are those of the reference both times.
Along the axes of the series they are those of the grid of the volume if the view wraps it, but one if it was wrapped
beforehand: so they are the same exactly if the grid has only ones there. -/
theorem ofWrapped_agrees [Capacity] (volume : Volume α) {input reference : Grid α} (hinput : input.Regular)
    (hreference : reference.Regular) (hshape : input.shape = volume.shape) (transform oversample order : Literal α)
    (fallback : Option (Literal α)) :
    SameLattice (ofVolume volume (some input) (some reference) transform oversample order fallback)
      (ofWrapped volume (some input) (some reference) transform oversample order fallback) ∧
    ∀ v w, ofVolume volume (some input) (some reference) transform oversample order fallback = .ok v →
      ofWrapped volume (some input) (some reference) transform oversample order fallback = .ok w →
      v.spacing = .ok (reference.spacing.take 3 ++ input.spacing.drop 3) ∧
      w.spacing = .ok (reference.spacing.take 3 ++ List.replicate (input.spacing.drop 3).length 1) ∧
      (v.spacing = w.spacing ↔ ∀ x ∈ input.spacing.drop 3, x = 1) := by
  rw [ofWrapped_eq hshape]
  refine ⟨sameLattice_bare _, fun v w hv hw => ?_⟩
  rw [hv] at hw
  cases hw
  obtain ⟨input', kernel, sampler, hinput', -, hsampler, hview⟩ := ofVolume_eq_ok.1 hv
  cases hinput'
  obtain ⟨hgiven, hmade, -⟩ := ofSampler_eq_ok.1 hview
  obtain ⟨extent, source, hextent, -, -, rfl⟩ := Sampler.make_eq_ok.1 hsampler
  cases hgiven
  have hsame : v.sampler.extent = input.extent := by
    have hread : Extent.ofShape? volume.shape = some input.extent := by
      rw [← hshape]
      exact Extent.ofShape?_toShape _
    rw [hmade]
    exact Option.some.inj (hextent.symm.trans hread)
  have hwrapped := spacing_of_grid hreference hsame hinput (by rw [hmade])
  have hbare := spacing_of_bare (v := v.bare) hreference hsame hinput rfl
  refine ⟨hwrapped, hbare, ?_⟩
  rw [hwrapped, hbare, Except.ok.injEq]
  change v.reference.spacing.take 3 ++ _ = v.reference.spacing.take 3 ++ _ ↔ _
  rw [List.append_cancel_left_eq, List.eq_replicate_iff]
  exact ⟨fun h => h.2, fun h => ⟨rfl, h⟩⟩

open Exact RealMatrix in
/-- **Two rows of voxels** show the same values in both ways, and different voxel sizes. -/
theorem ofWrapped_agrees_rows : ∃ v w,
    ofVolume seriesOfRows (some rowsGrid) (some (rowGrid 2)) .null (.number (.int 1)) (.number (.int 0)) none = .ok v ∧
    ofWrapped seriesOfRows (some rowsGrid) (some (rowGrid 2)) .null (.number (.int 1)) (.number (.int 0)) none = .ok w ∧
    (∀ i k : ℕ, i < 2 → k < 2 →
      v.valueAt (.ofVoxel [i, 0, 0, k]) = .ok (.cell ⟨.real .double, finite ((10 * i + k : ℕ) : ℝ)⟩) ∧
      w.valueAt (.ofVoxel [i, 0, 0, k]) = .ok (.cell ⟨.real .double, finite ((10 * i + k : ℕ) : ℝ)⟩)) ∧
    v.spacing = .ok [1, 1, 1, 2] ∧ w.spacing = .ok [1, 1, 1, 1] := by
  have hv : _ = Except.ok (aligned seriesOfRows rowsGrid (rowGrid 2)) := ofVolume_aligned rfl rfl rfl
  have hw : _ = Except.ok (aligned seriesOfRows rowsGrid (rowGrid 2)).bare := ofWrapped_aligned rfl rfl rfl
  obtain ⟨hsame, hspacing⟩ := ofWrapped_agrees seriesOfRows regular_rowsGrid regular_rowGrid rfl .null
    (.number (.int 1)) (.number (.int 0)) none
  rw [hv, hw] at hsame
  obtain ⟨-, -, -, -, -, -, hvalues⟩ := hsame
  obtain ⟨hwrapped, hbare, -⟩ := hspacing _ _ hv hw
  refine ⟨_, _, hv, hw, fun i k hi hk => ?_, hwrapped, hbare⟩
  rw [← hvalues, and_self]
  exact valueAt_seriesOfRows hi hk

end View

end Regrid
