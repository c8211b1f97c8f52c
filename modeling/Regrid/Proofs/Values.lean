import Mathlib
import Regrid.Proofs.Evaluation
/-!
# Values — the array of a reslicing, cell by cell

In exact arithmetic the array of a volume of double precision is known cell by cell (`resliceArray_eq_build`): the mean
of what is seen at the samples of a voxel, or else the estimate at its position, with the fallback outside the field of
view.
-/
namespace Regrid

open Exact RealMatrix

/-- **A fallback**: a number, or none that is given. -/
def Literal.IsFallback {α : Type} (l : Literal α) : Prop := l = .null ∨ ∃ n, l = .number n

/-- **The value outside the field of view** of a volume of real numbers: the number that is given, or else the mark for
a missing value. -/
noncomputable def Literal.outsideValue : Literal Exact → Exact
  | .number n => n.toScalar
  | _ => .nan

theorem Literal.IsFallback.exists_number {α : Type} {l : Literal α} (h : l.IsFallback) :
    ∀ l', l.given? = some l' → ∃ n, l' = .number n := by
  rintro l' hl'
  obtain rfl | ⟨n, rfl⟩ := h
  · cases hl'
  · cases hl'
    exact ⟨n, rfl⟩

theorem Sampler.merged_of_isFallback {s : Sampler Exact} {l : Literal Exact}
    (hvolume : s.volume.dtype = .real .double) (hl : l.IsFallback) (hs : s.fallback = l.given?) :
    s.merged = .ok l.outsideValue ∧ s.outside.toReal = .ok l.outsideValue := by
  have hdtype : s.dtype = .real .double := by
    obtain h | h := s.dtype_cases
    · exact h.trans hvolume
    · exact h
  unfold merged outside
  rw [hs]
  obtain rfl | ⟨n, rfl⟩ := hl
  · simp only [Literal.given?, Literal.isGiven, Bool.false_eq_true, if_false, hvolume]
    exact ⟨rfl, rfl⟩
  · cases n with
    | bool b => exact ⟨rfl, rfl⟩
    | real x =>
      simp only [Literal.given?, Literal.isGiven, if_true, hdtype]
      exact ⟨congrArg Except.ok (narrow_double x), rfl⟩
    | int k =>
      simp only [Literal.given?, Literal.isGiven, if_true, hdtype, numberDtype, ok_bind, cellOfNumber]
      refine ⟨?_, rfl⟩
      -- an integer is stored beside real numbers in two ways, by its size, which exact arithmetic does not tell apart
      split <;> rfl

theorem Sampler.estimate_congr {s s' : Sampler Exact} (hvolume : s.volume = s'.volume) (hextent : s.extent = s'.extent)
    (hsource : s.source = s'.source) (place : List Nat) (p : Point Exact) :
    s.estimate place p = s'.estimate place p := by
  obtain ⟨volume, extent, source, _, _, _⟩ := s
  obtain ⟨volume', extent', source', _, _, _⟩ := s'
  cases hvolume
  cases hextent
  cases hsource
  rw [estimate_eq_getD, estimate_eq_getD]
  rfl

theorem Extent.exists_voxel {e : Extent} {index : List Nat} (h : e.toShape.Inside index) :
    ∃ (voxel : Vector Nat 3) (place : List Nat), index = voxel.toList ++ place ∧
      Shape.Inside e.spatial.toList voxel.toList ∧ Shape.Inside e.series place := by
  obtain ⟨hspatial, hseries⟩ := Extent.inside_toShape h
  have hlength : (index.take 3).toArray.size = 3 := by
    rw [List.size_toArray, hspatial.length_eq, Vector.length_toList]
  exact ⟨⟨(index.take 3).toArray, hlength⟩, index.drop 3, (List.take_append_drop 3 index).symm, hspatial, hseries⟩

theorem Tensor.get?_build_append {β : Type} {e : Extent} {voxel : Vector Nat 3} {place : List Nat}
    (hvoxel : Shape.Inside e.spatial.toList voxel.toList) (hplace : Shape.Inside e.series place)
    (f : List Nat → List Nat → β) :
    (Tensor.build e.toShape fun index => f (index.drop 3) index).get? (voxel.toList ++ place) =
      some (f place (voxel.toList ++ place)) := by
  have hdrop : (voxel.toList ++ place).drop 3 = place := List.drop_left' Vector.length_toList
  have hinside : e.toShape.Inside (voxel.toList ++ place) := hvoxel.append hplace
  rw [Tensor.get?_build hinside, hdrop]

namespace View

variable {v : View Exact} {place : List Nat}

theorem blockValue_of_active (hactive : v.plan.active = true) (m : Exact) (voxel : List Nat) :
    v.blockValue m place voxel =
      finite (blockMean v.plan.factors.get fun step => v.seen place (v.samplePosition voxel step)) := by
  rw [blockValue, if_pos hactive, mean_eq_blockMean]

theorem blockValue_nan (hactive : v.plan.active = false) (voxel : List Nat) :
    v.blockValue .nan place voxel = v.seen place (v.target voxel) := by
  rw [blockValue_of_inactive hactive, seen]

theorem seen_congr {w : View Exact} (hvolume : v.sampler.volume = w.sampler.volume)
    (hextent : v.sampler.extent = w.sampler.extent) (hsource : v.sampler.source = w.sampler.source) (p : Point Exact) :
    v.seen place p = w.seen place p := by
  have hvalid : v.sampler.valid p = w.sampler.valid p := by
    rw [Sampler.valid, Sampler.valid, hextent]
  rw [seen, seen, hvalid, Sampler.estimate_congr hvolume hextent hsource]

theorem target_append (voxel : Vector Nat 3) (place : List Nat) :
    v.target (voxel.toList ++ place) = v.mapping.apply (centre voxel) := by
  rw [target, point_append]

end View

theorem Tensor.mapM_convert_double (t : Tensor Exact) :
    t.mapM (Dtype.convert (.real .double) (.real .double)) = (.ok t : Except (Fault Exact) (Tensor Exact)) := by
  have hcells : t.cells.mapM (Dtype.convert (.real .double) (.real .double)) =
      (pure (t.cells.map id) : Except (Fault Exact) (Vector Exact _)) :=
    Tensor.mapM_eq_pure fun x _ => Dtype.stored_double (α := Exact) x
  rw [Tensor.mapM, hcells, Vector.map_id]
  rfl

theorem Volume.toReals_double (t : Tensor Exact) : (⟨.real .double, t⟩ : Volume Exact).toReals = .ok t :=
  t.mapM_convert_double

theorem Volume.toStored_double (t : Tensor Exact) :
    toStored ⟨.real .double, t⟩ (.real .double) = .ok ⟨.real .double, t⟩ := by
  change (do return (⟨_, ← t.mapM (Dtype.convert (.real .double) (.real .double))⟩ : Volume Exact)) = _
  rw [t.mapM_convert_double]
  rfl

theorem Source.exists_ofKernel (t : Tensor Exact) (kernel : Kernel) :
    ∃ source, Source.ofKernel ⟨.real .double, t⟩ kernel = .ok source ∧
      (kernel ≠ .cubic → ∀ coefficients, source ≠ .cubic coefficients) := by
  cases kernel with
  | nearest => exact ⟨.nearest, rfl, by simp⟩
  | linear => exact ⟨.linear, rfl, by simp⟩
  | cubic =>
    refine ⟨.cubic (Spline.spatialCoefficients t), ?_, fun h => absurd rfl h⟩
    rw [Source.ofKernel, Volume.toReals_double]
    rfl

/-- **A plan of single samples** is made where a step is not longer than one voxel, or is asked for. -/
theorem OversamplingPlan.exists_inactive {D : RealMatrix 4 4} (hcount : ∀ i, D.sampleCount i = 1)
    {request : Literal Exact}
    (hrequest : request = .null ∨ request.isGiven = true ∧ ofRequest request = .ok single) :
    ∃ p, plan (affine D) request = .ok p ∧ p.active = false := by
  obtain rfl | ⟨hgiven, hsingle⟩ := hrequest
  · obtain ⟨p, hplan, hfactors⟩ := plan_null D
    refine ⟨p, hplan, Bool.eq_false_of_not_eq_true fun hactive => ?_⟩
    obtain ⟨i, hi⟩ := active_iff.1 hactive
    have hone := (hfactors i).trans (hcount i)
    exact hi (by exact_mod_cast hone)
  · exact ⟨single, by rw [plan, if_pos hgiven, hsingle], rfl⟩

section Resliced

variable [LinearSolver Exact] [Capacity] {input reference : Grid Exact}

theorem View.sound_of_double {cells : Tensor Exact} (hpositive : ∀ n ∈ cells.shape, 0 < n)
    {inputGrid reference : Option (Grid Exact)} {transform oversample order fallback : Literal Exact}
    (hfallback : fallback.IsFallback) {v : View Exact}
    (hv : View.ofVolume ⟨.real .double, cells⟩ inputGrid reference transform oversample order fallback.given? = .ok v)
    (hroom : (Shape.reserve v.extent.toShape : Except (Fault Exact) Unit) = .ok ()) : v.Sound := by
  refine View.sound_of_ofVolume ?_ (fun x _ => Dtype.stored_double (α := Exact) x) ?_ ?_ hv hroom
  · exact Dtype.isNumeric_double
  · exact hpositive
  · exact hfallback.exists_number

theorem ReslicingOptions.sound_of_double {cells : Tensor Exact} (hpositive : ∀ n ∈ cells.shape, 0 < n)
    {o : ReslicingOptions Exact} (hfallback : o.fallback.IsFallback) {v : View Exact}
    (hview : o.view ⟨.real .double, cells⟩ input (some reference) = .ok v)
    (hroom : (Shape.reserve v.extent.toShape : Except (Fault Exact) Unit) = .ok ()) : v.Sound :=
  View.sound_of_double hpositive hfallback hview hroom

/-- **The array of a reslicing** has the value of each voxel, in whichever way it is evaluated. -/
theorem resliceArray_eq_build {cells : Tensor Exact} (hpositive : ∀ n ∈ cells.shape, 0 < n) {o : ReslicingOptions Exact}
    (hfallback : o.fallback.IsFallback) (hdtype : o.dtype = .null) {v : View Exact}
    (hview : o.view ⟨.real .double, cells⟩ input (some reference) = .ok v)
    (hroom : (Shape.reserve v.extent.toShape : Except (Fault Exact) Unit) = .ok ()) :
    resliceArray ⟨.real .double, cells⟩ input (some reference) o = .ok ⟨.real .double,
      Tensor.build v.extent.toShape fun voxel => v.blockValue o.fallback.outsideValue (voxel.drop 3) voxel⟩ := by
  have hsound : v.Sound := o.sound_of_double hpositive hfallback hview hroom
  obtain ⟨hvolume, hgiven⟩ := View.sampler_of_ofVolume hview
  have hdouble : v.sampler.volume.dtype = .real .double := by rw [hvolume]
  obtain ⟨hmerged, houtside⟩ := Sampler.merged_of_isFallback hdouble hfallback hgiven
  have hvalues := hsound.values_eq (View.sumPrecision_double (.inl hdouble)) hmerged houtside o.vectorize
  rw [resliceArray, hview, ok_bind, ReslicingOptions.evaluate_eq, hvalues, hdtype]
  rfl

theorem resliceArray_of_noRoom {x : Volume Exact} {o : ReslicingOptions Exact} {v : View Exact} {f : Fault Exact}
    (hview : o.view x input (some reference) = .ok v)
    (hroom : (Shape.reserve v.extent.toShape : Except (Fault Exact) Unit) = .error f) :
    ∃ g, resliceArray x input (some reference) o = .error g := by
  obtain ⟨g, hg⟩ := View.values_of_noRoom hroom o.vectorize
  exact ⟨g, by rw [resliceArray, hview, ok_bind, ReslicingOptions.evaluate_eq, hg, error_bind]⟩

end Resliced

end Regrid
