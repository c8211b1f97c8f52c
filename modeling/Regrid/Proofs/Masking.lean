import Mathlib
import Regrid.Proofs.Evaluation
import Regrid.Proofs.Weights
/-!
# Masking — an average does not see the fallback

Where a view takes several samples for each voxel, samples outside the field of view carry the fallback, and a kernel
may give values that are not finite.  Neither is counted: the average is finite, and the fallback does not leak into it
(`View.copy_resample_of_active`).
-/
namespace Regrid

open Exact

namespace View

open Walk

theorem perform_bind_congr {α β γ : Type} {w w' : Walk α β} {c : Cursor α} (h : perform w c = perform w' c)
    (f : β → Walk α γ) : perform (w >>= f) c = perform (w' >>= f) c := by
  cases hrun : perform w' c with
  | mk x c' => cases x with
    | error e => rw [perform_bind_error hrun, perform_bind_error (h.trans hrun)]
    | ok y => rw [perform_bind_ok hrun, perform_bind_ok (h.trans hrun)]

section Fallback

variable {α : Type} [Scalar α]

/-- **The same view with another fallback.** -/
def withFallback (v : View α) (fallback : Option (Literal α)) : View α :=
  { v with sampler := { v.sampler with fallback } }

variable [Capacity] {v : View α}

theorem ofVolume_withFallback [LinearSolver α] {volume : Volume α} {inputGrid reference : Option (Grid α)}
    {transform oversample order : Literal α} {fallback : Option (Literal α)}
    (hv : ofVolume volume inputGrid reference transform oversample order fallback = .ok v)
    (other : Option (Literal α)) :
    ofVolume volume inputGrid reference transform oversample order other = .ok (v.withFallback other) := by
  obtain ⟨input, kernel, sampler, hinput, hkernel, hsampler, hview⟩ := ofVolume_eq_ok.1 hv
  obtain ⟨extent, source, hextent, hfits, hsource, rfl⟩ := Sampler.make_eq_ok.1 hsampler
  obtain ⟨hreference, hs, hshape, hmapping, hplan, hroom⟩ := ofSampler_eq_ok.1 hview
  refine ofVolume_eq_ok.2 ⟨input, kernel, (v.withFallback other).sampler, hinput, hkernel, ?_, ?_⟩
  · refine Sampler.make_eq_ok.2 ⟨extent, source, hextent, hfits, hsource, ?_⟩
    rw [withFallback, hs]
  · refine ofSampler_eq_ok.2 ⟨hreference, rfl, hshape.trans ?_, hmapping, hplan, hroom⟩
    rw [withFallback, hs]

/-- **Without room for the values** nothing but the sizes of a view is looked at. -/
theorem perform_eq_of_noRoom {w : View α} (hextent : w.extent = v.extent) {f : Fault α}
    (hroom : (Shape.reserve v.extent.toShape : Except (Fault α) Unit) = .error f) (c : Cursor α) :
    perform w.copyReals c = perform v.copyReals c ∧ perform w.resampleReals c = perform v.resampleReals c := by
  unfold copyReals resampleReals
  rw [hextent, hroom]
  constructor
  · rw [perform_bind_error (perform_lift _ c), perform_bind_error (perform_lift _ c)]
  · cases hlattice : (Shape.reserveLattice v.extent.spatial.toList : Except (Fault α) Unit) with
    | error g => rw [perform_bind_error (perform_lift _ c), perform_bind_error (perform_lift _ c)]
    | ok _ =>
      rw [perform_bind_ok (perform_lift _ c), perform_bind_error (perform_lift _ c), perform_bind_ok (perform_lift _ c),
        perform_bind_error (perform_lift _ c)]

end Fallback

/-- **The average of the samples** of each voxel. -/
noncomputable def averages (v : View Exact) : Tensor Exact :=
  Tensor.build v.extent.toShape fun voxel =>
    finite (blockMean v.plan.factors.get fun step => v.seen (voxel.drop 3) (v.samplePosition voxel step))

theorem averages_withFallback (v : View Exact) (fallback : Option (Literal Exact)) :
    (v.withFallback fallback).averages = v.averages := by
  have hseen : ∀ place p, (v.withFallback fallback).seen place p = v.seen place p :=
    fun place p => seen_congr (v := v.withFallback fallback) (w := v) rfl rfl rfl p
  unfold averages
  simp only [hseen]
  rfl

section Volume

variable [LinearSolver Exact] [Capacity] {cells : Tensor Exact} {inputGrid reference : Option (Grid Exact)}
  {transform oversample order fallback : Literal Exact} {v : View Exact} {c : Cursor Exact}

/-- **What both drivers read** of a volume of double precision under an active plan. -/
theorem perform_of_active (hpositive : ∀ n ∈ cells.shape, 0 < n) (hfallback : fallback.IsFallback)
    (hv : ofVolume ⟨.real .double, cells⟩ inputGrid reference transform oversample order fallback.given? = .ok v)
    (hactive : v.plan.active = true)
    (hroom : (Shape.reserve v.extent.toShape : Except (Fault Exact) Unit) = .ok ()) (hc : c.axes = v.extent.axes) :
    perform v.copyReals c = (.ok v.averages, v.start) ∧ perform v.resampleReals c = (.ok v.averages, v.start) := by
  have hsound : v.Sound := sound_of_double hpositive hfallback hv hroom
  obtain ⟨hvolume, hgiven⟩ := sampler_of_ofVolume hv
  have hdouble : v.sampler.volume.dtype = .real .double := by rw [hvolume]
  obtain ⟨hmerged, houtside⟩ := Sampler.merged_of_isFallback hdouble hfallback hgiven
  have hblock := fun voxel => @blockValue_of_active v (voxel.drop 3) hactive fallback.outsideValue voxel
  have haverages : v.averages =
      Tensor.build v.extent.toShape fun voxel => v.blockValue fallback.outsideValue (voxel.drop 3) voxel := by
    simp only [hblock]
    rfl
  rw [haverages]
  refine ⟨hsound.copyReals_of_ok hc fun voxel _ => ?_, hsound.resampleReals_of_ok hc hmerged⟩
  exact cursorValue_eq_blockValue (sumPrecision_double (.inl hdouble)) houtside voxel

/-- **An average is finite and does not see the fallback.**  Under an active plan both drivers read the same finite
number for each voxel of a volume of double precision, finite or not, and store it in the type that is asked for.  With
any other number as the fallback, or none, each of them does the same, also where there is no room for the values. -/
theorem copy_resample_of_active (hpositive : ∀ n ∈ cells.shape, 0 < n) (hfallback : fallback.IsFallback)
    (hv : ofVolume ⟨.real .double, cells⟩ inputGrid reference transform oversample order fallback.given? = .ok v)
    (hactive : v.plan.active = true) :
    ((Shape.reserve v.extent.toShape : Except (Fault Exact) Unit) = .ok () → ∃ t : Tensor Exact,
      t.Finite ∧ t.shape = v.extent.toShape ∧ ∀ (c : Cursor Exact) (dtype : Literal Exact), c.axes = v.extent.axes →
        perform (v.copy dtype) c = (store t dtype, v.start) ∧ perform (v.resample dtype) c = (store t dtype, v.start)) ∧
    ∀ other : Literal Exact, other.IsFallback → ∃ w,
      ofVolume ⟨.real .double, cells⟩ inputGrid reference transform oversample order other.given? = .ok w ∧
      ∀ (c : Cursor Exact) (dtype : Literal Exact), c.axes = v.extent.axes →
        perform (w.copy dtype) c = perform (v.copy dtype) c ∧
        perform (w.resample dtype) c = perform (v.resample dtype) c := by
  constructor
  · intro hroom
    refine ⟨v.averages, Tensor.finite_build _ _, rfl, fun c dtype hc => ?_⟩
    obtain ⟨hcopy, hresample⟩ := perform_of_active hpositive hfallback hv hactive hroom hc
    rw [copy, resample, perform_bind_ok hcopy, perform_bind_ok hresample]
    exact ⟨perform_lift _ _, perform_lift _ _⟩
  · intro other hother
    -- the same samples are averaged, whatever stands outside of the field of view
    have hw := ofVolume_withFallback hv other.given?
    refine ⟨_, hw, fun c dtype hc => ?_⟩
    have hreals : perform (v.withFallback other.given?).copyReals c = perform v.copyReals c ∧
        perform (v.withFallback other.given?).resampleReals c = perform v.resampleReals c := by
      cases hroom : (Shape.reserve v.extent.toShape : Except (Fault Exact) Unit) with
      | error f => exact perform_eq_of_noRoom (v := v) (w := v.withFallback other.given?) rfl hroom c
      | ok =>
        obtain ⟨hcopy, hresample⟩ := perform_of_active hpositive hfallback hv hactive hroom hc
        obtain ⟨hcopy', hresample'⟩ := perform_of_active hpositive hother hw hactive hroom hc
        rw [averages_withFallback] at hcopy' hresample'
        exact ⟨hcopy'.trans hcopy.symm, hresample'.trans hresample.symm⟩
    exact ⟨perform_bind_congr hreals.1 _, perform_bind_congr hreals.2 _⟩

end Volume

/-- **An infinite voxel**, seen from one that is twice as long and has a sample outside the field of view: no number and
an infinity as the fallback give the same finite average. -/
theorem copy_resample_of_active_long :
    let volume : Volume Exact := ⟨.real .double, Tensor.build [1, 1, 1] fun _ => infinity true⟩
    let twice : Literal Exact := .list [.number (.int 2), .number (.int 1), .number (.int 1)]
    let view (fallback : Exact) : Except (Fault Exact) (View Exact) :=
      ofVolume volume (some unitGrid) (some longGrid) .null twice (.number (.int 0)) (some (.number (.real fallback)))
    ∃ (v w : View Exact) (t : Tensor Exact), view .nan = .ok v ∧ view (infinity false) = .ok w ∧ t.Finite ∧
      perform (v.copy .null) v.start = (.ok ⟨.real .double, t⟩, v.start) ∧
      perform (w.copy .null) v.start = (.ok ⟨.real .double, t⟩, v.start) ∧
      perform (w.resample .null) v.start = (.ok ⟨.real .double, t⟩, v.start) := by
  intro volume twice view
  let o : ReslicingOptions Exact := ⟨.null, .number (.int 0), twice, .number (.real .nan), .null, true⟩
  have horder : Kernel.ofLiteral (.number (.int 0) : Literal Exact) = .ok .nearest := by
    simp [Kernel.ofLiteral, Kernel.ofDegree?, Number.toScalar]
  obtain ⟨v, hv, hextent, -, -, hplan⟩ := @exists_longView volume.cells rfl o _ rfl rfl horder
  have hactive : v.plan.active = true := by
    rw [hplan]
    rfl
  have hroom : (Shape.reserve v.extent.toShape : Except (Fault Exact) Unit) = .ok () := by
    rw [hextent]
    rfl
  obtain ⟨hdrivers, hothers⟩ := copy_resample_of_active (by decide) (.inr ⟨_, rfl⟩) hv hactive
  obtain ⟨t, hfinite, -, hrun⟩ := hdrivers hroom
  obtain ⟨w, hw, hsame⟩ := hothers (.number (.real (infinity false))) (.inr ⟨_, rfl⟩)
  obtain ⟨hcopy, hresample⟩ := hrun v.start .null v.start_axes
  obtain ⟨hcopy', hresample'⟩ := hsame v.start .null v.start_axes
  exact ⟨v, w, t, hv, hw, hfinite, hcopy, hcopy'.trans hcopy, hresample'.trans hresample⟩

end View

end Regrid
