import Mathlib
import Regrid.Proofs.Readings
import Regrid.Proofs.Views
import Regrid.Reslicing
/-!
# Drivers — one voxel at a time, and whole blocks at once

Both ways of evaluating a view give an array of the shape of its lattice.  They differ in two places: where several
samples are taken, the precision in which these are added, and elsewhere the fallback, which the blocks store beside
the samples.
-/
namespace Regrid

theorem Extent.ofShape?_eq_some {s : Shape} {e : Extent} (h : Extent.ofShape? s = some e) : s = e.toShape := by
  match s, h with
  | x :: y :: z :: series, h => cases h; rfl

theorem Extent.inside_toShape {e : Extent} {voxel : List Nat} (h : e.toShape.Inside voxel) :
    Shape.Inside e.spatial.toList (voxel.take 3) ∧ Shape.Inside e.series (voxel.drop 3) := by
  have hparts := h.of_append
  rwa [Vector.length_toList] at hparts

namespace View

variable {α : Type} [Scalar α] {v : View α}

open Walk

theorem gather_build (g : List Nat → List Nat → α) :
    v.gather (Tensor.build v.extent.series fun place => Tensor.build v.extent.spatial.toList (g place)) =
      Tensor.build v.extent.toShape fun voxel => g (voxel.drop 3) (voxel.take 3) := by
  refine Tensor.build_congr fun voxel hvoxel => ?_
  obtain ⟨hspatial, hseries⟩ := Extent.inside_toShape hvoxel
  rw [Tensor.get?_build hseries, Option.bind_some, Tensor.get?_build hspatial, Option.getD_some]

/-- **The value of a voxel in a block**, next to the merged fallback. -/
def blockValue (v : View α) (m : α) (place voxel : List Nat) : α :=
  if v.plan.active then mean .double v.plan.normalization (v.samples place voxel)
  else if v.sampler.valid (v.target voxel) then v.sampler.estimate place (v.target voxel) else m

/-- **The value of a voxel under a cursor**, next to the fallback as it is given. -/
def cursorValue (v : View α) (place voxel : List Nat) : Except (Fault α) α :=
  if v.plan.active then .ok (mean (sumPrecision v.sampler.dtype) v.plan.normalization (v.samples place voxel))
  else if v.sampler.valid (v.target voxel) then .ok (v.sampler.estimate place (v.target voxel))
  else v.sampler.outside.toReal

theorem blockValue_take (m : α) (place voxel : List Nat) :
    v.blockValue m place (voxel.take 3) = v.blockValue m place voxel := by
  have hsamples : v.samples place (voxel.take 3) = v.samples place voxel := by
    rw [samples, samples, point_take]
  have htarget : v.target (voxel.take 3) = v.target voxel := by
    rw [target, target, point_take]
  rw [blockValue, blockValue, hsamples, htarget]

theorem blockValue_of_inactive (hactive : v.plan.active = false) (m : α) {place : List Nat} (voxel : List Nat) :
    v.blockValue m place voxel =
      if v.sampler.valid (v.target voxel) then v.sampler.estimate place (v.target voxel) else m := by
  simp [blockValue, hactive]

/-- **A sound view**: its sampler is sound, and there is room for its lattice. -/
structure Sound [Capacity] (v : View α) : Prop where
  sampler : v.sampler.Sound
  room : (Shape.reserve v.extent.toShape : Except (Fault α) Unit) = .ok ()

variable [Scalar.Lawful α]

theorem blockAt_eq (hs : v.sampler.Sound) {place : List Nat} (hplace : Shape.Inside v.sampler.extent.series place)
    {m : α} (hm : v.sampler.merged = .ok m) :
    v.blockAt place = .ok (Tensor.build v.extent.spatial.toList (v.blockValue m place)) := by
  unfold blockValue
  cases hactive : v.plan.active with
  | false => simpa using blockAt_of_inactive hs hactive hplace hm
  | true => simpa using blockAt_of_active hs hactive hplace hm

variable [Capacity]

theorem Sound.readAt_eq (hv : v.Sound) {voxel : List Nat} (h : v.extent.toShape.Inside voxel) :
    v.readAt voxel = v.cursorValue (voxel.drop 3) voxel := by
  have hcount := countable_of_inside h hv.room
  have hplace := (Extent.inside_toShape h).2
  unfold cursorValue
  cases hactive : v.plan.active with
  | false => simpa using readAt_of_inactive hv.sampler hactive hcount hplace
  | true => simpa using readAt_of_active hv.sampler hactive hcount hplace

/-- **The blocks** give each voxel its value, or fail with the fault of the merged fallback. -/
theorem Sound.resampleReals_of_ok (hv : v.Sound) {c : Cursor α} (hc : c.axes = v.extent.axes) {m : α}
    (hm : v.sampler.merged = .ok m) : perform v.resampleReals c =
      (.ok (Tensor.build v.extent.toShape fun voxel => v.blockValue m (voxel.drop 3) voxel), v.start) := by
  have hblocks : Tensor.buildM v.extent.series v.blockAt = .ok (Tensor.build v.extent.series fun place =>
      Tensor.build v.extent.spatial.toList (v.blockValue m place)) :=
    Tensor.buildM_eq_pure fun place hplace => blockAt_eq hv.sampler hplace hm
  rw [View.resampleReals_of_ok hv.room hc hblocks, gather_build]
  simp only [blockValue_take]

theorem Sound.resampleReals_of_error (hv : v.Sound) {c : Cursor α} (hc : c.axes = v.extent.axes) {f : Fault α}
    (hf : v.sampler.merged = .error f) : (perform v.resampleReals c).1 = .error f := by
  have hplace : Shape.Inside v.extent.series (List.replicate v.extent.series.length 0) := by
    refine Shape.inside_zeros fun n hn => hv.sampler.positive n ?_
    rw [hv.sampler.shape]
    exact List.mem_append_right _ hn
  have hall : ∀ place, Shape.Inside v.extent.series place → v.blockAt place = .error f := fun place hplace =>
    blockAt_of_error hv.sampler hplace hf
  exact View.resampleReals_of_error hv.room hc
    (Tensor.buildM_eq_error (fun place h => .inr (hall place h)) ⟨_, hplace, hall _ hplace⟩)

/-- **A cursor** gives each voxel its value, if each has one. -/
theorem Sound.copyReals_of_ok (hv : v.Sound) {c : Cursor α} (hc : c.axes = v.extent.axes) {x : List Nat → α}
    (hx : ∀ voxel, v.extent.toShape.Inside voxel → v.cursorValue (voxel.drop 3) voxel = .ok (x voxel)) :
    perform v.copyReals c = (.ok (Tensor.build v.extent.toShape x), v.start) :=
  View.copyReals_of_ok hv.room hc (Tensor.buildM_eq_pure fun voxel h => (hv.readAt_eq h).trans (hx voxel h))

theorem Sound.copyReals_of_error (hv : v.Sound) {c : Cursor α} (hc : c.axes = v.extent.axes) {f : Fault α}
    (hall : ∀ voxel, v.extent.toShape.Inside voxel → (∃ x, v.cursorValue (voxel.drop 3) voxel = .ok x) ∨
      v.cursorValue (voxel.drop 3) voxel = .error f)
    (hsome : ∃ voxel, v.extent.toShape.Inside voxel ∧ v.cursorValue (voxel.drop 3) voxel = .error f) :
    (perform v.copyReals c).1 = .error f := by
  obtain ⟨voxel, h, hf⟩ := hsome
  refine View.copyReals_of_error hv.room hc (Tensor.buildM_eq_error (fun index hi => ?_) ⟨voxel, h, ?_⟩)
  · rw [hv.readAt_eq hi]; exact hall index hi
  · rw [hv.readAt_eq h]; exact hf

end View
end Regrid
