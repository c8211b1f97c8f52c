import Mathlib
import Regrid.Proofs.Tensor
import Regrid.View
/-!
# Views — what a view is made of

A view exists if its grids fit the volume and the mapping between them can be found.  The volume, the fallback and the
reference grid are then those it is made from.
-/
namespace Regrid

variable {α : Type} [Scalar α]

/-- **A sampler can be made** of a volume with three axes, a grid that fits it, and a kernel. -/
theorem Sampler.make_eq_ok {kernel : Kernel} {volume : Volume α} {fallback : Option (Literal α)}
    {grid : Option (Grid α)} {name : Literal α} {s : Sampler α} :
    Sampler.make kernel volume fallback grid name = .ok s ↔ ∃ extent source,
      Extent.ofShape? volume.shape = some extent ∧ (∀ g, grid = some g → g.shape = volume.shape) ∧
      Source.ofKernel volume kernel = .ok source ∧
      s = ⟨volume, extent, source, fallback, grid, name.orElse (.text "")⟩ := by
  unfold Sampler.make
  cases hextent : Extent.ofShape? volume.shape with
  | none => simp
  | some extent =>
    have hmade : (do return (⟨volume, extent, ← Source.ofKernel volume kernel, fallback, grid,
        name.orElse (.text "")⟩ : Sampler α)) = Except.ok s ↔ ∃ source, Source.ofKernel volume kernel = .ok source ∧
          s = ⟨volume, extent, source, fallback, grid, name.orElse (.text "")⟩ := by
      rw [bind_eq_ok]
      exact exists_congr fun source => and_congr_right fun _ => ⟨fun h => (Except.ok.inj h).symm, fun h => h ▸ rfl⟩
    cases grid with
    | none => simpa using hmade
    | some g =>
      by_cases hshape : g.shape = volume.shape
      · simpa [hshape] using hmade
      · simp [hshape]

namespace View

variable [LinearSolver α] [Capacity]

theorem ofSampler_eq_ok {sampler : Sampler α} {input : Grid α} {reference : Option (Grid α)}
    {transform oversample : Literal α} {v : View α} :
    ofSampler sampler (some input) reference transform oversample = .ok v ↔
      reference = some v.reference ∧ v.sampler = sampler ∧ input.shape = sampler.volume.shape ∧
      (∃ t, AffineTransform.ofLiteral transform = .ok t ∧ mappingBetween input v.reference t = .ok v.mapping) ∧
      OversamplingPlan.plan v.mapping oversample = .ok v.plan ∧
      (v.plan.active = true → (Shape.reserveLattice v.plan.factors.toList : Except (Fault α) Unit) = .ok ()) := by
  unfold ofSampler
  cases reference with
  | none => simp
  | some reference =>
    have hmade : (do
        let t ← AffineTransform.ofLiteral transform
        let mapping ← mappingBetween input reference t
        let plan ← OversamplingPlan.plan mapping oversample
        if plan.active then Shape.reserveLattice plan.factors.toList
        return (⟨sampler, reference, mapping, plan⟩ : View α)) = Except.ok v ↔
          reference = v.reference ∧ v.sampler = sampler ∧
          (∃ t, AffineTransform.ofLiteral transform = .ok t ∧ mappingBetween input v.reference t = .ok v.mapping) ∧
          OversamplingPlan.plan v.mapping oversample = .ok v.plan ∧
          (v.plan.active = true →
            (Shape.reserveLattice v.plan.factors.toList : Except (Fault α) Unit) = .ok ()) := by
      constructor
      · intro h
        obtain ⟨t, ht, h⟩ := bind_eq_ok.1 h
        obtain ⟨mapping, hmapping, h⟩ := bind_eq_ok.1 h
        obtain ⟨plan, hplan, h⟩ := bind_eq_ok.1 h
        by_cases hactive : plan.active = true
        · rw [if_pos hactive] at h
          obtain ⟨_, hroom, h⟩ := bind_eq_ok.1 h
          cases h
          exact ⟨rfl, rfl, ⟨t, ht, hmapping⟩, hplan, fun _ => hroom⟩
        · rw [if_neg hactive] at h
          cases h
          exact ⟨rfl, rfl, ⟨t, ht, hmapping⟩, hplan, fun h => absurd h hactive⟩
      · obtain ⟨sampler', reference', mapping, plan⟩ := v
        rintro ⟨rfl, rfl, ⟨t, ht, hmapping⟩, hplan, hroom⟩
        rw [ht, ok_bind, hmapping, ok_bind, hplan, ok_bind]
        by_cases hactive : plan.active = true
        · rw [if_pos hactive, hroom hactive]
          rfl
        · rw [if_neg hactive]
          rfl
    by_cases hshape : input.shape = sampler.volume.shape
    · simpa [hshape] using hmade
    · simp [hshape]

theorem ofVolume_eq_ok {volume : Volume α} {inputGrid reference : Option (Grid α)}
    {transform oversample order : Literal α} {fallback : Option (Literal α)} {v : View α} :
    ofVolume volume inputGrid reference transform oversample order fallback = .ok v ↔
      ∃ input kernel sampler,
        inputGrid.elim (Grid.make (volume.shape.map Int.ofNat) none none) .ok = .ok input ∧
        Kernel.ofLiteral order = .ok kernel ∧
        Sampler.make kernel volume fallback (some input) .null = .ok sampler ∧
        ofSampler sampler (some input) reference transform oversample = .ok v := by
  have hmade : ∀ input, (do
      let sampler ← Sampler.make (← Kernel.ofLiteral order) volume fallback (some input) .null
      ofSampler sampler (some input) reference transform oversample) = Except.ok v ↔
        ∃ kernel sampler, Kernel.ofLiteral order = .ok kernel ∧
          Sampler.make kernel volume fallback (some input) .null = .ok sampler ∧
          ofSampler sampler (some input) reference transform oversample = .ok v := by
    intro input
    simp only [bind_eq_ok]
    exact ⟨fun ⟨k, hk, s, hs, hv⟩ => ⟨k, s, hk, hs, hv⟩, fun ⟨k, s, hk, hs, hv⟩ => ⟨k, hk, s, hs, hv⟩⟩
  unfold ofVolume
  cases inputGrid with
  | none =>
    simp only [Option.elim_none, bind_eq_ok (x := Grid.make _ _ _), hmade]
    exact ⟨fun ⟨g, hg, k, s, h⟩ => ⟨g, k, s, hg, h⟩, fun ⟨g, k, s, hg, h⟩ => ⟨g, hg, k, s, h⟩⟩
  | some g =>
    simp only [Option.elim_some, pure_bind, hmade]
    exact ⟨fun ⟨k, s, h⟩ => ⟨g, k, s, rfl, h⟩, fun ⟨g', k, s, hg, h⟩ => by cases hg; exact ⟨k, s, h⟩⟩

/-- **The view of a volume** between grids that a mapping is found for. -/
theorem ofVolume_of_solved {volume : Volume α} {input reference : Grid α} {transform oversample order : Literal α}
    {fallback : Option (Literal α)} {kernel : Kernel} {source : Source α} {t mapping : AffineTransform α}
    {plan : OversamplingPlan} (hshape : input.shape = volume.shape) (horder : Kernel.ofLiteral order = .ok kernel)
    (hsource : Source.ofKernel volume kernel = .ok source) (htransform : AffineTransform.ofLiteral transform = .ok t)
    (hmapping : mappingBetween input reference t = .ok mapping)
    (hplan : OversamplingPlan.plan mapping oversample = .ok plan)
    (hroom : plan.active = true → (Shape.reserveLattice plan.factors.toList : Except (Fault α) Unit) = .ok ()) :
    ofVolume volume (some input) (some reference) transform oversample order fallback =
      .ok ⟨⟨volume, input.extent, source, fallback, some input, .text ""⟩, reference, mapping, plan⟩ := by
  let sampler : Sampler α := ⟨volume, input.extent, source, fallback, some input, .text ""⟩
  refine ofVolume_eq_ok.2 ⟨input, kernel, sampler, rfl, horder, ?_, ?_⟩
  · refine Sampler.make_eq_ok.2 ⟨input.extent, source, ?_, ?_, hsource, rfl⟩
    · rw [← hshape]
      exact Extent.ofShape?_toShape _
    · rintro _ ⟨⟩
      exact hshape
  · exact ofSampler_eq_ok.2 ⟨rfl, rfl, hshape, ⟨t, htransform, hmapping⟩, hplan, hroom⟩

end View
end Regrid
