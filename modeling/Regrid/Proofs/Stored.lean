import Mathlib
import Regrid.Proofs.Parts
import Regrid.View.Resample
/-!
# Stored — values of double precision in the type that is asked for

The drivers give values of double precision.  Converting these to another type is done cell by cell
(`Volume.toOutput_reals`, `Volume.toStored_reals`): for an integer type each value is rounded first.
-/
namespace Regrid

theorem Tensor.mapM_eq_map {β γ : Type} {m : Type → Type} [Monad m] [LawfulMonad m] {f : β → m γ} {g : β → γ}
    (h : ∀ x, f x = pure (g x)) (t : Tensor β) : t.mapM f = pure (t.map g) := by
  rw [mapM, mapM_eq_pure fun x _ => h x, pure_bind, map]

theorem Tensor.mapM_map {β γ δ : Type} {m : Type → Type} [Monad m] [LawfulMonad m] (f : γ → m δ) (g : β → γ)
    (t : Tensor β) : (t.map g).mapM f = t.mapM fun x => f (g x) := by
  simp only [mapM, map, Vector.mapM_map]
  rfl

/-- **An action on cells that are given by their index** computes each cell from its index. -/
theorem Tensor.mapM_build_eq {β γ : Type} {m : Type → Type} [Monad m] [Succeeding m] {s : Shape} (f : β → m γ)
    (g : List Nat → β) : (build s g).mapM f = buildM s fun index => f (g index) := by
  have hcells : (build s id).map g = build s g := map_build id g
  rw [buildM_eq_mapM, ← hcells, mapM_map]

namespace Dtype

variable {α : Type} [Scalar α]

/-- **The type in which values of double precision are stored**: the length of text is set if it is left open. -/
def storing : Dtype → Dtype
  | .text 0 => .text (Dtype.real .double).textLength
  | d => d

/-- **A value of double precision in the type that is asked for**, rounded first if the type has whole numbers only. -/
def storeReal (d : Dtype) (x : α) : Except (Fault α) (d.storing.Value α) :=
  convert (.real .double) d.storing (if d.isInteger then roundToInteger x else x)

end Dtype

namespace Volume

variable {α : Type} [Scalar α]

theorem cast_reals (t : Tensor α) (d : Dtype) : cast ⟨.real .double, t⟩ d =
    (⟨d.storing, ·⟩) <$> t.mapM (Dtype.convert (.real .double) d.storing) := by
  rw [map_eq_pure_bind]
  rfl

theorem rounded_reals (t : Tensor α) :
    rounded ⟨.real .double, t⟩ = .ok ⟨.real .double, t.map Dtype.roundToInteger⟩ := by
  have hcells : t.mapM (fun x => (do return Dtype.roundToInteger (← Dtype.toScalar (.real .double) x) :
      Except (Fault α) α)) = .ok (t.map Dtype.roundToInteger) := Tensor.mapM_eq_map (fun x => rfl) t
  unfold rounded
  rw [hcells]
  rfl

/-- **Output values are converted cell by cell.** -/
theorem toOutput_reals (t : Tensor α) (d : Dtype) :
    toOutput ⟨.real .double, t⟩ (some d) = (⟨d.storing, ·⟩) <$> t.mapM d.storeReal := by
  unfold toOutput Dtype.storeReal
  by_cases h : d.isInteger = true
  · have hrounded := cast_reals (t.map Dtype.roundToInteger) d
    rw [Tensor.mapM_map] at hrounded
    simp only [h, if_true, rounded_reals, ok_bind]
    exact hrounded
  · simp only [h, Bool.false_eq_true, if_false, pure_bind]
    exact cast_reals t d

theorem toStored_reals (t : Tensor α) (d : Dtype) :
    toStored ⟨.real .double, t⟩ d = (⟨d.storing, ·⟩) <$> t.mapM d.storeReal := by
  have hwhole : (d.isInteger && !(Dtype.real .double).isInteger) = d.isInteger := Bool.and_true _
  rw [← toOutput_reals, toOutput, toStored]
  simp only [hwhole]

end Volume

end Regrid
