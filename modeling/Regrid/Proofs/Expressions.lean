import Mathlib
import Regrid.Proofs.Arrays
import Regrid.Proofs.FieldOfView
/-!
# Expressions — transforms made of other transforms

Composing, inverting and solving make transforms of transforms, to any depth.  An expression of affine transforms can be
evaluated unless one that it inverts or solves against is singular, and then it is an affine transform that acts on
points as the functions do that the expression stands for (`TransformExpr.eval_maps`).
-/
namespace RealMatrix

variable {a : RealMatrix 4 4}

theorem isAffine_inv (ha : a.IsAffine) (hdet : a.det ≠ 0) : IsAffine a⁻¹ := by
  refine ha.of_mul ?_
  rw [Matrix.mul_nonsing_inv a (isUnit_iff_ne_zero.2 hdet)]
  exact isAffine_one

theorem act_inv (ha : a.IsAffine) (hdet : a.det ≠ 0) :
    Function.LeftInverse (act a⁻¹) a.act ∧ Function.RightInverse (act a⁻¹) a.act := by
  have hunit : IsUnit a.det := isUnit_iff_ne_zero.2 hdet
  constructor
  · intro x
    rw [← act_mul ha, Matrix.nonsing_inv_mul a hunit, act_one]
  · intro x
    rw [← act_mul (isAffine_inv ha hdet), Matrix.mul_nonsing_inv a hunit, act_one]

theorem not_injective_act (ha : a.IsAffine) (hdet : a.det = 0) : ¬Function.Injective a.act := by
  obtain ⟨v, hv, hzero⟩ := Matrix.exists_mulVec_eq_zero_iff.2 hdet
  -- the last row makes what is taken to zero a displacement, and moving by it changes nothing
  have hlast : v 3 = 0 := by
    have h3 := congrFun hzero 3
    simpa [Matrix.mulVec, dotProduct, ha _] using h3
  intro hinjective
  let w : Fin 3 → ℝ := fun i => v i.castSucc
  have hsame : a.act w = a.act 0 := by
    funext i
    have hi := congrFun hzero i.castSucc
    rw [Matrix.mulVec, dotProduct, Fin.sum_univ_castSucc, show Fin.last 3 = 3 from rfl, hlast] at hi
    rw [act_apply, act_apply]
    simpa using hi
  have hw := hinjective hsame
  refine hv (funext fun i => ?_)
  exact Fin.lastCases hlast (fun i => congrFun hw i) i

end RealMatrix

namespace Regrid

open Exact RealMatrix

theorem affine_injective : Function.Injective affine := fun a b h => by
  rw [← entries_matrix a, ← entries_matrix b]
  exact congrArg (fun t : AffineTransform Exact => entries t.matrix) h

/-- **A solver inverts exactly** if it finds the inverse of each matrix of real numbers that has one. -/
class LinearSolver.Inverting [LinearSolver Exact] : Prop where
  inverse_of_det_ne_zero {n : Nat} {a : RealMatrix n n} : a.det ≠ 0 →
    LinearSolver.inverse (Exact.matrix a) = .ok (Exact.matrix a⁻¹)
  inverse_of_det_eq_zero {n : Nat} {a : RealMatrix n n} : a.det = 0 →
    LinearSolver.inverse (Exact.matrix a) = .error .notInvertible

instance : LinearSolver.Inverting where
  inverse_of_det_ne_zero h := by
    simp [LinearSolver.inverse, h]
  inverse_of_det_eq_zero h := by
    simp [LinearSolver.inverse, h]

/-- **An expression over transforms.** -/
inductive TransformExpr (α : Type)
  | given (t : AffineTransform α)
  | compose (x y : TransformExpr α)
  | inverse (x : TransformExpr α)
  | solve (x y : TransformExpr α)

namespace TransformExpr

section Evaluation

variable {α : Type}

/-- **The transforms an expression is made of.** -/
def leaves : TransformExpr α → List (AffineTransform α)
  | given t => [t]
  | compose x y | solve x y => x.leaves ++ y.leaves
  | inverse x => x.leaves

/-- **The expressions that are inverted or solved against** inside an expression. -/
def divisors : TransformExpr α → List (TransformExpr α)
  | given _ => []
  | compose x y => x.divisors ++ y.divisors
  | inverse x => x :: x.divisors
  | solve x y => x :: (x.divisors ++ y.divisors)

/-- **The transform that an expression is.** -/
def eval [Scalar α] [LinearSolver α] : TransformExpr α → Except (Fault α) (AffineTransform α)
  | given t => .ok t
  | compose x y => do return (← x.eval).compose (← y.eval)
  | inverse x => do (← x.eval).inverse
  | solve x y => do (← x.eval).solve (← y.eval)

theorem leaves_of_mem_divisors : ∀ {e x : TransformExpr α}, x ∈ e.divisors → ∀ t ∈ x.leaves, t ∈ e.leaves
  | compose u v, x, hx, t, ht => by
    rw [divisors, List.mem_append] at hx
    rw [leaves, List.mem_append]
    exact hx.imp (fun hx => leaves_of_mem_divisors hx t ht) fun hx => leaves_of_mem_divisors hx t ht
  | inverse u, x, hx, t, ht => by
    rw [leaves]
    obtain rfl | hx := List.mem_cons.1 hx
    · exact ht
    · exact leaves_of_mem_divisors hx t ht
  | solve u v, x, hx, t, ht => by
    rw [leaves, List.mem_append]
    obtain rfl | hx := List.mem_cons.1 hx
    · exact .inl ht
    · exact (List.mem_append.1 hx).imp (fun hx => leaves_of_mem_divisors hx t ht)
        fun hx => leaves_of_mem_divisors hx t ht

end Evaluation

/-- **The function on points that an expression stands for**, said without matrices: a composition is one function after
the other, an inverse undoes a function from both sides, and solving is the inverse of the first after the second. -/
inductive Maps : TransformExpr Exact → ((Fin 3 → ℝ) → Fin 3 → ℝ) → Prop
  | given {t : AffineTransform Exact} {f : (Fin 3 → ℝ) → Fin 3 → ℝ} (h : ∀ x, t.apply (point x) = point (f x)) :
    Maps (.given t) f
  | compose {x y : TransformExpr Exact} {f g : (Fin 3 → ℝ) → Fin 3 → ℝ} (hx : Maps x f) (hy : Maps y g) :
    Maps (.compose x y) (f ∘ g)
  | inverse {x : TransformExpr Exact} {f g : (Fin 3 → ℝ) → Fin 3 → ℝ} (hx : Maps x f)
    (hleft : Function.LeftInverse g f) (hright : Function.RightInverse g f) : Maps (.inverse x) g
  | solve {x y : TransformExpr Exact} {f g h : (Fin 3 → ℝ) → Fin 3 → ℝ} (hx : Maps x f)
    (hleft : Function.LeftInverse g f) (hright : Function.RightInverse g f) (hy : Maps y h) : Maps (.solve x y) (g ∘ h)

theorem Maps.unique {e : TransformExpr Exact} {f g : (Fin 3 → ℝ) → Fin 3 → ℝ} (hf : e.Maps f) (hg : e.Maps g) :
    f = g := by
  induction hf generalizing g with
  | given h =>
    obtain ⟨h'⟩ := hg
    exact funext fun x => point_injective ((h x).symm.trans (h' x))
  | compose _ _ ihx ihy =>
    obtain _ | ⟨hx, hy⟩ := hg
    rw [ihx hx, ihy hy]
  | inverse _ hleft _ ih =>
    obtain _ | _ | ⟨hx, -, hright⟩ := hg
    obtain rfl := ih hx
    exact hleft.eq_rightInverse hright
  | solve _ hleft _ _ ihx ihy =>
    obtain _ | _ | _ | ⟨hx, -, hright, hy⟩ := hg
    obtain rfl := ihx hx
    rw [ihy hy, hleft.eq_rightInverse hright]

/-- **What stands for a function divides by bijections only.** -/
theorem Maps.bijective_of_mem_divisors {e : TransformExpr Exact} {f : (Fin 3 → ℝ) → Fin 3 → ℝ} (h : e.Maps f) :
    ∀ x ∈ e.divisors, ∃ g, x.Maps g ∧ Function.Bijective g := by
  induction h with
  | given _ => exact fun x hx => absurd hx List.not_mem_nil
  | compose _ _ ihx ihy => exact List.forall_mem_append.2 ⟨ihx, ihy⟩
  | inverse hx hleft hright ih =>
    exact List.forall_mem_cons.2 ⟨⟨_, hx, hleft.injective, hright.surjective⟩, ih⟩
  | solve hx hleft hright _ ihx ihy =>
    exact List.forall_mem_cons.2 ⟨⟨_, hx, hleft.injective, hright.surjective⟩, List.forall_mem_append.2 ⟨ihx, ihy⟩⟩

section Solver

variable [LinearSolver Exact] {e x y : TransformExpr Exact}

/-- **An expression is singular** if it is a transform whose matrix has no inverse. -/
def Singular (e : TransformExpr Exact) : Prop := ∃ a : RealMatrix 4 4, e.eval = .ok (affine a) ∧ a.det = 0

theorem singular_given {a : RealMatrix 4 4} : (given (affine a)).Singular ↔ a.det = 0 := by
  constructor
  · rintro ⟨b, hb, hdet⟩
    rwa [affine_injective (Except.ok.inj hb)]
  · exact fun hdet => ⟨a, rfl, hdet⟩

/-- **An expression is an affine transform** that acts on points as the function it stands for. -/
def Evaluates (e : TransformExpr Exact) : Prop :=
  ∃ a : RealMatrix 4 4, a.IsAffine ∧ e.eval = .ok (affine a) ∧ e.Maps a.act

/-- **An expression fails** for a divisor that is singular. -/
def Fails (e : TransformExpr Exact) : Prop :=
  (∃ f, e.eval = .error f ∧ f.kind = .algebra) ∧ ∃ x ∈ e.divisors, x.Singular

theorem Fails.of_part (h : x.Fails) (heval : ∀ f, x.eval = .error f → e.eval = .error f)
    (hdivisors : ∀ z ∈ x.divisors, z ∈ e.divisors) : e.Fails := by
  obtain ⟨⟨f, hf, hkind⟩, z, hz, hsingular⟩ := h
  exact ⟨⟨f, heval f hf, hkind⟩, z, hdivisors z hz, hsingular⟩

theorem evaluates_given {t : AffineTransform Exact} {a : RealMatrix 4 4} (ha : a.IsAffine) (ht : t = affine a) :
    (given t).Evaluates := by
  subst ht
  exact ⟨a, ha, rfl, .given fun x => apply_affine a x⟩

theorem Evaluates.compose (hx : x.Evaluates) (hy : y.Evaluates) : (compose x y).Evaluates := by
  obtain ⟨a, ha, hxa, hmapsx⟩ := hx
  obtain ⟨b, hb, hyb, hmapsy⟩ := hy
  refine ⟨a * b, ha.mul hb, ?_, ?_⟩
  · rw [eval, hxa, hyb, ← compose_affine]
    rfl
  · rw [show act (a * b) = a.act ∘ b.act from funext (act_mul hb)]
    exact .compose hmapsx hmapsy

theorem Evaluates.inverse [LinearSolver.Inverting] (hx : x.Evaluates) :
    (inverse x).Evaluates ∨ (inverse x).Fails := by
  obtain ⟨a, ha, hxa, hmaps⟩ := hx
  have heval : (TransformExpr.inverse x).eval = (affine a).inverse := by
    rw [eval, hxa, ok_bind]
  unfold AffineTransform.inverse affine at heval
  by_cases hdet : a.det = 0
  · rw [LinearSolver.Inverting.inverse_of_det_eq_zero hdet] at heval
    exact .inr ⟨⟨_, heval, rfl⟩, x, List.mem_cons_self, a, hxa, hdet⟩
  · rw [LinearSolver.Inverting.inverse_of_det_ne_zero hdet] at heval
    obtain ⟨hleft, hright⟩ := act_inv ha hdet
    exact .inl ⟨a⁻¹, isAffine_inv ha hdet, heval, .inverse hmaps hleft hright⟩

theorem Evaluates.solve [LinearSolver.Accurate] (hx : x.Evaluates) (hy : y.Evaluates) :
    (solve x y).Evaluates ∨ (solve x y).Fails := by
  obtain ⟨a, ha, hxa, hmapsx⟩ := hx
  obtain ⟨b, hb, hyb, hmapsy⟩ := hy
  have heval : (TransformExpr.solve x y).eval = (affine a).solve (affine b) := by
    rw [eval, hxa, hyb, ok_bind, ok_bind]
  by_cases hdet : a.det = 0
  · rw [View.solve_of_det_eq_zero hdet] at heval
    exact .inr ⟨⟨_, heval, rfl⟩, x, List.mem_cons_self, a, hxa, hdet⟩
  · obtain ⟨d, hd, hsolve⟩ := View.solve_of_det_ne_zero (C := b) hdet
    obtain ⟨hleft, hright⟩ := act_inv ha hdet
    have hproduct : d = a⁻¹ * b := by
      rw [← hd, Matrix.nonsing_inv_mul_cancel_left a d (isUnit_iff_ne_zero.2 hdet)]
    have hact : d.act = act a⁻¹ ∘ b.act := by
      rw [hproduct]
      exact funext (act_mul hb)
    refine .inl ⟨d, hproduct ▸ (isAffine_inv ha hdet).mul hb, heval.trans hsolve, ?_⟩
    rw [hact]
    exact .solve hmapsx hleft hright hmapsy

/-- **An expression of two parts** is evaluated from the left: the first part that fails decides. -/
theorem evaluates_or_fails_of_parts {k : AffineTransform Exact → AffineTransform Exact →
      Except (Fault Exact) (AffineTransform Exact)} (heval : e.eval = x.eval >>= fun t => y.eval >>= k t)
    (hdivisors : ∀ z ∈ x.divisors ++ y.divisors, z ∈ e.divisors)
    (hboth : x.Evaluates → y.Evaluates → e.Evaluates ∨ e.Fails) (hx : x.Evaluates ∨ x.Fails)
    (hy : y.Evaluates ∨ y.Fails) : e.Evaluates ∨ e.Fails := by
  obtain hx | hx := hx
  · obtain hy | hy := hy
    · exact hboth hx hy
    · obtain ⟨a, -, hxa, -⟩ := hx
      refine .inr (hy.of_part (fun f hf => ?_) fun z hz => hdivisors z (List.mem_append_right _ hz))
      rw [heval, hxa, hf]
      rfl
  · refine .inr (hx.of_part (fun f hf => ?_) fun z hz => hdivisors z (List.mem_append_left _ hz))
    rw [heval, hf]
    rfl

variable [LinearSolver.Accurate] [LinearSolver.Inverting]

/-- **An expression of affine transforms** is an affine transform, or fails for a singular divisor. -/
theorem evaluates_or_fails : ∀ {e : TransformExpr Exact},
    (∀ t ∈ e.leaves, ∃ a : RealMatrix 4 4, a.IsAffine ∧ t = affine a) → e.Evaluates ∨ e.Fails
  | given t, h => by
    obtain ⟨a, ha, ht⟩ := h t List.mem_cons_self
    exact .inl (evaluates_given ha ht)
  | compose x y, h => by
    obtain ⟨hleavesx, hleavesy⟩ := List.forall_mem_append.1 h
    exact evaluates_or_fails_of_parts (e := compose x y) (k := fun t u => .ok (t.compose u)) rfl (fun _ => id)
      (fun hx hy => .inl (hx.compose hy)) (evaluates_or_fails hleavesx) (evaluates_or_fails hleavesy)
  | inverse x, h => by
    obtain hx | hx := evaluates_or_fails (e := x) h
    · exact hx.inverse
    · exact .inr (hx.of_part (fun f hf => by rw [eval, hf]; rfl) fun z => List.mem_cons_of_mem x)
  | solve x y, h => by
    obtain ⟨hleavesx, hleavesy⟩ := List.forall_mem_append.1 h
    exact evaluates_or_fails_of_parts (e := solve x y) (k := AffineTransform.solve) rfl
      (fun _ => List.mem_cons_of_mem x) Evaluates.solve (evaluates_or_fails hleavesx) (evaluates_or_fails hleavesy)

/-- **What is an affine transform** divides by nothing that is singular. -/
theorem Evaluates.not_singular (h : ∀ t ∈ e.leaves, ∃ a : RealMatrix 4 4, a.IsAffine ∧ t = affine a)
    (he : e.Evaluates) : ∀ x ∈ e.divisors, ¬x.Singular := by
  rintro x hx ⟨b, hb, hdet⟩
  obtain ⟨_, -, -, hmaps⟩ := he
  obtain ⟨g, hg, hbijective⟩ := hmaps.bijective_of_mem_divisors x hx
  obtain ⟨a, ha, hxa, hact⟩ | ⟨⟨f, hf, -⟩, -⟩ := evaluates_or_fails fun t ht => h t (leaves_of_mem_divisors hx t ht)
  -- a singular matrix would act as a bijection
  · rw [hxa] at hb
    obtain rfl : a = b := affine_injective (Except.ok.inj hb)
    rw [hg.unique hact] at hbijective
    exact not_injective_act ha hdet hbijective.injective
  · rw [hf] at hb
    cases hb

/-- **Evaluating an expression of affine transforms** fails exactly if one that it inverts or solves against is
singular, and then for a fault of linear algebra.  Otherwise the expression is a transform whose last row is `0 0 0 1`,
and which takes every point where the one function takes it that the expression stands for. -/
theorem eval_maps (e : TransformExpr Exact)
    (h : ∀ t ∈ e.leaves, ∃ a : RealMatrix 4 4, a.IsAffine ∧ t = affine a) :
    ((∃ f, e.eval = .error f ∧ f.kind = .algebra) ↔ ∃ x ∈ e.divisors, x.Singular) ∧
    ((¬∃ x ∈ e.divisors, x.Singular) → ∃ (a : RealMatrix 4 4) (F : (Fin 3 → ℝ) → Fin 3 → ℝ),
      e.eval = .ok (affine a) ∧ a.IsAffine ∧ (∀ G, e.Maps G ↔ G = F) ∧
      ∀ x, (affine a).apply (point x) = point (F x)) := by
  obtain he | he := evaluates_or_fails h
  · have hnone : ¬∃ x ∈ e.divisors, x.Singular := fun ⟨x, hx, hsingular⟩ => he.not_singular h x hx hsingular
    obtain ⟨a, ha, heval, hmaps⟩ := he
    refine ⟨⟨fun ⟨f, hf, _⟩ => ?_, fun hsome => absurd hsome hnone⟩, fun _ => ⟨a, a.act, heval, ha, fun G => ?_, ?_⟩⟩
    · rw [heval] at hf
      cases hf
    · exact ⟨fun hG => hG.unique hmaps, fun hG => hG ▸ hmaps⟩
    · exact apply_affine a
  · exact ⟨⟨fun _ => he.2, fun _ => he.1⟩, fun hnone => absurd he.2 hnone⟩

end Solver

/-- **Half a voxel away, twice as far, and back again**: the first matrix is inverted, the second solved against.  One
that has no inverse makes what is built on it fail. -/
theorem eval_maps_doubled :
    let away : TransformExpr Exact := .given (affine (translation fun _ => 1 / 2))
    let halved : TransformExpr Exact := .given (affine (resizing fun _ => 1 / 2))
    let flat : TransformExpr Exact := .given (affine (resizing fun _ => 0))
    (∃ a : RealMatrix 4 4, (compose (inverse away) (solve halved away)).eval = .ok (affine a) ∧ a.IsAffine ∧
      ∀ x, (affine a).apply (point x) = point fun i => 2 * x i + 1) ∧
    ∃ f, (solve away (compose (inverse flat) away)).eval = .error f ∧ f.kind = .algebra := by
  intro away halved flat
  have hleaf : ∀ linear translation, ∃ a : RealMatrix 4 4,
      a.IsAffine ∧ affine (parts linear translation) = affine a := fun _ _ => ⟨_, isAffine_parts _ _, rfl⟩
  constructor
  · have hhalved : ∀ x, (resizing fun _ => 1 / 2).act x = fun i => x i / 2 - 1 / 4 := fun x => by
      funext i
      rw [act_resizing]
      ring
    have hhalved_ne : (resizing fun _ => 1 / 2).det ≠ 0 := fun hdet => by
      refine not_injective_act (isAffine_resizing _) hdet fun x y hxy => funext fun i => ?_
      have hi := congrFun hxy i
      rw [hhalved, hhalved] at hi
      linarith
    have hall : ∀ t ∈ (compose (inverse away) (solve halved away)).leaves,
        ∃ a : RealMatrix 4 4, a.IsAffine ∧ t = affine a := by
      simp only [leaves, away, halved, List.mem_append, List.mem_singleton]
      rintro t (rfl | rfl | rfl) <;> exact hleaf _ _
    have hnone : ¬∃ x ∈ (compose (inverse away) (solve halved away)).divisors, x.Singular := by
      rintro ⟨x, hx, hsingular⟩
      simp only [divisors, away, halved, List.mem_append, List.mem_cons, List.not_mem_nil, or_false] at hx
      obtain rfl | rfl := hx
      · exact det_translation_ne_zero _ (singular_given.1 hsingular)
      · exact hhalved_ne (singular_given.1 hsingular)
    obtain ⟨a, F, heval, ha, hF, happly⟩ := (eval_maps _ hall).2 hnone
    have haway : away.Maps fun x i => x i + 1 / 2 := .given fun x => by
      rw [apply_affine, act_translation]
      rfl
    have hinverse : (inverse away).Maps fun x i => x i - 1 / 2 :=
      .inverse haway (fun x => by simp) (fun x => by simp)
    have hsolve : (solve halved away).Maps ((fun x i => 2 * x i + 1 / 2) ∘ fun x i => x i + 1 / 2) := by
      refine .solve (.given fun x => apply_affine _ x) (fun x => ?_) (fun x => ?_) haway
      · rw [hhalved]
        funext i
        ring
      · rw [hhalved]
        funext i
        ring
    refine ⟨a, heval, ha, fun x => ?_⟩
    rw [happly, ← (hF _).1 (hinverse.compose hsolve)]
    congr 1
    funext i
    simp only [Function.comp_apply]
    ring
  · have hall : ∀ t ∈ (solve away (compose (inverse flat) away)).leaves,
        ∃ a : RealMatrix 4 4, a.IsAffine ∧ t = affine a := by
      simp only [leaves, away, flat, List.mem_append, List.mem_singleton]
      rintro t (rfl | rfl | rfl) <;> exact hleaf _ _
    have hflat : (resizing fun _ => 0).det = 0 := by
      by_contra hdet
      have hsame : (resizing fun _ => 0).act 0 = (resizing fun _ => 0).act 1 := by
        funext i
        simp [act_resizing]
      exact zero_ne_one (congrFun (act_injective (isAffine_resizing _) hdet hsame) 0)
    exact (eval_maps _ hall).1.2 ⟨flat, by simp [divisors], singular_given.2 hflat⟩

end TransformExpr

end Regrid
