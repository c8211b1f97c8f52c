import Mathlib
import Regrid.Proofs.Tensor
import Regrid.Spline
import Regrid.Volume
/-!
# Parts — arrays put together of the parts at the places of a series

An array whose last axes run over a series is known by its parts, one for each place of the series
(`Tensor.ext_parts`).  What is done cell by cell is done part by part, and so are the spline coefficients along the
first axes.  It succeeds on the array if it does on every part (`Tensor.exists_mapM_of_parts`).
-/
namespace Regrid

/-- **Monads of outcomes**: a computation succeeds exactly if its steps do, with the result of the last one. -/
class Succeeding (m : Type → Type) [Monad m] : Prop extends LawfulMonad m where
  pure_inj {β : Type} {x y : β} : (pure x : m β) = pure y → x = y
  bind_eq_pure {β γ : Type} {x : m β} {f : β → m γ} {z : γ} : x >>= f = pure z ↔ ∃ y, x = pure y ∧ f y = pure z

theorem map_eq_ok {ε β γ : Type} {x : Except ε β} {f : β → γ} {z : γ} :
    f <$> x = .ok z ↔ ∃ y, x = .ok y ∧ f y = z := by
  cases x <;> simp [Functor.map, Except.map]

instance : Succeeding Option where
  pure_inj h := Option.some.inj h
  bind_eq_pure := Option.bind_eq_some_iff

instance {ε : Type} : Succeeding (Except ε) where
  pure_inj h := Except.ok.inj h
  bind_eq_pure := bind_eq_ok

theorem Shape.offset?_eq_none : ∀ {s : Shape} {index : List Nat}, ¬s.Inside index → s.offset? index = none
  | [], [], h => absurd .nil h
  | [], _ :: _, _ | _ :: _, [], _ => rfl
  | n :: s, i :: index, h => by
    rw [offset?]
    by_cases hi : i < n
    · rw [if_pos hi, offset?_eq_none fun hrest => h (.cons hi hrest), Option.map_none]
    · rw [if_neg hi]

theorem Shape.Inside.set {s : Shape} {index : List Nat} (h : s.Inside index) {axis n i : Nat} (hn : s[axis]? = some n)
    (hi : i < n) : s.Inside (index.set axis i) := by
  induction h generalizing axis with
  | nil => exact .nil
  | cons hj hrest ih =>
    cases axis with
    | zero =>
      obtain rfl := Option.some.inj hn
      exact .cons hi hrest
    | succ axis => exact .cons hj (ih hn)

namespace Tensor

variable {β γ : Type} {s : Shape} {t : Tensor β}

theorem get?_eq_none {index : List Nat} (h : ¬t.shape.Inside index) : t.get? index = none := by
  rw [get?, Shape.offset?_eq_none h, Option.bind_none]

theorem forall₂_cells {R : β → γ → Prop} {u : Tensor γ} (hshape : u.shape = t.shape) :
    List.Forall₂ R t.toList u.toList ↔
      ∀ index, t.shape.Inside index → ∃ x y, t.get? index = some x ∧ u.get? index = some y ∧ R x y := by
  have hlength : t.toList.length = t.shape.indices.length := by
    rw [Shape.length_indices]
    simp [toList]
  have hlength' : u.toList.length = t.shape.indices.length := by
    rw [Shape.length_indices, ← hshape]
    simp [toList]
  rw [List.forall₂_iff_get]
  constructor
  · rintro ⟨-, h⟩ index hindex
    obtain ⟨k, -, hk, hget⟩ := hindex.exists_offset
    have hindices : k < t.shape.indices.length := by rwa [Shape.length_indices]
    have hcells : k < t.toList.length := hlength.symm ▸ hindices
    have hcells' : k < u.toList.length := hlength'.symm ▸ hindices
    have hget' : u.shape.indices[k]? = some index := hshape ▸ hget
    exact ⟨_, _, (getElem?_toList hget).symm.trans (List.getElem?_eq_getElem hcells),
      (getElem?_toList hget').symm.trans (List.getElem?_eq_getElem hcells'), h k hcells hcells'⟩
  · intro h
    refine ⟨hlength.trans hlength'.symm, fun k hk hk' => ?_⟩
    have hindices : k < t.shape.indices.length := hlength ▸ hk
    have hget := List.getElem?_eq_getElem hindices
    have hget' : u.shape.indices[k]? = some t.shape.indices[k] := by rwa [hshape]
    obtain ⟨x, y, hx, hy, hR⟩ := h _ (Shape.mem_indices.1 (List.getElem_mem hindices))
    rw [← getElem?_toList hget, List.getElem?_eq_getElem hk] at hx
    rw [← getElem?_toList hget', List.getElem?_eq_getElem hk'] at hy
    obtain rfl := Option.some.inj hx
    obtain rfl := Option.some.inj hy
    exact hR

section Action

variable {m : Type → Type} [Monad m] [Succeeding m]

theorem list_mapM_eq_pure_iff {f : β → m γ} : ∀ {l : List β} {ys : List γ},
    l.mapM f = pure ys ↔ List.Forall₂ (fun x y => f x = pure y) l ys
  | [], ys => by
    rw [List.mapM_nil, List.forall₂_nil_left_iff]
    exact ⟨fun h => (Succeeding.pure_inj h).symm, fun h => congrArg pure h.symm⟩
  | x :: l, ys => by
    simp only [List.mapM_cons, Succeeding.bind_eq_pure, list_mapM_eq_pure_iff (l := l)]
    constructor
    · rintro ⟨y, hy, ys', hys, h⟩
      rw [← Succeeding.pure_inj h]
      exact .cons hy hys
    · rintro (_ | ⟨hy, hys⟩)
      exact ⟨_, hy, _, hys, rfl⟩

theorem vector_mapM_eq_pure_iff {n : Nat} {f : β → m γ} {u : Vector β n} {v : Vector γ n} :
    u.mapM f = pure v ↔ List.Forall₂ (fun x y => f x = pure y) u.toList v.toList := by
  rw [← list_mapM_eq_pure_iff, ← toList_mapM]
  refine ⟨fun h => by rw [h, map_pure], fun h => eq_of_map_toList ?_⟩
  rw [h, map_pure]

/-- **An action on a tensor succeeds** exactly if it does on each of its cells. -/
theorem mapM_eq_pure_iff {f : β → m γ} {u : Tensor γ} : t.mapM f = pure u ↔ u.shape = t.shape ∧
    ∀ index, t.shape.Inside index → ∃ x y, t.get? index = some x ∧ u.get? index = some y ∧ f x = pure y := by
  have hcells : ∀ cells : Vector γ t.shape.count, t.cells.mapM f = pure cells ↔ ∀ index, t.shape.Inside index →
      ∃ x y, t.get? index = some x ∧ (⟨t.shape, cells⟩ : Tensor γ).get? index = some y ∧ f x = pure y := fun cells =>
    vector_mapM_eq_pure_iff.trans (forall₂_cells (t := t) (u := ⟨t.shape, cells⟩) rfl)
  rw [mapM, Succeeding.bind_eq_pure]
  constructor
  · rintro ⟨cells, h, hpure⟩
    rw [← Succeeding.pure_inj hpure]
    exact ⟨rfl, (hcells cells).1 h⟩
  · obtain ⟨shape, cells⟩ := u
    rintro ⟨rfl, h⟩
    exact ⟨cells, (hcells cells).2 h, rfl⟩

omit [Succeeding m] in
theorem buildM_eq_mapM (f : List Nat → m β) : buildM s f = (build s id).mapM f := by
  rw [buildM_eq, build_eq, Vector.map_id]
  rfl

theorem list_mapM_congr {f g : β → m γ} : ∀ {l : List β}, (∀ x ∈ l, f x = g x) → l.mapM f = l.mapM g
  | [], _ => rfl
  | x :: l, h => by
    rw [List.mapM_cons, List.mapM_cons, h x List.mem_cons_self,
      list_mapM_congr fun y hy => h y (List.mem_cons_of_mem x hy)]

/-- **Tensors computed alike at every index** are computed alike. -/
theorem buildM_congr {f g : List Nat → m β} (h : ∀ index, s.Inside index → f index = g index) :
    buildM s f = buildM s g := by
  have hcells : s.indexVector.mapM f = s.indexVector.mapM g := by
    refine eq_of_map_toList ?_
    rw [toList_mapM, toList_mapM]
    exact list_mapM_congr fun index hindex => h index (Shape.mem_indexVector.1 hindex)
  rw [buildM_eq, buildM_eq, hcells]

/-- **A tensor is computed** exactly if each of its cells is. -/
theorem buildM_eq_pure_iff {f : List Nat → m β} : buildM s f = pure t ↔
    t.shape = s ∧ ∀ index, s.Inside index → ∃ x, t.get? index = some x ∧ f index = pure x := by
  rw [buildM_eq_mapM, mapM_eq_pure_iff]
  refine and_congr_right fun _ => forall₂_congr fun index (h : s.Inside index) => ?_
  rw [get?_build h]
  simp

theorem list_exists_mapM {f : β → m γ} : ∀ {l : List β}, (∀ x ∈ l, ∃ y, f x = pure y) → ∃ ys, l.mapM f = pure ys
  | [], _ => ⟨[], List.mapM_nil⟩
  | x :: l, h => by
    obtain ⟨y, hy⟩ := h x List.mem_cons_self
    obtain ⟨ys, hys⟩ := list_exists_mapM fun z hz => h z (List.mem_cons_of_mem x hz)
    exact ⟨y :: ys, by rw [List.mapM_cons, hy, pure_bind, hys, pure_bind]⟩

theorem exists_mapM {f : β → m γ} (h : ∀ x ∈ t.toList, ∃ y, f x = pure y) : ∃ u, t.mapM f = pure u := by
  obtain ⟨ys, hys⟩ := list_exists_mapM h
  rw [toList, ← toList_mapM, ← bind_pure_comp, Succeeding.bind_eq_pure] at hys
  obtain ⟨cells, hcells, -⟩ := hys
  exact ⟨⟨t.shape, cells⟩, by rw [mapM, hcells, pure_bind]⟩

theorem exists_buildM {f : List Nat → m β} (h : ∀ index, s.Inside index → ∃ x, f index = pure x) :
    ∃ t, buildM s f = pure t := by
  rw [buildM_eq_mapM]
  refine exists_mapM fun index hindex => h index (Shape.mem_indices.1 ?_)
  rwa [toList_build, List.map_id] at hindex

end Action

section Select

variable {rank : Nat} {place : List Nat} {u : Tensor β}

theorem inside_append {index : List Nat} (hindex : Shape.Inside (t.shape.take rank) index)
    (hplace : Shape.Inside (t.shape.drop rank) place) : t.shape.Inside (index ++ place) := by
  have happend := hindex.append hplace
  rwa [List.take_append_drop] at happend

/-- **A part of a tensor** holds the cells whose last indices are those of the part. -/
theorem select?_eq_some_iff (hplace : Shape.Inside (t.shape.drop rank) place) : t.select? rank place = some u ↔
    u.shape = t.shape.take rank ∧
      ∀ index, Shape.Inside (t.shape.take rank) index → u.get? index = t.get? (index ++ place) := by
  refine buildM_eq_pure_iff.trans (and_congr_right fun hshape => forall₂_congr fun index hindex => ?_)
  obtain ⟨x, -, hx⟩ := exists_get? (inside_append hindex hplace)
  rw [hx]
  constructor
  · rintro ⟨y, hy, hpure⟩
    exact hy.trans hpure.symm
  · exact fun h => ⟨x, h, rfl⟩

theorem exists_select? (hplace : Shape.Inside (t.shape.drop rank) place) : ∃ u, t.select? rank place = some u := by
  refine exists_buildM fun index hindex => ?_
  obtain ⟨x, -, hx⟩ := exists_get? (inside_append hindex hplace)
  exact ⟨x, hx⟩

theorem exists_of_mem {x : β} (h : x ∈ t.toList) : ∃ index, t.shape.Inside index ∧ t.get? index = some x := by
  obtain ⟨k, hk, rfl⟩ := List.getElem_of_mem h
  have hindices : k < t.shape.indices.length := by
    rw [Shape.length_indices]
    simpa [toList] using hk
  have hget := List.getElem?_eq_getElem hindices
  exact ⟨_, Shape.mem_indices.1 (List.getElem_mem hindices),
    (getElem?_toList hget).symm.trans (List.getElem?_eq_getElem hk)⟩

variable (rank) in
/-- **Tensors with the same parts** are the same. -/
theorem ext_parts {t' : Tensor β} (hshape : t.shape = t'.shape)
    (h : ∀ place, Shape.Inside (t.shape.drop rank) place → t.select? rank place = t'.select? rank place) : t = t' := by
  refine ext_get? hshape fun index hindex => ?_
  obtain ⟨hfirst, hlast⟩ := hindex.take_drop rank
  obtain ⟨u, hu⟩ := exists_select? hlast
  have hget := ((select?_eq_some_iff hlast).1 hu).2 _ hfirst
  have hget' := ((select?_eq_some_iff (hshape ▸ hlast)).1 ((h _ hlast).symm.trans hu)).2 _ (hshape ▸ hfirst)
  rw [List.take_append_drop] at hget hget'
  rw [← hget, hget']

section Action

variable {m : Type → Type} [Monad m] [Succeeding m] {f : β → m γ} {t' : Tensor γ}

/-- **An action on a tensor** acts on its parts. -/
theorem select?_mapM (h : t.mapM f = pure t') (hplace : Shape.Inside (t.shape.drop rank) place)
    (hu : t.select? rank place = some u) : ∃ u', t'.select? rank place = some u' ∧ u.mapM f = pure u' := by
  obtain ⟨hshape, hcells⟩ := mapM_eq_pure_iff.1 h
  obtain ⟨hushape, hget⟩ := (select?_eq_some_iff hplace).1 hu
  have hplace' : Shape.Inside (t'.shape.drop rank) place := by rwa [hshape]
  obtain ⟨u', hu'⟩ := exists_select? hplace'
  obtain ⟨hushape', hget'⟩ := (select?_eq_some_iff hplace').1 hu'
  refine ⟨u', hu', mapM_eq_pure_iff.2 ⟨by rw [hushape', hushape, hshape], fun index hindex => ?_⟩⟩
  rw [hushape] at hindex
  rw [hget index hindex, hget' index (hshape ▸ hindex)]
  exact hcells _ (inside_append hindex hplace)

variable (rank) in
/-- **An action succeeds on a tensor** if it does on each of its parts. -/
theorem exists_mapM_of_parts (h : ∀ place, Shape.Inside (t.shape.drop rank) place →
    ∃ u u', t.select? rank place = some u ∧ u.mapM f = pure u') : ∃ t', t.mapM f = pure t' := by
  refine exists_mapM fun x hx => ?_
  obtain ⟨index, hindex, hget⟩ := exists_of_mem hx
  obtain ⟨hfirst, hlast⟩ := hindex.take_drop rank
  obtain ⟨u, u', hu, hmap⟩ := h _ hlast
  obtain ⟨hushape, hucells⟩ := (select?_eq_some_iff hlast).1 hu
  obtain ⟨y, z, hy, -, hz⟩ := (mapM_eq_pure_iff.1 hmap).2 (index.take rank) (by rwa [hushape])
  rw [hucells _ hfirst, List.take_append_drop, hget] at hy
  obtain rfl := Option.some.inj hy
  exact ⟨z, hz⟩

end Action

end Select

end Tensor

namespace Spline

variable {α : Type} [Scalar α] {t u : Tensor α} {rank axis : Nat} {place : List Nat}

/-- **Spline coefficients along a first axis** are those of the parts: a line along it lies in one of them. -/
theorem select?_coefficientsAlong (haxis : axis < rank) (hrank : rank ≤ t.shape.length)
    (hplace : Shape.Inside (t.shape.drop rank) place) (hu : t.select? rank place = some u) :
    (coefficientsAlong axis t).select? rank place = some (coefficientsAlong axis u) := by
  obtain ⟨hshape, hget⟩ := (Tensor.select?_eq_some_iff hplace).1 hu
  refine (Tensor.select?_eq_some_iff (t := coefficientsAlong axis t) hplace).2 ⟨hshape, fun index hindex => ?_⟩
  change Shape.Inside (t.shape.take rank) index at hindex
  have hlength : axis < index.length := by
    rw [hindex.length_eq, List.length_take]
    omega
  have hsize : u.shape[axis]? = t.shape[axis]? := by
    rw [hshape, List.getElem?_take_of_lt haxis]
  have hline : ((List.range (u.shape[axis]?.getD 0)).filterMap fun i => u.get? (index.set axis i)) =
      (List.range (t.shape[axis]?.getD 0)).filterMap fun i => t.get? ((index ++ place).set axis i) := by
    rw [hsize]
    refine List.filterMap_congr fun i hi => ?_
    cases hn : t.shape[axis]? with
    | none =>
      rw [hn] at hi
      exact absurd hi List.not_mem_nil
    | some n =>
      rw [hn] at hi
      rw [← hsize, hshape] at hn
      rw [List.set_append_left _ _ hlength, hget _ (hindex.set hn (List.mem_range.1 hi))]
  unfold coefficientsAlong
  rw [Tensor.get?_build (hshape ▸ hindex), Tensor.get?_build (Tensor.inside_append hindex hplace)]
  beta_reduce
  rw [hline, List.getElem?_append_left hlength]

/-- **Spline coefficients of the parts** are the parts of the spline coefficients. -/
theorem select?_spatialCoefficients (haxes : 3 ≤ t.shape.length) (hplace : Shape.Inside (t.shape.drop 3) place)
    (hu : t.select? 3 place = some u) : (spatialCoefficients t).select? 3 place = some (spatialCoefficients u) := by
  have hfirst := select?_coefficientsAlong (show 0 < 3 by decide) haxes hplace hu
  have hsecond := select?_coefficientsAlong (show 1 < 3 by decide) (t := coefficientsAlong 0 t) haxes hplace hfirst
  exact select?_coefficientsAlong (show 2 < 3 by decide) (t := coefficientsAlong 1 (coefficientsAlong 0 t)) haxes hplace
    hsecond

end Spline
end Regrid
