import Mathlib
import Regrid.Proofs.Placing
/-!
# RegularGrids — what every grid has

A grid that is made has at least three axes, none of them empty, one voxel size for each of them, and positive voxel
sizes along the spatial axes (`Grid.Regular`).  That holds over any scalars, however its sizes, voxel sizes and
transform are written and whichever of them are left out (`Grid.regular_of_ofLiterals`).
-/
namespace Regrid

namespace Extent

variable {α : Type}

theorem toShape_of_ofShape? : ∀ {s : Shape} {e : Extent}, ofShape? s = some e → e.toShape = s
  | [], _, h | [_], _, h | [_, _], _, h => nomatch h
  | _ :: _ :: _ :: _, _, h => by
    cases h
    rfl

theorem ofShape?_eq_none_iff : ∀ {s : Shape}, ofShape? s = none ↔ s.length < 3
  | [] | [_] | [_, _] => by simp [ofShape?]
  | _ :: _ :: _ :: _ => by simp [ofShape?]

/-- **Sizes are those of an extent**, or there are fewer than three of them, or one of them is below one. -/
theorem ofSizes_cases (sizes : List Int) :
    (sizes.length < 3 ∧ (ofSizes sizes : Except (Fault α) Extent) = .error (.gridAxes sizes)) ∨
      (3 ≤ sizes.length ∧ (∃ n ∈ sizes, n < 1) ∧
        (ofSizes sizes : Except (Fault α) Extent) = .error (.gridSizes sizes)) ∨
      (3 ≤ sizes.length ∧ (∀ n ∈ sizes, 1 ≤ n) ∧
        ∃ e, (ofSizes sizes : Except (Fault α) Extent) = .ok e ∧ e.toShape = sizes.map Int.toNat) := by
  unfold ofSizes
  cases h : ofShape? (sizes.map Int.toNat) with
  | none =>
    have hlength := ofShape?_eq_none_iff.1 h
    rw [List.length_map] at hlength
    exact .inl ⟨hlength, rfl⟩
  | some e =>
    have hlength : 3 ≤ sizes.length := by
      refine not_lt.1 fun hless => ?_
      rw [ofShape?_eq_none_iff.2 (by rwa [List.length_map])] at h
      cases h
    by_cases hempty : sizes.any (· < 1) = true
    · have hexists : ∃ n ∈ sizes, n < 1 := by
        simpa using hempty
      exact .inr (.inl ⟨hlength, hexists, if_pos hempty⟩)
    · have hall : ∀ n ∈ sizes, 1 ≤ n := by
        simpa using hempty
      exact .inr (.inr ⟨hlength, hall, e, if_neg hempty, toShape_of_ofShape? h⟩)

theorem shape_of_ofSizes {sizes : List Int} {e : Extent} (h : (ofSizes sizes : Except (Fault α) Extent) = .ok e) :
    3 ≤ sizes.length ∧ (∀ n ∈ sizes, 1 ≤ n) ∧ e.toShape = sizes.map Int.toNat := by
  obtain ⟨-, hfault⟩ | ⟨-, -, hfault⟩ | ⟨hlength, hsizes, e', he', hshape⟩ := ofSizes_cases (α := α) sizes
  · cases hfault.symm.trans h
  · cases hfault.symm.trans h
  · cases he'.symm.trans h
    exact ⟨hlength, hsizes, hshape⟩

end Extent

namespace Grid

variable {α : Type} [Scalar α]

/-- **A regular grid** has at least three axes, none of them empty, and one voxel size for each axis; those of the
spatial axes are positive. -/
structure Regular (g : Grid α) : Prop where
  axes : 3 ≤ g.shape.length
  sizes : ∀ n ∈ g.shape, 1 ≤ n
  spacing : g.spacing.length = g.shape.length
  positive : ∀ x ∈ g.spacing.take 3, 0 < x

theorem positiveSpacing_iff {spacing : List α} : positiveSpacing spacing = true ↔ ∀ x ∈ spacing.take 3, 0 < x := by
  rw [positiveSpacing, List.all_eq_true]
  exact forall₂_congr fun _ _ => decide_eq_true_iff

section Fitting

variable {axes : Nat} {given spacing : List α}

theorem exists_fitSpacing (hgiven : given ≠ []) : ∃ spacing, fitSpacing axes given = .ok spacing := by
  unfold fitSpacing
  rw [List.getLast?_eq_some_getLast hgiven]
  exact ⟨_, rfl⟩

theorem length_of_fitSpacing (h : fitSpacing axes given = .ok spacing) : spacing.length = axes := by
  unfold fitSpacing at h
  split at h
  · cases h
  · cases h
    simp only [List.length_take, List.length_append, List.length_replicate]
    omega

/-- **The spatial voxel sizes** are those given, of which the last stands for all further axes. -/
theorem getElem?_of_fitSpacing (haxes : 3 ≤ axes) (h : fitSpacing axes given = .ok spacing) {axis : Nat}
    (haxis : axis < 3) : spacing[axis]? = given[min axis (given.length - 1)]? := by
  unfold fitSpacing at h
  split at h
  · cases h
  · next last hlast =>
    cases h
    rw [List.getLast?_eq_getElem?] at hlast
    have hpositive : 0 < given.length := by
      have hindex := (List.getElem?_eq_some_iff.1 hlast).1
      omega
    rw [List.getElem?_take_of_lt (haxis.trans_le haxes)]
    by_cases hinside : axis < given.length
    · rw [min_eq_left (by omega), List.append_assoc, List.getElem?_append_left hinside]
    · rw [min_eq_right (by omega), hlast, List.getElem?_append_left (by simp; omega),
        List.getElem?_append_right (not_lt.1 hinside), List.getElem?_replicate_of_lt (by omega)]

theorem givenSpacing_eq_ok {e : Extent} (h : givenSpacing e given = .ok spacing) :
    fitSpacing e.axes given = .ok spacing ∧ positiveSpacing spacing = true := by
  obtain ⟨fitted, hfit, h⟩ := bind_eq_ok.1 h
  split at h
  · next hpositive =>
    cases h
    exact ⟨hfit, hpositive⟩
  · cases h

end Fitting

variable {e : Extent} {spacing : Option (List α)} {transform : Option (AffineTransform α)} {g : Grid α}

/-- **Completing a grid** keeps the items that are given. -/
theorem complete_eq_ok (h : complete e spacing transform = .ok g) : g.extent = e ∧
    g.transform = transform.getD (scaling (spacing.getD [1, 1, 1])) ∧ (∀ s, spacing = some s → g.spacing = s) ∧
    (spacing = none → g.spacing = (columnLengths g.transform.matrix).toList ++ List.replicate e.series.length 1 ∧
      positiveSpacing g.spacing = true) := by
  unfold complete at h
  cases spacing with
  | some s =>
    cases h
    exact ⟨rfl, rfl, fun _ hs => Option.some.inj hs, fun hs => nomatch hs⟩
  | none =>
    simp only at h
    split at h
    · next hpositive =>
      cases h
      exact ⟨rfl, rfl, fun _ hs => (nomatch hs), fun _ => ⟨rfl, hpositive⟩⟩
    · cases h

theorem regular_of_complete {sizes : List Int} (he : (Extent.ofSizes sizes : Except (Fault α) Extent) = .ok e)
    (hspacing : ∀ s, spacing = some s → ∃ given, givenSpacing e given = .ok s)
    (h : complete e spacing transform = .ok g) : g.Regular := by
  obtain ⟨hlength, hsizes, hshape⟩ := Extent.shape_of_ofSizes he
  obtain ⟨rfl, -, hkept, hlengths⟩ := complete_eq_ok h
  have hfitted : g.spacing.length = g.extent.axes ∧ positiveSpacing g.spacing = true := by
    cases spacing with
    | some s =>
      obtain ⟨given, hgiven⟩ := hspacing s rfl
      obtain ⟨hfit, hpositive⟩ := givenSpacing_eq_ok hgiven
      rw [hkept s rfl]
      exact ⟨length_of_fitSpacing hfit, hpositive⟩
    | none =>
      obtain ⟨heq, hpositive⟩ := hlengths rfl
      refine ⟨?_, hpositive⟩
      rw [heq]
      simp [Extent.axes]
  refine ⟨?_, ?_, hfitted.1.trans g.extent.length_toShape.symm, positiveSpacing_iff.1 hfitted.2⟩
  · rw [shape, hshape, List.length_map]
    exact hlength
  · rw [shape, hshape, List.forall_mem_map]
    intro n hn
    have hone := hsizes n hn
    omega

theorem regular_of_make {sizes : List Int} (h : make sizes spacing transform = .ok g) : g.Regular := by
  obtain ⟨e, he, h⟩ := bind_eq_ok.1 h
  obtain ⟨fitted, hfitted, h⟩ := bind_eq_ok.1 h
  refine regular_of_complete he (fun s hs => ?_) h
  cases spacing with
  | none =>
    cases hfitted
    cases hs
  | some given =>
    obtain ⟨s', hs', hfitted⟩ := bind_eq_ok.1 hfitted
    cases hfitted
    cases hs
    exact ⟨given, hs'⟩

/-- **Every grid is regular**, however it is written. -/
theorem regular_of_ofLiterals {sizes spacing transform : Literal α} (h : ofLiterals sizes spacing transform = .ok g) :
    g.Regular := by
  obtain ⟨read, -, h⟩ := bind_eq_ok.1 h
  obtain ⟨e, he, h⟩ := bind_eq_ok.1 h
  obtain ⟨fitted, hfitted, h⟩ := bind_eq_ok.1 h
  obtain ⟨placed, -, h⟩ := bind_eq_ok.1 h
  refine regular_of_complete he (fun s hs => ?_) h
  cases hgiven : spacing.given? with
  | none =>
    rw [hgiven] at hfitted
    cases hfitted
    cases hs
  | some l =>
    rw [hgiven, Option.mapM_some] at hfitted
    obtain ⟨s', hs', hfitted⟩ := bind_eq_ok.1 hfitted
    obtain ⟨given, -, hs'⟩ := bind_eq_ok.1 hs'
    cases hfitted
    cases hs
    exact ⟨given, hs'⟩

end Grid

end Regrid
