import Mathlib
import Regrid.Proofs.Tools
/-!
# Placing — tools find the grids they reslice between

The grid of a volume has its orientation, and voxel sizes that its lattice does not depend on
(`Grid.exists_make_usableZooms`).  A tool finds it if the axes of that orientation have a length, and fails if an axis
is empty.
-/
namespace Regrid

variable {α : Type} [Scalar α]

theorem Task.fst_perform_gridOf (h : Header α) (w : Workspace α) : (perform (gridOf h) w).1 = (Grid.ofHeader h).1 := by
  unfold gridOf
  cases hheader : Grid.ofHeader h with
  | mk grid mismatch => cases mismatch <;> cases grid <;> rfl

omit [Scalar α] in
theorem Extent.positive_of_ofSizes {s : Shape} {e : Extent}
    (h : (ofSizes (s.map Int.ofNat) : Except (Fault α) Extent) = .ok e) : ∀ n ∈ s, 0 < n := by
  intro n hn
  by_contra hzero
  have hempty : (s.map Int.ofNat).any (· < 1) = true :=
    List.any_eq_true.2 ⟨n, List.mem_map_of_mem hn, decide_eq_true (by omega)⟩
  unfold ofSizes at h
  split at h
  · cases h
  · rw [if_pos hempty] at h
    cases h

namespace Grid

variable {sizes : List Int} {e : Extent} {t : AffineTransform α}

theorem make_eq (he : (Extent.ofSizes sizes : Except (Fault α) Extent) = .ok e) (spacing : Option (List α))
    (t : AffineTransform α) :
    make sizes spacing (some t) = (do complete e (← spacing.mapM (givenSpacing e)) (some t)) := by
  rw [make, he, ok_bind]

theorem make_of_noExtent {f : Fault α} (he : Extent.ofSizes sizes = .error f) (spacing : Option (List α))
    (t : AffineTransform α) : make sizes spacing (some t) = .error f := by
  rw [make, he, error_bind]

/-- **A grid is made of an orientation** whose axes have a length. -/
theorem exists_make (he : (Extent.ofSizes sizes : Except (Fault α) Extent) = .ok e)
    (ht : positiveSpacing (columnLengths t.matrix).toList = true) :
    ∃ spacing, make sizes none (some t) = .ok ⟨e, spacing, t⟩ := by
  have hlengths : positiveSpacing ((columnLengths t.matrix).toList ++ List.replicate e.series.length 1) = true := by
    have htake : ((columnLengths t.matrix).toList ++ List.replicate e.series.length (1 : α)).take 3 =
        (columnLengths t.matrix).toList.take 3 := List.take_append_of_le_length (by simp)
    rwa [positiveSpacing, htake]
  rw [make_eq he]
  exact ⟨_, if_pos hlengths⟩

theorem exists_givenSpacing {zooms : List α} (hlength : 3 ≤ zooms.length) (hpositive : positiveSpacing zooms = true)
    (e : Extent) : ∃ spacing, givenSpacing e zooms = .ok spacing := by
  obtain ⟨last, hlast⟩ : ∃ last, zooms.getLast? = some last := by
    cases h : zooms.getLast? with
    | none =>
      rw [List.getLast?_eq_none_iff.1 h] at hlength
      cases hlength
    | some last => exact ⟨last, rfl⟩
  obtain ⟨spacing, hfit, htake⟩ : ∃ spacing, fitSpacing e.axes zooms = .ok spacing ∧ spacing.take 3 = zooms.take 3 := by
    have haxes : min 3 e.axes = 3 := by
      unfold Extent.axes
      omega
    unfold fitSpacing
    rw [hlast]
    refine ⟨_, rfl, ?_⟩
    rw [List.take_take, haxes, List.append_assoc, List.take_append_of_le_length hlength]
  have hspacing : positiveSpacing spacing = true := by
    rwa [positiveSpacing, htake]
  refine ⟨spacing, ?_⟩
  rw [givenSpacing, hfit, ok_bind, if_pos hspacing]
  rfl

/-- **Voxel sizes of a header do not matter to the lattice** of a grid whose axes have a length. -/
theorem exists_make_usableZooms (he : (Extent.ofSizes sizes : Except (Fault α) Extent) = .ok e)
    (ht : positiveSpacing (columnLengths t.matrix).toList = true) (zooms : List α) :
    ∃ spacing, make sizes (usableZooms? zooms) (some t) = .ok ⟨e, spacing, t⟩ := by
  unfold usableZooms?
  split
  · next husable =>
    obtain ⟨hlength, hzooms⟩ := (Bool.and_eq_true _ _).mp husable
    obtain ⟨spacing, hspacing⟩ := exists_givenSpacing (of_decide_eq_true hlength) hzooms e
    rw [make_eq he, Option.mapM_some, hspacing]
    exact ⟨spacing, rfl⟩
  · exact exists_make he ht

end Grid

namespace Tool

variable {o : ToolOptions α} {info : Info α} {cells : Volume α} {t : AffineTransform α}

theorem fst_perform_inputGrid (tool : Tool) (cells : Volume α) (horientation : orientation o info = .ok t)
    (w : Workspace α) :
    ∃ zooms : List α, (Task.perform (tool.inputGrid cells info o.inputAffine) w).1 =
      Grid.make (cells.shape.map Int.ofNat) (Grid.usableZooms? zooms) (some t) := by
  have hnone : Grid.usableZooms? ([] : List α) = none := if_neg (by simp)
  unfold orientation at horientation
  by_cases hgiven : o.inputAffine.isGiven = true
  · rw [if_pos hgiven] at horientation
    refine ⟨[], ?_⟩
    rw [inputGrid_of_isGiven hgiven, horientation, hnone]
    rfl
  · rw [if_neg hgiven] at horientation
    cases horientation
    by_cases hreads : tool.readsZooms = true
    · refine ⟨info.zooms, ?_⟩
      unfold inputGrid
      rw [if_pos (by simp [hgiven, hreads])]
      exact Task.fst_perform_gridOf _ w
    · refine ⟨[], ?_⟩
      unfold inputGrid
      rw [if_neg (by simp [hreads]), if_neg hgiven, hnone]
      rfl

/-- **The grid of a volume** has its shape and its orientation, if the axes of that have a length. -/
theorem exists_fst_perform_inputGrid (tool : Tool) (horientation : orientation o info = .ok t)
    (ht : Grid.positiveSpacing (columnLengths t.matrix).toList = true) {e : Extent}
    (he : (Extent.ofSizes (cells.shape.map Int.ofNat) : Except (Fault α) Extent) = .ok e) (w : Workspace α) :
    ∃ spacing, (Task.perform (tool.inputGrid cells info o.inputAffine) w).1 = .ok ⟨e, spacing, t⟩ := by
  obtain ⟨zooms, hzooms⟩ := fst_perform_inputGrid tool cells horientation w
  rw [hzooms]
  exact Grid.exists_make_usableZooms he ht zooms

theorem fst_perform_inputGrid_of_noExtent (tool : Tool) (horientation : orientation o info = .ok t) {f : Fault α}
    (he : Extent.ofSizes (cells.shape.map Int.ofNat) = .error f) (w : Workspace α) :
    (Task.perform (tool.inputGrid cells info o.inputAffine) w).1 = .error f := by
  obtain ⟨zooms, hzooms⟩ := fst_perform_inputGrid tool cells horientation w
  rw [hzooms, Grid.make_of_noExtent he]

end Tool

end Regrid
