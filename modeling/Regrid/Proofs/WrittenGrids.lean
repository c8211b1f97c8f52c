import Mathlib
import Regrid.Proofs.Factors
import Regrid.Proofs.Plans
import Regrid.Proofs.RegularGrids
import Regrid.Proofs.WrittenNumbers
/-!
# WrittenGrids — which grids can be written

A grid is written as its sizes, voxel sizes if they are given, and a matrix if there is one.  It has too few axes, or a
size, a voxel size or the length of a column of the matrix that is not positive, or else it is made: then it is regular,
and voxel sizes that are not given are the lengths of the columns of its matrix (`Grid.ofWritten_ends`).  In exact
arithmetic a column without length is a zero column; a rounded length may be zero where the column is not
(`Grid.ofWritten_underflow`).
-/
namespace RealMatrix

theorem stepLength_pos_iff_column (a : RealMatrix 4 4) (j : Fin 3) :
    0 < a.stepLength j ↔ ¬∀ i : Fin 3, a i.castSucc j.castSucc = 0 := by
  have hnonneg : ∀ i ∈ Finset.univ, 0 ≤ a (Fin.castSucc i : Fin 4) j.castSucc ^ 2 := fun i _ => sq_nonneg _
  rw [stepLength, Real.sqrt_pos, (Finset.sum_nonneg hnonneg).lt_iff_ne', ne_eq,
    Finset.sum_eq_zero_iff_of_nonneg hnonneg]
  simp

end RealMatrix

namespace Regrid

open Exact RealMatrix

/-- **Voxel sizes as a user asks for them**: left out, one number, or a list of at least one. -/
inductive SpacingRequest (α : Type)
  | absent
  | number (n : Number α)
  | list (first : Number α) (rest : List (Number α))

namespace SpacingRequest

variable {α : Type}

def toLiteral : SpacingRequest α → Literal α
  | absent => .null
  | number n => .number n
  | list n ns => .ofNumbers (n :: ns)

/-- **The numbers asked for**, if there are any. -/
def numbers? : SpacingRequest α → Option (List (Number α))
  | absent => none
  | number n => some [n]
  | list n ns => some (n :: ns)

variable [Scalar α]

def values? (r : SpacingRequest α) : Option (List α) := r.numbers?.map (·.map Number.toScalar)

/-- **The voxel size asked for along an axis**: the last number stands for all further axes. -/
def along? (r : SpacingRequest α) (axis : Nat) : Option α := r.values?.bind fun xs => xs[min axis (xs.length - 1)]?

/-- **A request fits** if each of its numbers fits the scalars. -/
def Fits (r : SpacingRequest α) : Prop := ∀ ns, r.numbers? = some ns → ∀ n ∈ ns, n.Fits

/-- **The voxel sizes of a header as a request**: all of them if there are at least three, the first three of which are
positive, and none otherwise. -/
def ofZooms : Option (List (Number α)) → SpacingRequest α
  | some (n :: ns) =>
    if 3 ≤ (n :: ns).length && ((n :: ns).take 3).all Number.isPositive then list n ns else absent
  | _ => absent

theorem ne_nil_of_values? {r : SpacingRequest α} {xs : List α} (h : r.values? = some xs) : xs ≠ [] := by
  cases r with
  | absent => cases h
  | number n =>
    cases h
    exact List.cons_ne_nil _ _
  | list n ns =>
    cases h
    exact List.cons_ne_nil _ _

theorem values?_eq_none_iff {r : SpacingRequest α} : r.values? = none ↔ r = absent := by
  cases r <;> simp [values?, numbers?]

theorem fits_absent : (absent : SpacingRequest α).Fits := fun _ h => nomatch h

theorem fits_exact (r : SpacingRequest Exact) : r.Fits := fun _ _ n _ => n.fits_exact

theorem along?_absent (axis : Nat) : (absent : SpacingRequest α).along? axis = none := rfl

/-- **Each axis has a voxel size**, if any are asked for. -/
theorem exists_along? {r : SpacingRequest α} (h : r ≠ absent) (axis : Nat) : ∃ x, r.along? axis = some x := by
  cases hvalues : r.values? with
  | none => exact absurd (values?_eq_none_iff.1 hvalues) h
  | some xs =>
    have hpositive := List.length_pos_iff.2 (ne_nil_of_values? hvalues)
    exact ⟨xs[min axis (xs.length - 1)], by
      rw [along?, hvalues, Option.bind_some, List.getElem?_eq_getElem]⟩

end SpacingRequest

namespace Grid

section Scalars

variable {α : Type} [Scalar α] {sizes : List Int} {e : Extent}

theorem positiveSpacing_of_fitSpacing {axes : Nat} {given spacing : List α} (haxes : 3 ≤ axes)
    (h : fitSpacing axes given = .ok spacing) : positiveSpacing spacing = true ↔
      ∀ axis < 3, ∀ x, given[min axis (given.length - 1)]? = some x → 0 < x := by
  rw [positiveSpacing_iff]
  constructor
  · intro hpositive axis haxis x hx
    rw [← getElem?_of_fitSpacing haxes h haxis] at hx
    exact hpositive x (List.mem_iff_getElem?.2 ⟨axis, by rw [List.getElem?_take_of_lt haxis, hx]⟩)
  · intro hpositive x hx
    obtain ⟨axis, haxis⟩ := List.mem_iff_getElem?.1 hx
    rw [List.getElem?_take] at haxis
    split at haxis
    · next hless => exact hpositive axis hless x ((getElem?_of_fitSpacing haxes h hless).symm.trans haxis)
    · cases haxis

/-- **A grid with voxel sizes that are given** is made, or one of the spatial ones is not positive. -/
theorem make_given (he : (Extent.ofSizes sizes : Except (Fault α) Extent) = .ok e) {given : List α}
    (hgiven : given ≠ []) (t : Option (AffineTransform α)) :
    ∃ spacing, fitSpacing e.axes given = .ok spacing ∧
      ((∀ axis < 3, ∀ x, given[min axis (given.length - 1)]? = some x → 0 < x) ∧
          make sizes (some given) t = .ok ⟨e, spacing, t.getD (scaling spacing)⟩ ∨
        (¬∀ axis < 3, ∀ x, given[min axis (given.length - 1)]? = some x → 0 < x) ∧
          make sizes (some given) t = .error (.gridSpacing spacing)) := by
  obtain ⟨spacing, hfit⟩ : ∃ spacing, fitSpacing e.axes given = .ok spacing := exists_fitSpacing hgiven
  refine ⟨spacing, hfit, ?_⟩
  rw [← positiveSpacing_of_fitSpacing (Nat.le_add_right 3 _) hfit, make, he, ok_bind, Option.mapM_some, givenSpacing,
    hfit, ok_bind]
  by_cases hpositive : positiveSpacing spacing = true
  · rw [if_pos hpositive]
    exact .inl ⟨hpositive, rfl⟩
  · rw [if_neg hpositive]
    exact .inr ⟨hpositive, rfl⟩

theorem complete_absent (e : Extent) {t : Option (AffineTransform α)} {placed : AffineTransform α}
    (h : t.getD (scaling [1, 1, 1]) = placed) : complete e none t =
      if positiveSpacing ((columnLengths placed.matrix).toList ++ List.replicate e.series.length 1) then
        .ok ⟨e, (columnLengths placed.matrix).toList ++ List.replicate e.series.length 1, placed⟩
      else .error (.degenerateGrid placed.matrix) := by
  subst h
  rfl

/-- **A grid without voxel sizes** has the lengths of the columns of its matrix, all of which have to be positive. -/
theorem make_absent (he : (Extent.ofSizes sizes : Except (Fault α) Extent) = .ok e) {t : Option (AffineTransform α)}
    {placed : AffineTransform α} (h : t.getD (scaling [1, 1, 1]) = placed) :
    (∀ j, 0 < (columnLengths placed.matrix).get j) ∧ make sizes none t =
        .ok ⟨e, (columnLengths placed.matrix).toList ++ List.replicate e.series.length 1, placed⟩ ∨
      (¬∀ j, 0 < (columnLengths placed.matrix).get j) ∧ make sizes none t = .error (.degenerateGrid placed.matrix) := by
  have hmake : make sizes none t = complete e none t := by
    rw [make, he, ok_bind]
    rfl
  rw [hmake, complete_absent e h]
  by_cases hlengths : ∀ j, 0 < (columnLengths placed.matrix).get j
  · exact .inl ⟨hlengths, if_pos (positiveSpacing_append.2 hlengths)⟩
  · exact .inr ⟨hlengths, if_neg fun h => hlengths (positiveSpacing_append.1 h)⟩

theorem sizesOfLiteral_ofNumbers (sizes : List Int) :
    Extent.sizesOfLiteral (.ofNumbers (sizes.map .int) : Literal α) = .ok sizes := by
  have hread : ∀ sizes : List Int, ((sizes.map Number.int).map Literal.number).mapM Literal.toInt =
      (.ok sizes : Except (Fault α) (List Int)) := by
    intro sizes
    induction sizes with
    | nil => rfl
    | cons n sizes ih =>
      rw [List.map_cons, List.map_cons, List.mapM_cons, ih]
      rfl
  exact hread sizes

end Scalars

theorem error_kind_iff {α : Type} {f : Fault α} {k : Fault.Kind} {p : Prop} (h : f.kind = k ↔ p) :
    (∃ f', (.error f : Except (Fault α) (Grid α)) = .error f' ∧ f'.kind = k) ↔ p := by
  rw [← h]
  exact ⟨fun ⟨_, hf, hk⟩ => Except.error.inj hf ▸ hk, fun hk => ⟨f, rfl, hk⟩⟩

theorem ok_kind_iff {α : Type} {g : Grid α} {k : Fault.Kind} {p : Prop} (h : ¬p) :
    (∃ f, (.ok g : Except (Fault α) (Grid α)) = .error f ∧ f.kind = k) ↔ p :=
  iff_of_false (fun ⟨_, hf, _⟩ => nomatch hf) h

section Written

variable {α : Type} [Scalar α] {sizes : List Int} {r : SpacingRequest α} {t : Option (Matrix 4 4 α)}

/-- **A grid as it is written** with whole numbers for its sizes, and a matrix if there is one. -/
def ofWritten (sizes : List Int) (r : SpacingRequest α) (t : Option (Matrix 4 4 α)) : Except (Fault α) (Grid α) :=
  ofLiterals (.ofNumbers (sizes.map .int)) r.toLiteral (t.elim .null .ofRows)

/-- **The grid of a header as it is written** with whole numbers for its sizes, a matrix, and voxel sizes if it has
any. -/
def ofWrittenHeader (sizes : List Int) (a : Matrix 4 4 α) (zooms : Option (List (Number α))) :
    Except (Fault α) (Grid α) :=
  (ofHeaderLiterals (.ofNumbers (sizes.map .int)) (.ofRows a) (zooms.elim .null .ofNumbers)).1

/-- **The grid of a header as it is written** is the grid that its sizes and its matrix are written for, with its voxel
sizes if these can be used. -/
theorem ofWrittenHeader_eq (sizes : List Int) (a : Matrix 4 4 α) {zooms : Option (List (Number α))}
    (h : ∀ ns, zooms = some ns → ∀ n ∈ ns.take 3, n.Fits) :
    ofWrittenHeader sizes a zooms = ofWritten sizes (.ofZooms zooms) (some a) := by
  unfold ofWrittenHeader ofWritten
  cases zooms with
  | none => rfl
  | some ns =>
    have hgiven : (Literal.ofNumbers ns).isGiven = true := rfl
    simp only [Option.elim_some, ofHeaderLiterals, hgiven, zoomsUsable_ofNumbers, ok_bind, Bool.not_true,
      Bool.false_eq_true, if_false]
    cases ns with
    | nil => rfl
    | cons n ns =>
      rw [SpacingRequest.ofZooms]
      cases husable : decide (3 ≤ (n :: ns).length) && ((n :: ns).take 3).all Number.isPositive with
      | false => rfl
      | true =>
        have hlength : 3 ≤ (n :: ns).length := of_decide_eq_true ((Bool.and_eq_true _ _).mp husable).1
        obtain ⟨lengths, hlengths, hshape⟩ : ∃ lengths : Tensor α, tableColumnLengths
            (Tensor.build [4, 4] a.entry) = .ok lengths ∧ lengths.shape = [3] := ⟨_, rfl, rfl⟩
        obtain ⟨agrees, hagrees⟩ := exists_zoomsMatchTable hlength (h _ rfl) hshape
        rw [Literal.toReals_ofRows, ok_bind, hlengths, ok_bind, hagrees]
        rfl

/-- **A grid completes what is written** of its voxel sizes and its matrix: what is given is kept, a matrix that is left
out scales by the voxel sizes, by one if these are left out too, and spatial voxel sizes that are left out are the
lengths of the columns. -/
structure Completes (g : Grid α) (r : SpacingRequest α) (t : Option (Matrix 4 4 α)) : Prop where
  kept : ∀ a, t = some a → g.transform = ⟨a⟩
  scaled : t = none → r ≠ .absent → g.transform = scaling g.spacing
  unscaled : t = none → r = .absent → g.transform = scaling [1, 1, 1]
  spatial (j : Fin 3) : g.spacing[j.val]? = some ((r.along? j).getD ((columnLengths g.transform.matrix).get j))

theorem completes_of_values {xs spacing : List α} {e : Extent} (hvalues : r.values? = some xs)
    (hfit : fitSpacing e.axes xs = .ok spacing) :
    Completes ⟨e, spacing, (t.map .mk).getD (scaling spacing)⟩ r t where
  kept a ha := by rw [ha]; rfl
  scaled ht _ := by rw [ht]; rfl
  unscaled _ hr := by
    rw [SpacingRequest.values?_eq_none_iff.2 hr] at hvalues
    cases hvalues
  spatial j := by
    have halong : r.along? j = spacing[j.val]? := by
      rw [getElem?_of_fitSpacing (Nat.le_add_right 3 _) hfit j.isLt, SpacingRequest.along?, hvalues, Option.bind_some]
    obtain ⟨x, hx⟩ := SpacingRequest.exists_along? (r := r) (fun h => by
      rw [SpacingRequest.values?_eq_none_iff.2 h] at hvalues
      cases hvalues) j
    rw [← halong, hx, Option.getD_some]

theorem completes_absent {e : Extent} {placed : AffineTransform α} (h : (t.map .mk).getD (scaling [1, 1, 1]) = placed)
    (rest : List α) : Completes ⟨e, (columnLengths placed.matrix).toList ++ rest, placed⟩ .absent t where
  kept a ha := by rw [← h, ha]; rfl
  scaled _ hr := absurd rfl hr
  unscaled ht _ := by rw [← h, ht]; rfl
  spatial j := by
    rw [SpacingRequest.along?_absent, Option.getD_none, List.getElem?_append_left (by simp), Vector.getElem?_toList]
    exact Vector.getElem?_eq_getElem j.isLt

/-- **How writing a grid ends.** -/
inductive WritingEnds (sizes : List Int) (r : SpacingRequest α) (t : Option (Matrix 4 4 α)) :
    Except (Fault α) (Grid α) → Prop
  | fewAxes (h : sizes.length < 3) : WritingEnds sizes r t (.error (.gridAxes sizes))
  | emptyAxis (hlength : 3 ≤ sizes.length) (h : ∃ n ∈ sizes, n < 1) :
    WritingEnds sizes r t (.error (.gridSizes sizes))
  | beyond (hlength : 3 ≤ sizes.length) (hsizes : ∀ n ∈ sizes, 1 ≤ n) (h : ¬r.Fits) :
    WritingEnds sizes r t (.error .outOfRange)
  | notPositive (hlength : 3 ≤ sizes.length) (hsizes : ∀ n ∈ sizes, 1 ≤ n) (hfits : r.Fits)
    (h : ∃ axis < 3, ∃ x, r.along? axis = some x ∧ ¬0 < x) (spacing : List α) :
    WritingEnds sizes r t (.error (.gridSpacing spacing))
  | degenerate (hlength : 3 ≤ sizes.length) (hsizes : ∀ n ∈ sizes, 1 ≤ n) (habsent : r = .absent)
    (h : ∃ j, ¬0 < (columnLengths (t.getD (scaling [1, 1, 1]).matrix)).get j) (b : Matrix 4 4 α) :
    WritingEnds sizes r t (.error (.degenerateGrid b))
  | made (hlength : 3 ≤ sizes.length) (hsizes : ∀ n ∈ sizes, 1 ≤ n) (hfits : r.Fits)
    (hpositive : ∀ axis < 3, ∀ x, r.along? axis = some x → 0 < x)
    (hcolumns : r = .absent → ∀ j, 0 < (columnLengths (t.getD (scaling [1, 1, 1]).matrix)).get j) {g : Grid α}
    (hshape : g.shape = sizes.map Int.toNat) (hcompletes : g.Completes r t) : WritingEnds sizes r t (.ok g)

/-- **What is accepted and what is refused**, by the sort of the fault. -/
theorem WritingEnds.accepts {x : Except (Fault α) (Grid α)} (h : WritingEnds sizes r t x) :
    (∀ g, x = .ok g → g.shape = sizes.map Int.toNat ∧ g.Completes r t) ∧
    ((∃ f, x = .error f ∧ f.kind = .dimension) ↔ sizes.length < 3) ∧
    ((∃ f, x = .error f ∧ f.kind = .value) ↔ 3 ≤ sizes.length ∧
      ((∃ n ∈ sizes, n < 1) ∨ r.Fits ∧ (∃ axis < 3, ∃ x, r.along? axis = some x ∧ ¬0 < x) ∨
        r = .absent ∧ ∃ j, ¬0 < (columnLengths (t.getD (scaling [1, 1, 1]).matrix)).get j)) ∧
    ((∃ f, x = .error f ∧ f.kind = .overflow) ↔ 3 ≤ sizes.length ∧ (∀ n ∈ sizes, 1 ≤ n) ∧ ¬r.Fits) ∧
    ∀ f, x = .error f → f.kind = .dimension ∨ f.kind = .value ∨ f.kind = .overflow := by
  have hnotEmpty : (∀ n ∈ sizes, 1 ≤ n) → ¬∃ n ∈ sizes, n < 1 := fun h ⟨n, hn, hlt⟩ => absurd (h n hn) (not_le.2 hlt)
  cases h with
  | fewAxes hfew =>
    exact ⟨fun _ => nofun, error_kind_iff (iff_of_true rfl hfew),
      error_kind_iff (iff_of_false nofun fun h => not_lt.2 h.1 hfew),
      error_kind_iff (iff_of_false nofun fun h => not_lt.2 h.1 hfew), by rintro _ ⟨⟩; exact .inl rfl⟩
  | emptyAxis hlength hempty =>
    exact ⟨fun _ => nofun, error_kind_iff (iff_of_false nofun (not_lt.2 hlength)),
      error_kind_iff (iff_of_true rfl ⟨hlength, .inl hempty⟩),
      error_kind_iff (iff_of_false nofun fun h => hnotEmpty h.2.1 hempty),
      by rintro _ ⟨⟩; exact .inr (.inl rfl)⟩
  | beyond hlength hsizes hbeyond =>
    refine ⟨fun _ => nofun, error_kind_iff (iff_of_false nofun (not_lt.2 hlength)),
      error_kind_iff (iff_of_false nofun ?_),
      error_kind_iff (iff_of_true rfl ⟨hlength, hsizes, hbeyond⟩), by rintro _ ⟨⟩; exact .inr (.inr rfl)⟩
    rintro ⟨-, hempty | ⟨hfits, -⟩ | ⟨rfl, -⟩⟩
    · exact hnotEmpty hsizes hempty
    · exact hbeyond hfits
    · exact hbeyond SpacingRequest.fits_absent
  | notPositive hlength hsizes hfits hasked =>
    exact ⟨fun _ => nofun, error_kind_iff (iff_of_false nofun (not_lt.2 hlength)),
      error_kind_iff (iff_of_true rfl ⟨hlength, .inr (.inl ⟨hfits, hasked⟩)⟩),
      error_kind_iff (iff_of_false nofun fun h => h.2.2 hfits), by rintro _ ⟨⟩; exact .inr (.inl rfl)⟩
  | degenerate hlength hsizes habsent hzero =>
    exact ⟨fun _ => nofun, error_kind_iff (iff_of_false nofun (not_lt.2 hlength)),
      error_kind_iff (iff_of_true rfl ⟨hlength, .inr (.inr ⟨habsent, hzero⟩)⟩),
      error_kind_iff (iff_of_false nofun fun h => h.2.2 (habsent ▸ SpacingRequest.fits_absent)),
      by rintro _ ⟨⟩; exact .inr (.inl rfl)⟩
  | made hlength hsizes hfits hpositive hcolumns hshape hcompletes =>
    refine ⟨by rintro _ ⟨⟩; exact ⟨hshape, hcompletes⟩, ok_kind_iff (not_lt.2 hlength), ok_kind_iff ?_,
      ok_kind_iff fun h => h.2.2 hfits, fun _ => nofun⟩
    rintro ⟨-, hempty | ⟨-, axis, haxis, x, hx, hnot⟩ | ⟨habsent, j, hj⟩⟩
    · exact hnotEmpty hsizes hempty
    · exact hnot (hpositive axis haxis x hx)
    · exact hj (hcolumns habsent j)

variable [Scalar.Lawful α]

/-- **A grid as it is written** reads its sizes first, and then its voxel sizes one after the other. -/
theorem ofWritten_eq (sizes : List Int) (r : SpacingRequest α) (t : Option (Matrix 4 4 α)) :
    ofWritten sizes r t = (do
      let e ← Extent.ofSizes sizes
      let spacing ← r.numbers?.mapM fun ns => do givenSpacing e (← ns.mapM Number.toReal)
      complete e spacing (t.map .mk)) := by
  have hspacing : ∀ e : Extent, (r.toLiteral.given?.mapM fun l => do givenSpacing e (← spacingOfLiteral l)) =
      r.numbers?.mapM fun ns => (do givenSpacing e (← ns.mapM Number.toReal)) := by
    intro e
    cases r with
    | absent => rfl
    | number n =>
      change some <$> (spacingOfLiteral (.number n) >>= givenSpacing e) = some <$> _
      rw [spacingOfLiteral_number]
    | list n ns =>
      change some <$> (spacingOfLiteral (.ofNumbers (n :: ns)) >>= givenSpacing e) = some <$> _
      rw [spacingOfLiteral_ofNumbers]
  have htransform : (t.elim Literal.null Literal.ofRows).given?.mapM AffineTransform.ofLiteral =
      .ok (t.map .mk) := by
    cases t with
    | none => rfl
    | some a =>
      change some <$> AffineTransform.ofLiteral (.ofRows a) = _
      rw [AffineTransform.ofLiteral_ofRows]
      rfl
  unfold ofWritten ofLiterals
  rw [sizesOfLiteral_ofNumbers, ok_bind, htransform]
  refine congrArg (Extent.ofSizes sizes >>= ·) (funext fun e => ?_)
  rw [hspacing]
  rfl

theorem ofWritten_of_fits (h : r.Fits) : ofWritten sizes r t = make sizes r.values? (t.map .mk) := by
  rw [ofWritten_eq, make]
  refine congrArg (Extent.ofSizes sizes >>= ·) (funext fun e => ?_)
  cases hnumbers : r.numbers? with
  | none =>
    rw [SpacingRequest.values?, hnumbers]
    rfl
  | some ns =>
    rw [SpacingRequest.values?, hnumbers, Option.mapM_some, Number.mapM_toReal_of_fits (h ns hnumbers)]
    rfl

theorem ofWritten_of_noExtent {f : Fault α} (he : Extent.ofSizes sizes = .error f) :
    ofWritten sizes r t = .error f := by
  rw [ofWritten_eq, he, error_bind]

theorem ofWritten_of_not_fits {e : Extent} (he : (Extent.ofSizes sizes : Except (Fault α) Extent) = .ok e)
    (h : ¬r.Fits) : ofWritten sizes r t = .error .outOfRange := by
  obtain ⟨ns, hns, hbeyond⟩ : ∃ ns, r.numbers? = some ns ∧ ¬∀ n ∈ ns, n.Fits := by
    simpa [SpacingRequest.Fits] using h
  rw [ofWritten_eq, he, ok_bind, hns, Option.mapM_some, Number.mapM_toReal_of_not_fits hbeyond]
  rfl

/-- **The ways in which a grid is written**: with too few axes, with a size below one, with a voxel size beyond all
scalars or one that is not positive, without voxel sizes beside a column without length, or else as a grid. -/
theorem ofWritten_ends (sizes : List Int) (r : SpacingRequest α) (t : Option (Matrix 4 4 α)) :
    WritingEnds sizes r t (ofWritten sizes r t) := by
  obtain ⟨hlength, hfault⟩ | ⟨hlength, hempty, hfault⟩ | ⟨hlength, hsizes, e, he, hshape⟩ :=
    Extent.ofSizes_cases (α := α) sizes
  · rw [ofWritten_of_noExtent hfault]
    exact .fewAxes hlength
  · rw [ofWritten_of_noExtent hfault]
    exact .emptyAxis hlength hempty
  by_cases hfits : r.Fits
  case neg =>
    rw [ofWritten_of_not_fits he hfits]
    exact .beyond hlength hsizes hfits
  rw [ofWritten_of_fits hfits]
  cases hvalues : r.values? with
  | some xs =>
    have halong : ∀ axis, r.along? axis = xs[min axis (xs.length - 1)]? := fun axis => by
      rw [SpacingRequest.along?, hvalues, Option.bind_some]
    obtain ⟨spacing, hfit, ⟨hpositive, hmade⟩ | ⟨hnotPositive, hmade⟩⟩ :=
      make_given he (SpacingRequest.ne_nil_of_values? hvalues) (t.map .mk)
    · rw [hmade]
      refine .made hlength hsizes hfits (by simpa only [halong] using hpositive) (fun h => ?_) hshape
        (completes_of_values hvalues hfit)
      rw [SpacingRequest.values?_eq_none_iff.2 h] at hvalues
      cases hvalues
    · rw [hmade]
      push Not at hnotPositive
      exact .notPositive hlength hsizes hfits (by simpa only [halong] using hnotPositive) spacing
  | none =>
    obtain rfl := SpacingRequest.values?_eq_none_iff.1 hvalues
    have hplaced : (t.map .mk).getD (scaling [1, 1, 1]) = ⟨t.getD (scaling [1, 1, 1]).matrix⟩ := by
      cases t <;> rfl
    obtain ⟨hlengths, hmade⟩ | ⟨hzero, hmade⟩ := make_absent he hplaced
    · rw [hmade]
      exact .made hlength hsizes hfits (fun axis _ x h => nomatch h) (fun _ => hlengths) hshape
        (completes_absent hplaced _)
    · rw [hmade]
      exact .degenerate hlength hsizes rfl (not_forall.1 hzero) _

end Written

section Header

variable {α : Type} [Scalar α] {sizes : List Int}

/-- **The grid of a header never fails because of its voxel sizes**, and has the orientation of the header. -/
theorem make_usableZooms_eq_error {t : AffineTransform α} (zooms : Option (List α)) {f : Fault α}
    (h : make sizes (zooms.bind usableZooms?) (some t) = .error f) : make sizes none (some t) = .error f := by
  cases he : (Extent.ofSizes sizes : Except (Fault α) Extent) with
  | error f' =>
    rw [make_of_noExtent he] at h ⊢
    exact h
  | ok e =>
    cases husable : zooms.bind usableZooms? with
    | none =>
      rw [husable] at h
      exact h
    | some given =>
      obtain ⟨zooms, -, hused⟩ := Option.bind_eq_some_iff.1 husable
      unfold usableZooms? at hused
      split at hused
      · next husable' =>
        cases hused
        obtain ⟨hlength, hpositive⟩ := (Bool.and_eq_true _ _).mp husable'
        obtain ⟨spacing, hspacing⟩ := exists_givenSpacing (of_decide_eq_true hlength) hpositive e
        rw [husable, make_eq he, Option.mapM_some, hspacing] at h
        cases h
      · cases hused

variable [Scalar.Ordered α]

theorem usableZooms?_map {ns : List (Number α)} (hlength : 3 ≤ ns.length)
    (hpositive : (ns.take 3).all Number.isPositive = true) :
    usableZooms? (ns.map Number.toScalar) = some (ns.map Number.toScalar) := by
  have hscalars : positiveSpacing (ns.map Number.toScalar) = true := by
    rw [positiveSpacing_iff, ← List.map_take, List.forall_mem_map]
    exact fun n hn => Number.toScalar_pos (List.all_eq_true.1 hpositive n hn)
  exact if_pos (by rw [List.length_map, decide_eq_true hlength, hscalars]; rfl)

/-- **Voxel sizes of a header** that fit do not make it fail, and its fault is that of the grid without them. -/
theorem ofWrittenHeader_eq_error [Scalar.Lawful α] {a : Matrix 4 4 α} {zooms : Option (List (Number α))}
    (hfits : ∀ ns, zooms = some ns → ∀ n ∈ ns, n.Fits) {f : Fault α} (h : ofWrittenHeader sizes a zooms = .error f) :
    ofWritten sizes .absent (some a) = .error f := by
  rw [ofWrittenHeader_eq _ _ fun ns hns n hn => hfits ns hns n (List.mem_of_mem_take hn)] at h
  unfold SpacingRequest.ofZooms at h
  split at h
  · next n ns =>
    split at h
    · next husable =>
      obtain ⟨hlength, hpositive⟩ := (Bool.and_eq_true _ _).mp husable
      have hrequest : (SpacingRequest.list n ns).Fits := fun _ hns => by
        cases hns
        exact hfits _ rfl
      have hvalues : (SpacingRequest.list n ns).values? = (some ((n :: ns).map Number.toScalar)).bind usableZooms? :=
        (usableZooms?_map (of_decide_eq_true hlength) hpositive).symm
      rw [ofWritten_of_fits hrequest, hvalues] at h
      rw [ofWritten_of_fits SpacingRequest.fits_absent]
      exact make_usableZooms_eq_error _ h
    · exact h
  · exact h

end Header

section Columns

variable {α : Type} [Scalar α]

theorem get_columnLengths (t : AffineTransform α) (j : Fin 3) :
    (columnLengths t.matrix).get j = Point.norm (t.linear.column j) := by
  simp [columnLengths, AffineTransform.linear, Matrix.column, Matrix.ofFn]

theorem column_linear_scaling {spacing : List α} {x : α} {j : Fin 3} (hx : spacing[j.val]? = some x) :
    (scaling spacing).linear.column j = Vector.ofFn fun i => if i = j then x else 0 := by
  refine congrArg Vector.ofFn (funext fun i => ?_)
  have hlinear : ((scaling spacing).linear.get i).get j = if i = j then (spacing[i.val]?).getD 1 else 0 := by
    simp [AffineTransform.linear, scaling, AffineTransform.ofParts, Matrix.diagonal, Matrix.ofFn, Fin.ext_iff]
  rw [hlinear]
  split
  · next h => rw [h, hx, Option.getD_some]
  · rfl

/-- **The square of a step along one axis**, where zeros neither add nor multiply to anything. -/
theorem dot_axis (hleft : ∀ y : α, 0 + y = y) (hright : ∀ y : α, y + 0 = y) (hzero : (0 : α) * 0 = 0) (x : α)
    (j : Fin 3) : Point.dot (Vector.ofFn fun i : Fin 3 => if i = j then x else 0)
      (Vector.ofFn fun i => if i = j then x else 0) = x * x := by
  fin_cases j <;> simp [Point.dot, Fin.foldl_succ, hleft, hright, hzero]

theorem dot_axis_exact (x : Exact) (j : Fin 3) :
    Point.dot (Vector.ofFn fun i : Fin 3 => if i = j then x else 0) (Vector.ofFn fun i => if i = j then x else 0) =
      x * x := by
  have hzero : (0 : Exact) = finite 0 := by simp
  refine dot_axis (fun y => ?_) Exact.add_zero ?_ x j
  · rw [hzero, Exact.zero_add]
  · rw [hzero, finite_mul, mul_zero]

theorem column_linear_affine (b : RealMatrix 4 4) (j : Fin 3) :
    (affine b).linear.column j = point fun i => b i.castSucc j.castSucc := by
  simp [AffineTransform.linear, affine, Matrix.column, Matrix.ofFn, point]

theorem norm_mul_self_point {n : Nat} (x : Fin n → ℝ) :
    Point.norm (point x) * Point.norm (point x) = Point.dot (point x) (point x) := by
  have hnonneg : 0 ≤ ∑ i, x i ^ 2 := Finset.sum_nonneg fun i _ => sq_nonneg _
  rw [norm_point, finite_mul, Real.mul_self_sqrt hnonneg, dot_point]
  simp only [pow_two]

theorem scaling_ones : scaling [1, 1, 1] = affine (parts (RealMatrix.scaling fun _ => 1) 0) := by
  have hone : (1 : Exact) = finite 1 := by simp
  have hzero : (0 : Exact) = finite 0 := by simp
  have hones : (Vector.ofFn fun i : Fin 3 => (([1, 1, 1] : List Exact)[i.val]?).getD 1) = point fun _ => 1 := by
    refine congrArg Vector.ofFn (funext fun i => ?_)
    fin_cases i <;> exact hone
  have hzeros : Vector.replicate 3 (0 : Exact) = point 0 := by
    rw [hzero, replicate_finite]
    rfl
  rw [scaling, hones, hzeros, diagonal_point, ofParts_matrix]

/-- **Only a zero column has no length**, in exact arithmetic. -/
theorem exists_degenerate_iff (t : Option (RealMatrix 4 4)) :
    (∃ j, ¬0 < (columnLengths ((t.map matrix).getD (scaling [1, 1, 1]).matrix)).get j) ↔
      ∃ a, t = some a ∧ ∃ j : Fin 3, ∀ i : Fin 3, a i.castSucc j.castSucc = 0 := by
  have hzero : (0 : Exact) = finite 0 := by simp
  have hcolumn : ∀ (b : RealMatrix 4 4) (j : Fin 3),
      ¬0 < (columnLengths (matrix b)).get j ↔ ∀ i : Fin 3, b i.castSucc j.castSucc = 0 := by
    intro b j
    have hlength : (columnLengths (matrix b)).get j = finite (b.stepLength j) := by
      rw [columnLengths_matrix, get_point]
    rw [hlength, hzero, finite_lt, stepLength_pos_iff_column, not_not]
  cases t with
  | none =>
    rw [Option.map_none, Option.getD_none, scaling_ones]
    refine iff_of_false ?_ fun ⟨a, ha, _⟩ => nomatch ha
    rintro ⟨j, hj⟩
    have hone := (hcolumn _ j).1 hj j
    simp [parts_castSucc, RealMatrix.scaling] at hone
  | some a =>
    rw [Option.map_some, Option.getD_some]
    simp only [hcolumn, Option.some.injEq, exists_eq_left']

/-- **Voxel sizes are as long as the steps** along their axes: their squares are those of the lengths of the columns. -/
def MeasuresSteps (g : Grid Exact) : Prop :=
  ∀ j : Fin 3, ∃ x, g.spacing[j.val]? = some x ∧
    x * x = Point.dot (g.transform.linear.column j) (g.transform.linear.column j)

theorem Completes.measuresSteps {g : Grid Exact} {r : SpacingRequest Exact} {t : Option (RealMatrix 4 4)}
    (h : g.Completes r (t.map matrix)) (hlength : 3 ≤ g.spacing.length) (hleft : r = .absent ∨ t = none) :
    g.MeasuresSteps := by
  intro j
  by_cases habsent : r = .absent
  · obtain ⟨b, hb⟩ : ∃ b, g.transform = affine b := by
      cases t with
      | none => exact ⟨_, (h.unscaled rfl habsent).trans scaling_ones⟩
      | some a => exact ⟨a, h.kept (matrix a) rfl⟩
    refine ⟨_, h.spatial j, ?_⟩
    rw [habsent, SpacingRequest.along?_absent, Option.getD_none, get_columnLengths, hb, column_linear_affine,
      norm_mul_self_point]
  · obtain rfl := hleft.resolve_left habsent
    obtain ⟨x, hx⟩ : ∃ x, g.spacing[j.val]? = some x := ⟨_, List.getElem?_eq_getElem (j.isLt.trans_le hlength)⟩
    exact ⟨x, hx, by rw [h.scaled rfl habsent, column_linear_scaling hx, dot_axis_exact]⟩

end Columns

section Underflow

theorem columnLength_scaling {spacing : List Rounded} {x : Rounded} {j : Fin 3} (hx : spacing[j.val]? = some x) :
    (columnLengths (scaling spacing).matrix).get j = Scalar.sqrt (x * x) := by
  rw [get_columnLengths, column_linear_scaling hx, Point.norm,
    dot_axis Rounded.zero_add Rounded.add_ofInt_zero Rounded.zero_mul_zero]

/-- **The number `1e-200`** lies between two powers of two; the upper one is too small to be squared. -/
theorem exists_value_tiny : ∃ x : ℝ, (Scalar.ofDecimal 1 (-200) : Rounded).value = finite x ∧ 0 < x ∧
    |x * x| < 2 ^ (Binary.format .double).minExponent / 2 := by
  have hlow : (2 : ℝ) ^ (-7 * 100 : ℤ) ≤ 10 ^ (-2 * 100 : ℤ) := by
    rw [zpow_mul, zpow_mul]
    exact zpow_le_zpow_left₀ (by norm_num) (by positivity) (by norm_num)
  have hhigh : (10 : ℝ) ^ (-2 * 100 : ℤ) ≤ 2 ^ (-6 * 100 : ℤ) := by
    rw [zpow_mul, zpow_mul]
    exact zpow_le_zpow_left₀ (by norm_num) (by positivity) (by norm_num)
  have hsmall : |(10 : ℝ) ^ (-2 * 100 : ℤ)| ≤ 2 ^ 1023 := by
    rw [abs_of_pos (by positivity)]
    exact hhigh.trans ((zpow_le_one_of_nonpos₀ one_le_two (by norm_num)).trans (one_le_pow₀ one_le_two))
  have hvalue : (Scalar.ofDecimal 1 (-200) : Rounded).value =
      finite ((Binary.format .double).rounded (10 ^ (-2 * 100 : ℤ))) := by
    rw [← toDouble_finite hsmall]
    change (finite (((1 : ℤ) : ℝ) * 10 ^ (-200 : ℤ))).toDouble = _
    norm_num
  have hpos : 0 < (Binary.format .double).rounded (10 ^ (-2 * 100 : ℤ)) :=
    (by positivity : (0 : ℝ) < 2 ^ (-7 * 100 : ℤ)).trans_le
      (Binary.Format.le_rounded (by decide) (Binary.Format.isMember_zpow (by decide)) (by positivity) hlow)
  have hle : (Binary.format .double).rounded (10 ^ (-2 * 100 : ℤ)) ≤ 2 ^ (-6 * 100 : ℤ) :=
    Binary.Format.rounded_le (by decide) (Binary.Format.isMember_zpow (by decide)) (by positivity) hhigh
  refine ⟨_, hvalue, hpos, ?_⟩
  rw [abs_of_pos (mul_pos hpos hpos)]
  calc (Binary.format .double).rounded (10 ^ (-2 * 100 : ℤ)) * (Binary.format .double).rounded (10 ^ (-2 * 100 : ℤ))
      ≤ 2 ^ (-6 * 100 : ℤ) * 2 ^ (-6 * 100 : ℤ) := mul_le_mul hle hle hpos.le (by positivity)
    _ = (2 : ℝ) ^ (-1200 : ℤ) := by rw [← zpow_add₀ two_ne_zero]; norm_num
    _ < 2 ^ (-1075 : ℤ) := zpow_lt_zpow_right₀ one_lt_two (by norm_num)
    _ = 2 ^ (Binary.format .double).minExponent / 2 := by
      rw [div_eq_mul_inv, ← zpow_sub_one₀ two_ne_zero]
      rfl

theorem sqrt_tiny_mul_tiny :
    (Scalar.sqrt ((Scalar.ofDecimal 1 (-200) : Rounded) * Scalar.ofDecimal 1 (-200))).value = finite 0 := by
  obtain ⟨x, hx, -, hsquare⟩ := exists_value_tiny
  have hproduct : ((Scalar.ofDecimal 1 (-200) : Rounded) * Scalar.ofDecimal 1 (-200)).value = finite 0 := by
    change ((Scalar.ofDecimal 1 (-200) : Rounded).value * (Scalar.ofDecimal 1 (-200) : Rounded).value).toDouble = _
    rw [hx, finite_mul, toDouble_of_underflow hsquare]
  change (Scalar.sqrt ((Scalar.ofDecimal 1 (-200) : Rounded) * Scalar.ofDecimal 1 (-200)).value).toDouble = _
  rw [hproduct, sqrt_finite le_rfl, Real.sqrt_zero, toDouble_of_underflow (by rw [abs_zero]; positivity)]

theorem sqrt_one_mul_one : (Scalar.sqrt ((1 : Rounded) * 1)).value = finite 1 := by
  have hone : (finite 1).toDouble = finite 1 := by
    simpa using toDouble_of_small (n := 1) (by norm_num)
  have hproduct : ((1 : Rounded) * 1).value = finite 1 := by
    change ((1 : Rounded).value * (1 : Rounded).value).toDouble = _
    rw [Rounded.value_one, finite_mul, mul_one, hone]
  change (Scalar.sqrt ((1 : Rounded) * 1).value).toDouble = _
  rw [hproduct, sqrt_finite zero_le_one, Real.sqrt_one, hone]

theorem not_fits_beyond : ¬(Number.int (10 ^ 400) : Number Rounded).Fits := by
  have hlarge : (2 : ℤ) ^ 1024 ≤ 10 ^ 400 :=
    calc (2 : ℤ) ^ 1024 = (2 ^ 256) ^ 4 := by rw [← pow_mul]
      _ ≤ (10 ^ 100) ^ 4 := pow_le_pow_left₀ (by positivity) (by norm_num) 4
      _ = 10 ^ 400 := by rw [← pow_mul]
  have hless : (2 : ℤ) ^ 1024 - 2 ^ 970 ≤ 2 ^ 1024 := sub_le_self _ (by positivity)
  rw [Number.Fits, Rounded.isFinite_ofInt_iff, abs_of_nonneg (by positivity)]
  exact not_lt.2 (hless.trans hlarge)

end Underflow

end Grid

end Regrid
