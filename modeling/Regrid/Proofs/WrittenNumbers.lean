import Mathlib
import Regrid.Grid
import Regrid.Proofs.WholeFactors
/-!
# WrittenNumbers — voxel sizes as a user writes them

A list of numbers becomes an array whose type suits all of them, and voxel sizes are read from its cells.  That makes no
difference: each number is read as if it stood alone, and one that is beyond all scalars is out of range
(`Grid.spacingOfLiteral_ofNumbers`).
-/
namespace Regrid

open Exact

/-- **Ordered scalars**: rounding keeps a positive integer positive. -/
class Scalar.Ordered (α : Type) [Scalar α] : Prop where
  ofInt_pos {n : Int} : 0 < n → 0 < (Scalar.ofInt n : α)

instance : Scalar.Ordered Exact where
  ofInt_pos {n} h := by
    have hzero : (0 : Exact) = finite 0 := by simp
    rw [hzero, ofInt_eq, finite_lt]
    exact_mod_cast h

instance : Scalar.Ordered Rounded where
  ofInt_pos {n} h := by
    have hone : (1 : ℝ) ≤ n := by exact_mod_cast h
    change (0 : Rounded).value < (Scalar.ofInt n : Rounded).value
    rw [Rounded.value_zero, Rounded.value_ofInt]
    rcases lt_or_ge |(Binary.format .double).rounded n| (2 ^ 1024) with hlt | hle
    · have hmember : (Binary.format .double).IsMember 1 := by
        simpa using Binary.Format.isMember_zpow (f := Binary.format .double) (e := 0) (by decide)
      rw [toDouble_of_lt hlt, finite_lt]
      exact zero_lt_one.trans_le (Binary.Format.le_rounded (by decide) hmember zero_lt_one hone)
    · have hturned : turned false n = false := by
        rw [turned, Bool.false_xor, decide_eq_false (not_lt.2 (zero_le_one.trans hone))]
      rw [toDouble_of_le hle]
      exact hturned

namespace Number

variable {α : Type} [Scalar α]

/-- **A number fits** the scalars, unless it is a whole number beyond all finite ones. -/
def Fits : Number α → Prop
  | int n => Scalar.isFinite (Scalar.ofInt n : α) = true
  | bool _ | real _ => True

/-- **A number is positive**, without being rounded. -/
def isPositive : Number α → Bool
  | bool b => b
  | int n => decide (0 < n)
  | real x => decide (0 < x)

theorem toReal_of_fits {n : Number α} (h : n.Fits) : n.toReal = .ok n.toScalar := by
  cases n with
  | int n =>
    have hsome : (Scalar.ofInt? n : Option α) = some (Scalar.ofInt n) := if_pos h
    rw [toReal, hsome]
    rfl
  | bool | real => rfl

theorem toReal_of_not_fits {n : Number α} (h : ¬n.Fits) : n.toReal = .error .outOfRange := by
  cases n with
  | int n =>
    have hnone : (Scalar.ofInt? n : Option α) = none := if_neg h
    rw [toReal, hnone]
    rfl
  | bool | real => exact absurd trivial h

theorem fits_exact (n : Number Exact) : n.Fits := by
  cases n <;> trivial

theorem mapM_toReal_of_fits : ∀ {ns : List (Number α)}, (∀ n ∈ ns, n.Fits) →
    ns.mapM toReal = .ok (ns.map toScalar)
  | [], _ => rfl
  | n :: ns, h => by
    obtain ⟨hn, hns⟩ := List.forall_mem_cons.1 h
    rw [List.mapM_cons, toReal_of_fits hn, ok_bind, mapM_toReal_of_fits hns]
    rfl

theorem mapM_toReal_of_not_fits : ∀ {ns : List (Number α)}, (¬∀ n ∈ ns, n.Fits) →
    ns.mapM toReal = .error .outOfRange
  | [], h => absurd (fun _ hn => nomatch hn) h
  | n :: ns, h => by
    rw [List.mapM_cons]
    by_cases hn : n.Fits
    · have hns : ¬∀ m ∈ ns, m.Fits := fun hns => h (List.forall_mem_cons.2 ⟨hn, hns⟩)
      rw [toReal_of_fits hn, ok_bind, mapM_toReal_of_not_fits hns, error_bind]
    · rw [toReal_of_not_fits hn, error_bind]

theorem toScalar_pos [Scalar.Ordered α] {n : Number α} (h : n.isPositive = true) : 0 < n.toScalar := by
  cases n with
  | bool b =>
    obtain rfl : b = true := h
    exact Scalar.Ordered.ofInt_pos one_pos
  | int n => exact Scalar.Ordered.ofInt_pos (of_decide_eq_true h)
  | real x => exact of_decide_eq_true h

end Number

namespace Dtype

/-- **The types that suit numbers**, on their own or side by side. -/
def leafTypes : List Dtype := [.bool, .int .int64, .int .uint64, .real .double, .other]

/-- **A type admits a number** if its cells can hold it, a real number in place of a whole one of 64 bits. -/
def Admits {α : Type} : Dtype → Number α → Prop
  | .bool, .bool _ | .int _, .bool _ | .real _, .bool _ | .real _, .real _ | .other, _ => True
  | .int t, .int n => t.holds n = true
  | .real _, .int n => -9223372036854775808 ≤ n ∧ n ≤ 18446744073709551615
  | _, _ => False

theorem mem_leafTypes {d : Dtype} :
    d ∈ leafTypes ↔ d = .bool ∨ d = .int .int64 ∨ d = .int .uint64 ∨ d = .real .double ∨ d = .other := by
  simp [leafTypes]

theorem leafDtype_number {α : Type} (n : Number α) :
    Volume.leafDtype (.number n) ∈ leafTypes ∧ (Volume.leafDtype (.number n)).Admits n := by
  cases n with
  | bool | real => exact ⟨mem_leafTypes.2 (by simp [Volume.leafDtype]), trivial⟩
  | int n =>
    rw [Volume.leafDtype]
    split_ifs with hint64 huint64
    · exact ⟨by decide, hint64⟩
    · exact ⟨by decide, huint64⟩
    · exact ⟨by decide, trivial⟩

theorem Admits.bool {α : Type} {d : Dtype} (hd : d ∈ leafTypes) {n : Number α} (h : Dtype.bool.Admits n) :
    d.Admits n := by
  cases n with
  | bool b => obtain rfl | rfl | rfl | rfl | rfl := mem_leafTypes.1 hd <;> trivial
  | int | real => exact h.elim

theorem Admits.double {α : Type} {d : Dtype} (hd : d ∈ leafTypes) (hother : d ≠ .other) {n : Number α}
    (h : d.Admits n) : (Dtype.real .double).Admits n := by
  cases n with
  | bool | real => trivial
  | int n =>
    obtain rfl | rfl | rfl | rfl | rfl := mem_leafTypes.1 hd
    · exact h.elim
    · exact range_of_holds h
    · exact range_of_holds h
    · exact h
    · exact absurd rfl hother

/-- **Two types that suit numbers have a common one**, which admits all that either admits. -/
theorem exists_join {α : Type} {d e : Dtype} (hd : d ∈ leafTypes) (he : e ∈ leafTypes) :
    ∃ c ∈ leafTypes, (join d e : Except (Fault α) Dtype) = .ok c ∧
      ∀ n : Number α, d.Admits n ∨ e.Admits n → c.Admits n := by
  have hleft : ∀ n : Number α, Dtype.bool.Admits n ∨ e.Admits n → e.Admits n := fun n h => h.elim (.bool he) id
  have hright : ∀ n : Number α, d.Admits n ∨ Dtype.bool.Admits n → d.Admits n := fun n h => h.elim id (.bool hd)
  -- types that differ are joined to double precision, or to that of values as they were written
  have hdouble : d ≠ .other → e ≠ .other → ∀ n : Number α, d.Admits n ∨ e.Admits n →
      (Dtype.real .double).Admits n := fun hd' he' n h => h.elim (.double hd hd') (.double he he')
  obtain rfl | rfl | rfl | rfl | rfl := mem_leafTypes.1 hd <;>
    obtain rfl | rfl | rfl | rfl | rfl := mem_leafTypes.1 he <;>
    first
      | exact ⟨_, he, rfl, hleft⟩
      | exact ⟨_, hd, rfl, hright⟩
      | exact ⟨_, hd, rfl, fun _ h => h.elim id id⟩
      | exact ⟨.real .double, by decide, rfl, hdouble (by decide) (by decide)⟩
      | exact ⟨.other, by decide, rfl, fun _ _ => trivial⟩

/-- **The common type of numbers** admits each of them. -/
theorem exists_commonDtype {α : Type} (ns : List (Number α)) : ∃ d ∈ leafTypes,
    (Volume.commonDtype (ns.map .number) : Except (Fault α) Dtype) = .ok d ∧ ∀ n ∈ ns, d.Admits n := by
  have hfold : ∀ (ns : List (Number α)) (d : Dtype), d ∈ leafTypes → ∃ c ∈ leafTypes,
      ((ns.map Literal.number).foldlM (fun d l => d.join (Volume.leafDtype l)) d : Except (Fault α) Dtype) = .ok c ∧
        (∀ n : Number α, d.Admits n → c.Admits n) ∧ ∀ n ∈ ns, c.Admits n := by
    intro ns
    induction ns with
    | nil => exact fun d hd => ⟨d, hd, rfl, fun _ h => h, fun _ h => nomatch h⟩
    | cons m ns ih =>
      intro d hd
      obtain ⟨hleaf, hm⟩ := leafDtype_number m
      obtain ⟨d', hd', hjoin, hkeeps⟩ := exists_join (α := α) hd hleaf
      obtain ⟨c, hc, hrest, hlater, hns⟩ := ih d' hd'
      refine ⟨c, hc, ?_, fun n hn => hlater n (hkeeps n (.inl hn)), List.forall_mem_cons.2 ⟨?_, hns⟩⟩
      · rw [List.map_cons, List.foldlM_cons, hjoin, ok_bind, hrest]
      · exact hlater m (hkeeps m (.inr hm))
  cases ns with
  | nil => exact ⟨.real .double, by decide, rfl, fun _ h => nomatch h⟩
  | cons m ns =>
    obtain ⟨hleaf, hm⟩ := leafDtype_number m
    obtain ⟨c, hc, hfolded, hfirst, hns⟩ := hfold ns _ hleaf
    exact ⟨c, hc, hfolded, List.forall_mem_cons.2 ⟨hfirst m hm, hns⟩⟩

section Reading

variable {α : Type} [Scalar α] [Scalar.Lawful α] {d : Dtype} {n : Number α}

theorem fits_of_range {n : Int} (h : -9223372036854775808 ≤ n ∧ n ≤ 18446744073709551615) :
    (Number.int n : Number α).Fits := Scalar.Lawful.isFinite_ofInt (by omega) (by omega)

theorem Admits.toReal_int {t : IntType} (h : (Dtype.int t).Admits n) : ∃ v : t.Value,
    (Dtype.int t).ofLiteral (.number n) = .ok v ∧ (Dtype.int t).readReal v = n.toReal := by
  cases n with
  | bool b => cases t <;> cases b <;> exact ⟨_, rfl, congrArg Except.ok (scalar_wrap_ofBool _ _)⟩
  | int n =>
    refine ⟨⟨n, h⟩, dif_pos h, ?_⟩
    rw [Number.toReal_of_fits (fits_of_range (range_of_holds h))]
    rfl
  | real => exact h.elim

theorem Admits.toReal_double (h : (Dtype.real .double).Admits n) : n.toReal = .ok n.toScalar := by
  cases n with
  | int n => exact Number.toReal_of_fits (fits_of_range h)
  | bool | real => rfl

/-- **A number that a type admits** is read from a cell as it is read on its own. -/
theorem Admits.exists_readReal (hd : d ∈ leafTypes) (h : d.Admits n) :
    ∃ v, d.ofLiteral (.number n) = .ok v ∧ d.readReal v = n.toReal := by
  obtain rfl | rfl | rfl | rfl | rfl := mem_leafTypes.1 hd
  · cases n with
    | bool b => exact ⟨b, rfl, rfl⟩
    | int | real => exact h.elim
  · exact h.toReal_int
  · exact h.toReal_int
  · refine ⟨n.toScalar, ?_, h.toReal_double.symm⟩
    have hcell : (Literal.number n).toCell = .ok n.toScalar := h.toReal_double
    rw [ofLiteral, hcell, ok_bind, Scalar.Lawful.narrow_double]
    rfl
  · exact ⟨.number n, rfl, rfl⟩

end Reading

end Dtype

namespace Literal

theorem toList_of_toTensor {α : Type} {l : Literal α} {t : Tensor (Literal α)} (h : l.toTensor = .ok t) :
    t.toList = l.leaves := by
  unfold toTensor at h
  split at h
  · next u hu =>
    cases h
    obtain ⟨s, -, hs⟩ := Option.bind_eq_some_iff.1 hu
    unfold Tensor.ofList? at hs
    split at hs
    · cases hs
      rfl
    · cases hs
  · cases h

theorem leaves_ofNumbers {α : Type} (ns : List (Number α)) : (ofNumbers ns).leaves = ns.map .number := by
  have hitems : ∀ ns : List (Number α), leavesOfItems (ns.map .number) = ns.map .number := by
    intro ns
    induction ns with
    | nil => rfl
    | cons n ns ih =>
      rw [List.map_cons, leavesOfItems, ih]
      rfl
  exact hitems ns

theorem exists_toTensor_ofNumbers {α : Type} (ns : List (Number α)) :
    ∃ t, (ofNumbers ns).toTensor = .ok t ∧ t.shape = [ns.length] := by
  have hshape : (ofNumbers ns).shape? = some [ns.length] := by
    rw [ofNumbers, shape?, levels?, OversamplingPlan.levelsOfItems?_numbers]
    rfl
  have hcount : (ofNumbers ns).leaves.length = Shape.count [ns.length] := by
    simp [leaves_ofNumbers, Shape.count]
  unfold toTensor
  rw [hshape, Option.bind_some, Tensor.ofList?, dif_pos hcount]
  exact ⟨_, rfl, rfl⟩

end Literal

/-- **Numbers that a type admits**, one after the other. -/
theorem Dtype.exists_mapM_readReal {α : Type} [Scalar α] [Scalar.Lawful α] {d : Dtype} (hd : d ∈ leafTypes) :
    ∀ {ns : List (Number α)}, (∀ n ∈ ns, d.Admits n) → ∃ vs, (ns.map Literal.number).mapM d.ofLiteral = .ok vs ∧
      vs.mapM d.readReal = ns.mapM Number.toReal
  | [], _ => ⟨[], rfl, rfl⟩
  | n :: ns, h => by
    obtain ⟨hn, hns⟩ := List.forall_mem_cons.1 h
    obtain ⟨v, hv, hread⟩ := hn.exists_readReal hd
    obtain ⟨vs, hvs, hreads⟩ := exists_mapM_readReal hd hns
    refine ⟨v :: vs, ?_, ?_⟩
    · rw [List.map_cons, List.mapM_cons, hv, ok_bind, hvs]
      rfl
    · rw [List.mapM_cons, List.mapM_cons, hread, hreads]

theorem Tensor.exists_mapM_of_toList {ε β γ : Type} {f : β → Except ε γ} {t : Tensor β} {ys : List γ}
    (h : t.toList.mapM f = .ok ys) : ∃ u, t.mapM f = .ok u ∧ u.shape = t.shape ∧ u.toList = ys := by
  rw [toList, ← toList_mapM] at h
  obtain ⟨cells, hcells, hys⟩ := map_eq_ok.1 h
  refine ⟨⟨t.shape, cells⟩, ?_, rfl, hys⟩
  rw [mapM, hcells]
  rfl

theorem Tensor.exists_broadcast?_self {β : Type} (t : Tensor β) :
    ∃ u, t.broadcast? t.shape = some u ∧ u.shape = t.shape := by
  have hread : ∀ index, t.shape.Inside index →
      ∃ x, t.get? (List.replicate 0 0 ++ broadcastIndex t.shape (index.drop 0)) = some x := by
    intro index hindex
    obtain ⟨x, -, hx⟩ := exists_get? hindex
    rw [List.drop_zero, broadcastIndex_self hindex]
    exact ⟨x, hx⟩
  obtain ⟨u, hu⟩ := exists_buildM (m := Option) hread
  refine ⟨u, ?_, (buildM_eq_pure_iff.1 hu).1⟩
  simp only [broadcast?, Nat.sub_self, List.take_zero, List.drop_zero, List.all_nil, all_zip_self, Bool.and_self,
    if_true]
  exact hu

namespace Grid

variable {α : Type} [Scalar α]

section Spacing

variable [Scalar.Lawful α]

theorem spacingOfLiteral_of_leaves {l : Literal α} {t : Tensor (Literal α)} {ns : List (Number α)}
    (ht : l.toTensor = .ok t) (hleaves : l.leaves = ns.map .number) :
    spacingOfLiteral l = ns.mapM Number.toReal := by
  obtain ⟨d, hd, hcommon, hadmits⟩ := Dtype.exists_commonDtype ns
  obtain ⟨vs, hvs, hread⟩ := Dtype.exists_mapM_readReal hd hadmits
  rw [← hleaves, ← Literal.toList_of_toTensor ht] at hvs
  obtain ⟨u, hu, -, rfl⟩ := Tensor.exists_mapM_of_toList hvs
  have hvolume : Volume.ofLiteral l = .ok ⟨d, u⟩ := by
    rw [Volume.ofLiteral, hleaves, hcommon, ok_bind, Volume.ofTypedLiteral, ht, ok_bind, hu]
    rfl
  rw [spacingOfLiteral, hvolume, ok_bind]
  exact hread

/-- **Voxel sizes in a list** are read one after the other. -/
theorem spacingOfLiteral_ofNumbers (ns : List (Number α)) :
    spacingOfLiteral (.ofNumbers ns) = ns.mapM Number.toReal := by
  obtain ⟨t, ht, -⟩ := Literal.exists_toTensor_ofNumbers ns
  exact spacingOfLiteral_of_leaves ht (Literal.leaves_ofNumbers ns)

theorem spacingOfLiteral_number (n : Number α) : spacingOfLiteral (.number n) = [n].mapM Number.toReal := by
  have htensor : (Literal.number n).toTensor = .ok ⟨[], #v[Literal.number n]⟩ := by
    rfl
  have hleaves : (Literal.number n).leaves = [n].map .number := rfl
  exact spacingOfLiteral_of_leaves htensor hleaves

end Spacing

/-- **A search that numbers cannot fail** finds out whether all of them are positive. -/
theorem foldlM_isPositive {f : Bool → Literal α → Except (Fault α) Bool}
    (hf : ∀ (go : Bool) (n : Number α), f go (.number n) = .ok (go && n.isPositive)) :
    ∀ (ns : List (Number α)) (go : Bool),
      (ns.map Literal.number).foldlM f go = .ok (go && ns.all Number.isPositive)
  | [], go => congrArg Except.ok (Bool.and_true go).symm
  | n :: ns, go => by
    rw [List.map_cons, List.foldlM_cons, hf, ok_bind, foldlM_isPositive hf ns, List.all_cons, Bool.and_assoc]

/-- **Voxel sizes of a header** are looked at one after the other, and no number makes that fail. -/
theorem zoomsUsable_ofNumbers (ns : List (Number α)) : zoomsUsable (.ofNumbers ns) =
    .ok (decide (3 ≤ ns.length) && (ns.take 3).all Number.isPositive) := by
  unfold zoomsUsable
  simp only [Literal.ofNumbers, Literal.items?, Option.elim_some, ok_bind, pure_bind, List.length_map]
  by_cases hlength : 3 ≤ ns.length
  · rw [if_neg (not_lt.2 hlength), decide_eq_true hlength, ← List.map_take]
    refine foldlM_isPositive (fun go n => ?_) (ns.take 3) true
    cases go with
    | false => rfl
    | true =>
      cases n with
      | bool b => cases b <;> rfl
      | int | real => rfl
  · rw [if_pos (not_le.1 hlength), decide_eq_false hlength, Bool.false_and]
    rfl

/-- **Voxel sizes of a header** are compared with as many column lengths, if the first three of them fit. -/
theorem exists_zoomsMatchTable {ns : List (Number α)} (hlength : 3 ≤ ns.length) (hfits : ∀ n ∈ ns.take 3, n.Fits)
    {lengths : Tensor α} (hlengths : lengths.shape = [3]) : ∃ b, zoomsMatchTable (.ofNumbers ns) lengths = .ok b := by
  obtain ⟨t, ht, hshape⟩ := Literal.exists_toTensor_ofNumbers (ns.take 3)
  rw [List.length_take, min_eq_left hlength] at hshape
  have hcells : ∀ x ∈ t.toList, ∃ v, x.toCell = (pure v : Except (Fault α) α) := by
    rw [Literal.toList_of_toTensor ht, Literal.leaves_ofNumbers, List.forall_mem_map]
    exact fun n hn => ⟨n.toScalar, Number.toReal_of_fits (hfits n hn)⟩
  obtain ⟨zooms, hzooms⟩ := Tensor.exists_mapM hcells
  have hzoomsShape : zooms.shape = [3] := (Tensor.mapM_eq_pure_iff.1 hzooms).1.trans hshape
  have hread : (Literal.list ((ns.map Literal.number).take 3)).toReals = .ok zooms := by
    rw [← List.map_take]
    change (do (← (Literal.ofNumbers (ns.take 3)).toTensor).mapM Literal.toCell) = _
    rw [ht, ok_bind]
    exact hzooms
  obtain ⟨zooms', hzooms', hzoomsShape'⟩ := zooms.exists_broadcast?_self
  obtain ⟨lengths', hlengths', hlengthsShape'⟩ := lengths.exists_broadcast?_self
  rw [hzoomsShape] at hzooms' hzoomsShape'
  rw [hlengths] at hlengths' hlengthsShape'
  obtain ⟨close, hclose⟩ : ∃ close : Tensor Bool, Tensor.buildM [3] (fun index =>
      (zooms'.get? index).bind fun x => (lengths'.get? index).bind fun y => pure (zoomsMatch [x] [y])) =
        some close := by
    refine Tensor.exists_buildM fun index hindex => ?_
    obtain ⟨x, -, hx⟩ := Tensor.exists_get? (hzoomsShape' ▸ hindex)
    obtain ⟨y, -, hy⟩ := Tensor.exists_get? (hlengthsShape' ▸ hindex)
    exact ⟨zoomsMatch [x] [y], by rw [hx, hy]; rfl⟩
  unfold zoomsMatchTable
  simp only [Literal.ofNumbers, hread, ok_bind, hzoomsShape, hlengths, Shape.join?_self, hzooms', hlengths',
    Option.bind_eq_bind, Option.bind_some]
  rw [hclose]
  exact ⟨_, rfl⟩

end Grid

end Regrid
