import Mathlib
import Regrid.Proofs.Parts
import Regrid.Proofs.Rounded
import Regrid.Proofs.Written
import Regrid.Scalar.Double
/-!
# WholeFactors — the factors that a plan accepts

A list of numbers is accepted as the factors of a plan if there are three of them, each stands for a positive whole
number that double precision has, and the number of samples per voxel can be rounded to a finite number.  A whole number
that double precision does not have is taken for one that is not whole.  Everything else is refused as factors, except
that too great a number of samples is noticed only by the division for their weight
(`OversamplingPlan.ofLiteral_numbers`).
-/
namespace Regrid

open Exact

namespace Number

/-- **The whole number that a number stands for.** -/
def StandsFor : Number Rounded → ℤ → Prop
  | bool b, k => ofBool b = k
  | int n, k => n = k
  | real x, k => x.value = finite k

theorem isIntegral_iff {x : Rounded} : Scalar.isIntegral x = true ↔ ∃ k : ℤ, x.value = finite k := by
  unfold Scalar.isIntegral
  rw [Bool.and_eq_true, Rounded.isFinite_eq, Rounded.floor_eq, Rounded.beq_eq, Rounded.value_ofInt]
  constructor
  · rintro ⟨hfinite, heq⟩
    obtain ⟨r, hr⟩ := exists_finite hfinite
    rw [hr, floor_finite] at heq
    rcases toDouble_intCast ⌊r⌋ with ⟨m, hm⟩ | hinfinity
    · rw [hm, finite_beq, decide_eq_true_iff] at heq
      exact ⟨m, heq ▸ hr⟩
    · rw [hinfinity] at heq
      cases heq
  · rintro ⟨k, hk⟩
    have hkept := x.kept
    rw [hk] at hkept ⊢
    rw [floor_finite, Int.floor_intCast, hkept]
    exact ⟨rfl, decide_eq_true rfl⟩

/-- **A number counts as whole** if it stands for a whole number that double precision has. -/
theorem isWhole_iff {n : Number Rounded} :
    n.isWhole = true ↔ ∃ k : ℤ, n.StandsFor k ∧ (finite k).toDouble = finite k := by
  cases n with
  | bool b =>
    refine iff_of_true rfl ⟨ofBool b, rfl, toDouble_of_small ?_⟩
    cases b <;> norm_num [ofBool]
  | int n =>
    have hwhole : (int n : Number Rounded).isWhole = (if Scalar.isFinite (Scalar.ofInt n : Rounded) = true
        then some (Scalar.ofInt n : Rounded) else none).any fun x => Scalar.floor x == n := rfl
    rw [hwhole]
    constructor
    · intro h
      split_ifs at h
      · exact ⟨n, rfl, floor_toDouble_intCast_iff.1 (beq_iff_eq.1 h)⟩
      · cases h
    · rintro ⟨k, rfl, hk⟩
      rw [if_pos (by rw [Rounded.isFinite_eq, Rounded.value_ofInt, hk]; rfl)]
      exact beq_iff_eq.2 (floor_toDouble_intCast_iff.2 hk)
  | real x =>
    refine isIntegral_iff.trans (exists_congr fun k => ⟨fun h => ⟨h, ?_⟩, And.left⟩)
    rw [← h]
    exact x.kept

theorem toInt_of_standsFor {n : Number Rounded} {k : ℤ} (h : n.StandsFor k) : n.toInt = .ok k := by
  cases n with
  | bool | int => exact congrArg Except.ok h
  | real x =>
    have hvalue : x.value = finite k := h
    simp only [toInt, Rounded.isNaN_eq, Rounded.isFinite_eq, hvalue, isNaN_finite, isFinite_finite, if_true,
      Rounded.trunc_of_value hvalue, Bool.false_eq_true, if_false]

end Number

/-- **A list of numbers as it is written.** -/
def Literal.ofNumbers {α : Type} (ns : List (Number α)) : Literal α := .list (ns.map .number)

namespace OversamplingPlan

/-- **The plan that a list of numbers asks for**: its factors are the whole numbers that the numbers stand for, and
double precision has them. -/
def IsAskedBy (p : OversamplingPlan) (ns : List (Number Rounded)) : Prop :=
  List.Forall₂ (fun n (k : ℕ) => n.StandsFor k ∧ (finite (k : ℤ)).toDouble = finite (k : ℤ)) ns p.factors.toList

theorem exists_triple (p : OversamplingPlan) :
    ∃ (a b c : ℕ) (h : ∀ i, 0 < (triple a b c).get i), p = ⟨triple a b c, h⟩ := by
  obtain ⟨v, hpositive⟩ := p
  refine ⟨v.get 0, v.get 1, v.get 2, ?_, ?_⟩
  · rwa [triple_get]
  · rw [mk.injEq, triple_get]

theorem ofFactors_eq_ok {α : Type} {ks : List ℤ} {p : OversamplingPlan} :
    ofFactors (α := α) ks = .ok p ↔ ks = p.factors.toList.map Int.ofNat := by
  constructor
  · intro h
    unfold ofFactors at h
    split at h
    · dsimp only at h
      split_ifs at h with hpositive
      cases h
      have hnonneg : ∀ {a : ℤ}, 0 < a.toNat → a = Int.ofNat a.toNat := fun h => by
        rw [Int.ofNat_eq_natCast]
        omega
      simp only [triple, Vector.toList_mk, List.map_cons, List.map_nil]
      rw [← hnonneg (hpositive 0), ← hnonneg (hpositive 1), ← hnonneg (hpositive 2)]
    · cases h
  · rintro rfl
    obtain ⟨a, b, c, hpositive, rfl⟩ := p.exists_triple
    exact dif_pos hpositive

theorem ofFactors_eq_error {α : Type} {ks : List ℤ} {f : Fault α} (h : ofFactors ks = .error f) :
    f = .factorsNotPositive ks := by
  unfold ofFactors at h
  split at h
  · dsimp only at h
    split_ifs at h
    cases h
    rfl
  · cases h
    rfl

theorem le_count {p : OversamplingPlan} {n : ℕ} (h : n ∈ p.factors.toList) : n ≤ p.count := by
  obtain ⟨a, b, c, hpositive, rfl⟩ := p.exists_triple
  have ha : 0 < a := hpositive 0
  have hb : 0 < b := hpositive 1
  have hc : 0 < c := hpositive 2
  have hcount : n = a ∨ n = b ∨ n = c := by simpa [triple] using h
  change n ≤ a * b * c
  rcases hcount with rfl | rfl | rfl
  · exact (Nat.le_mul_of_pos_right n hb).trans (Nat.le_mul_of_pos_right _ hc)
  · exact (Nat.le_mul_of_pos_left n ha).trans (Nat.le_mul_of_pos_right _ hc)
  · exact Nat.le_mul_of_pos_left n (Nat.mul_pos ha hb)

/-- **The weights of a plan exist** unless its number of samples lies beyond the end of double precision. -/
theorem checkWeights_rounded (p : OversamplingPlan) : checkWeights Rounded p =
    if p.count + 2 ^ 970 < 2 ^ 1024 then .ok p else .error .outOfRange := by
  have hsome : ∀ n : ℕ, (Scalar.ofInt? (α := Rounded) n).isSome = true ↔ n + 2 ^ 970 < 2 ^ 1024 := fun n => by
    have hfinite : (Scalar.ofInt? (α := Rounded) n).isSome = Scalar.isFinite (Scalar.ofInt n : Rounded) := by
      unfold Scalar.ofInt?
      cases h : Scalar.isFinite (Scalar.ofInt n : Rounded) <;> simp [h]
    rw [hfinite, Rounded.isFinite_ofInt_iff, Nat.abs_cast, lt_sub_iff_add_lt]
    exact_mod_cast Iff.rfl
  have hall : ((p.count :: p.factors.toList).all fun n => (Scalar.ofInt? (α := Rounded) n).isSome) = true ↔
      p.count + 2 ^ 970 < 2 ^ 1024 := by
    rw [List.all_eq_true]
    refine ⟨fun h => (hsome _).1 (h _ List.mem_cons_self), fun h n hn => (hsome n).2 ?_⟩
    rcases List.mem_cons.1 hn with rfl | hn
    · exact h
    · exact (Nat.add_le_add_right (le_count hn) _).trans_lt h
  unfold checkWeights
  simp only [hall]

theorem ofWholeLiterals_of_isAskedBy {p : OversamplingPlan} {ns : List (Number Rounded)} (h : p.IsAskedBy ns)
    (brackets : Brackets) : ofWholeLiterals brackets (ns.map .number) = checkWeights Rounded p := by
  have hwhole : (ns.map Literal.number).all Literal.isWhole = true := by
    rw [List.all_map, List.all_eq_true]
    exact ((List.forall₂_and_left _ _).1 (h.imp fun n k hk => ⟨Number.isWhole_iff.2 ⟨k, hk⟩, hk⟩)).1
  have hints : (ns.map Literal.number).mapM Literal.toInt =
      (.ok (p.factors.toList.map Int.ofNat) : Except (Fault Rounded) (List ℤ)) := by
    rw [List.mapM_map]
    refine Tensor.list_mapM_eq_pure_iff.2 (List.forall₂_map_right_iff.2 (h.imp fun n k hk => ?_))
    exact Number.toInt_of_standsFor hk.1
  unfold ofWholeLiterals
  rw [hwhole, hints, ok_bind, ofFactors_eq_ok.2 rfl]
  rfl

theorem ofWholeLiterals_of_not_isAskedBy {ns : List (Number Rounded)} (h : ∀ p : OversamplingPlan, ¬p.IsAskedBy ns)
    (brackets : Brackets) : ∃ f : Fault Rounded, ofWholeLiterals brackets (ns.map .number) = .error f ∧
      f.kind = .oversample := by
  unfold ofWholeLiterals
  cases hwhole : (ns.map (Literal.number (α := Rounded))).all Literal.isWhole with
  | false => exact ⟨_, rfl, rfl⟩
  | true =>
    rw [List.all_map, List.all_eq_true] at hwhole
    choose! k hk using fun n hn => Number.isWhole_iff.1 (hwhole n hn)
    obtain ⟨ks, hks⟩ : ∃ ks, List.Forall₂ (fun n (k : ℤ) => n.StandsFor k ∧ (finite k).toDouble = finite k) ns ks :=
      ⟨ns.map k, List.forall₂_map_right_iff.2 (List.forall₂_same.2 hk)⟩
    have hints : (ns.map Literal.number).mapM Literal.toInt = (.ok ks : Except (Fault Rounded) (List ℤ)) := by
      rw [List.mapM_map]
      exact Tensor.list_mapM_eq_pure_iff.2 (hks.imp fun n k hk => Number.toInt_of_standsFor hk.1)
    rw [hints, ok_bind]
    cases hfactors : ofFactors (α := Rounded) ks with
    | error f =>
      rw [ofFactors_eq_error hfactors]
      exact ⟨_, rfl, rfl⟩
    | ok p =>
      rw [ofFactors_eq_ok.1 hfactors, List.forall₂_map_right_iff] at hks
      exact absurd hks (h p)

theorem levelsOfItems?_numbers {α : Type} : ∀ ns : List (Number α),
    Literal.levelsOfItems? (ns.map Literal.number) = some [ns.length]
  | [] => rfl
  | [n] => by simp [Literal.levelsOfItems?, Literal.levels?]
  | n :: n' :: ns => by
    have ih := levelsOfItems?_numbers (n' :: ns)
    rw [List.map_cons] at ih ⊢
    simp [Literal.levelsOfItems?, Literal.levels?, ih]

/-- **Factors that are asked for** are read as those of a plan, but first it is seen that there are three. -/
theorem ofRequest_numbers (ns : List (Number Rounded)) : ofRequest (.ofNumbers ns) =
    if ns.length ≠ 3 then .error (.factorCount (ns.map .number)) else ofWholeLiterals .square (ns.map .number) := by
  have hshape : (Literal.ofNumbers ns).shape? = some [ns.length] := by
    rw [Literal.ofNumbers, Literal.shape?, Literal.levels?, levelsOfItems?_numbers]
    rfl
  unfold ofRequest
  rw [hshape]
  simp only [Literal.ofNumbers, Option.elim_some, ok_bind, List.length_map]
  split_ifs <;> rfl

theorem mapError_ofRequest_numbers (ns : List (Number Rounded)) :
    (ofRequest (.ofNumbers ns)).mapError Fault.kind =
      (ofLiteral (Literal.ofNumbers ns)).mapError Fault.kind := by
  have hread : ofLiteral (Literal.ofNumbers ns) = ofWholeLiterals .round (ns.map .number) := rfl
  rw [hread, ofRequest_numbers]
  by_cases hasked : ∃ p : OversamplingPlan, p.IsAskedBy ns
  · obtain ⟨p, hp⟩ := hasked
    have hlength : ns.length = 3 := hp.length_eq.trans p.factors.length_toList
    rw [if_neg (not_not.2 hlength), ofWholeLiterals_of_isAskedBy hp, ofWholeLiterals_of_isAskedBy hp]
  · rw [not_exists] at hasked
    obtain ⟨f, hf, hkind⟩ := ofWholeLiterals_of_not_isAskedBy hasked .round
    obtain ⟨f', hf', hkind'⟩ := ofWholeLiterals_of_not_isAskedBy hasked .square
    rw [hf, hf']
    split_ifs
    · exact congrArg Except.error hkind.symm
    · exact congrArg Except.error (hkind'.trans hkind.symm)

/-- **The factors that a plan accepts.**  A list of numbers makes a plan if it asks for one whose number of samples can
be rounded; if it asks for one with more samples there is an overflow, and otherwise the factors are refused.  For any
mapping the same factors are accepted if they are asked for, and others are refused as the same kind of fault. -/
theorem ofLiteral_numbers (ns : List (Number Rounded)) (t : AffineTransform Rounded) (mapping : Literal Rounded) :
    (∀ p, ofLiteral (Literal.ofNumbers ns) = .ok p ↔
      p.IsAskedBy ns ∧ p.count + 2 ^ 970 < 2 ^ 1024) ∧
    (∀ f, ofLiteral (Literal.ofNumbers ns) = .error f →
      f.kind = .oversample ∧ (∀ p : OversamplingPlan, ¬p.IsAskedBy ns) ∨
      f.kind = .overflow ∧ ∃ p : OversamplingPlan, p.IsAskedBy ns ∧ 2 ^ 1024 ≤ p.count + 2 ^ 970) ∧
    (plan t (.ofNumbers ns)).mapError Fault.kind =
      (ofLiteral (Literal.ofNumbers ns)).mapError Fault.kind ∧
    (planOfLiteral mapping (.ofNumbers ns)).mapError Fault.kind =
      (ofLiteral (Literal.ofNumbers ns)).mapError Fault.kind := by
  have hread : ofLiteral (Literal.ofNumbers ns) = ofWholeLiterals .round (ns.map .number) := rfl
  refine ⟨fun p => ?_, fun f hf => ?_, mapError_ofRequest_numbers ns, mapError_ofRequest_numbers ns⟩
  · rw [hread]
    refine ⟨fun h => ?_, fun ⟨hasked, hcount⟩ => ?_⟩
    · by_cases hasked : ∃ q : OversamplingPlan, q.IsAskedBy ns
      · obtain ⟨q, hq⟩ := hasked
        rw [ofWholeLiterals_of_isAskedBy hq, checkWeights_rounded] at h
        split_ifs at h with hcount
        cases h
        exact ⟨hq, hcount⟩
      · obtain ⟨f, hf, -⟩ := ofWholeLiterals_of_not_isAskedBy (not_exists.1 hasked) .round
        rw [hf] at h
        cases h
    · rw [ofWholeLiterals_of_isAskedBy hasked, checkWeights_rounded, if_pos hcount]
  · rw [hread] at hf
    by_cases hasked : ∃ p : OversamplingPlan, p.IsAskedBy ns
    · obtain ⟨p, hp⟩ := hasked
      rw [ofWholeLiterals_of_isAskedBy hp, checkWeights_rounded] at hf
      split_ifs at hf with hcount
      cases hf
      exact .inr ⟨rfl, p, hp, not_lt.1 hcount⟩
    · rw [not_exists] at hasked
      obtain ⟨f', hf', hkind⟩ := ofWholeLiterals_of_not_isAskedBy hasked .round
      rw [hf'] at hf
      cases hf
      exact .inl ⟨hkind, hasked⟩

theorem ofLiteral_numbers_odd : ∃ f : Fault Rounded,
    ofLiteral (.ofNumbers [.int (2 ^ 53 + 1), .int 1, .int 1]) = .error f ∧ f.kind = .oversample := by
  -- beyond `2 ^ 53` an odd number is no member of double precision
  have hodd : (finite (2 ^ 53 + 1 : ℤ)).toDouble ≠ finite (2 ^ 53 + 1 : ℤ) := by
    intro h
    obtain ⟨k, e, hk, hbound, -⟩ := (toDouble_finite_iff.1 h).1
    rcases le_or_gt 1 e with he | he
    · obtain ⟨m, hm⟩ := Binary.exists_int_mul_zpow he k
      rw [hm, zpow_one] at hk
      have heven : (2 ^ 53 + 1 : ℤ) = m * 2 := by exact_mod_cast hk
      omega
    · have hkr : (k : ℝ) ≤ 2 ^ 53 := by exact_mod_cast (abs_le.1 hbound).2
      have hpower : (2 : ℝ) ^ e ≤ 1 := zpow_le_one_of_nonpos₀ (by norm_num) (by omega)
      have hle : (k * 2 ^ e : ℝ) ≤ 2 ^ 53 * 1 := mul_le_mul hkr hpower (by positivity) (by positivity)
      rw [← hk] at hle
      norm_num at hle
  have hasked : ∀ p : OversamplingPlan, ¬p.IsAskedBy [.int (2 ^ 53 + 1), .int 1, .int 1] := fun p hp => by
    unfold IsAskedBy at hp
    cases hfactors : p.factors.toList with
    | nil =>
      rw [hfactors] at hp
      cases hp
    | cons k ks =>
      rw [hfactors] at hp
      obtain ⟨⟨hk, hkept⟩, -⟩ := List.forall₂_cons.1 hp
      have heq : (2 ^ 53 + 1 : ℤ) = k := hk
      rw [← heq] at hkept
      exact hodd hkept
  obtain ⟨hok, herror, -⟩ := ofLiteral_numbers [.int (2 ^ 53 + 1), .int 1, .int 1] ⟨.identity 4⟩ .null
  cases h : ofLiteral (.ofNumbers [.int (2 ^ 53 + 1), .int 1, .int 1] : Literal Rounded) with
  | ok p => exact absurd ((hok p).1 h).1 (hasked p)
  | error f =>
    rcases herror f h with ⟨hkind, -⟩ | ⟨-, p, hp, -⟩
    · exact ⟨f, rfl, hkind⟩
    · exact absurd hp (hasked p)

/-- The machine has `2 ^ 53`, and takes the next whole number for one that is not whole. -/
example : (ofLiteral (.ofNumbers [.int 9007199254740992, .int 1, .int 1] : Literal Float)).toOption.map factors =
      some (triple 9007199254740992 1 1) ∧
    (ofLiteral (.ofNumbers [.int 9007199254740993, .int 1, .int 1] : Literal Float)).toOption.map factors = none := by
  decide +kernel

end OversamplingPlan

end Regrid
