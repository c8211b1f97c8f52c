import Mathlib
import Regrid.Tensor.Capacity
/-!
# Tensor — reading what was built

A tensor that is built cell by cell holds at each index inside its shape what the function gives there
(`get?_build`), and the operations of the library take built tensors to built tensors.  So a computation on whole
arrays is followed by one function of the index.
-/
namespace Regrid

section Outcome

variable {ε β γ : Type}

@[simp] theorem ok_bind (x : β) (f : β → Except ε γ) : Except.ok x >>= f = f x := rfl

@[simp] theorem error_bind (e : ε) (f : β → Except ε γ) : Except.error e >>= f = .error e := rfl

theorem bind_eq_ok {x : Except ε β} {f : β → Except ε γ} {z : γ} : x >>= f = .ok z ↔ ∃ y, x = .ok y ∧ f y = .ok z := by
  cases x with
  | error e => exact ⟨by rintro ⟨⟩, by rintro ⟨_, ⟨⟩, _⟩⟩
  | ok y => exact ⟨fun h => ⟨y, rfl, h⟩, fun ⟨_, hy, h⟩ => by cases hy; exact h⟩

end Outcome

section Vector

variable {β γ : Type} {n : Nat} {u : Vector β n} {v : Vector γ n}

theorem forall_mem_toList {P : β → Prop} : (∀ x ∈ u.toList, P x) ↔ ∀ i : Fin n, P (u.get i) := by
  constructor
  · intro h i
    exact h _ (by simp [Vector.get])
  · intro h x hx
    obtain ⟨i, hi, rfl⟩ := List.getElem_of_mem hx
    simpa [Vector.get] using h ⟨i, by simpa using hi⟩

theorem forall₂_toList {R : β → γ → Prop} :
    List.Forall₂ R u.toList v.toList ↔ ∀ i : Fin n, R (u.get i) (v.get i) := by
  rw [List.forall₂_iff_get]
  constructor
  · rintro ⟨-, h⟩ i
    simpa [Vector.get] using h i.val (by simp) (by simp)
  · intro h
    refine ⟨by simp, fun i hi _ => ?_⟩
    simpa [Vector.get] using h ⟨i, by simpa using hi⟩

end Vector

namespace Shape

/-- **An index lies inside a shape.** -/
def Inside (s : Shape) (index : List Nat) : Prop := List.Forall₂ (· < ·) index s

theorem mem_indices : ∀ {s : Shape} {index : List Nat}, index ∈ s.indices ↔ s.Inside index
  | [], index => by
    simp only [indices, List.mem_singleton, Inside]
    constructor
    · rintro rfl; exact .nil
    · intro h; cases h; rfl
  | n :: s, index => by
    simp only [indices, List.mem_flatMap, List.mem_range, List.mem_map]
    constructor
    · rintro ⟨i, hi, rest, hrest, rfl⟩
      exact .cons hi (mem_indices.1 hrest)
    · intro h
      cases h with
      | cons hi hrest => exact ⟨_, hi, _, mem_indices.2 hrest, rfl⟩

theorem Inside.length_eq {s : Shape} {index : List Nat} (h : s.Inside index) : index.length = s.length :=
  List.Forall₂.length_eq h

theorem Inside.append {s t : Shape} {i j : List Nat} (hi : s.Inside i) (hj : t.Inside j) : (s ++ t).Inside (i ++ j) :=
  List.rel_append hi hj

/-- **Blocks of one size, one after the other**, are read by the number of the block and the place in it. -/
theorem getElem?_flatMap_range {β : Type} {m i k : Nat} (g : Nat → List β) (hlen : ∀ i, (g i).length = m) (hk : k < m) :
    ∀ {n : Nat}, i < n → ((List.range n).flatMap g)[i * m + k]? = (g i)[k]?
  | 0, hi => absurd hi (Nat.not_lt_zero i)
  | n + 1, hi => by
    have hsize : ((List.range n).flatMap g).length = n * m := by
      simp [List.length_flatMap, hlen]
    rw [List.range_succ, List.flatMap_append, List.flatMap_singleton]
    rcases Nat.lt_succ_iff_lt_or_eq.1 hi with hlt | rfl
    · have hbound : i * m + k < n * m :=
        calc i * m + k < i * m + m := Nat.add_lt_add_left hk _
          _ = (i + 1) * m := (Nat.succ_mul i m).symm
          _ ≤ n * m := Nat.mul_le_mul_right m hlt
      rw [List.getElem?_append_left (by omega)]
      exact getElem?_flatMap_range g hlen hk hlt
    · rw [List.getElem?_append_right (by omega), hsize, Nat.add_sub_cancel_left]

/-- **An index inside a shape has a position**, at which it stands in the list of all indices. -/
theorem Inside.exists_offset {s : Shape} {index : List Nat} (h : s.Inside index) :
    ∃ k, s.offset? index = some k ∧ k < s.count ∧ s.indices[k]? = some index := by
  induction h with
  | nil => exact ⟨0, rfl, Nat.one_pos, rfl⟩
  | @cons i n rest s hi _ ih =>
    obtain ⟨k, hk, hlt, hget⟩ := ih
    refine ⟨i * count s + k, by simp [offset?, hi, hk], ?_, ?_⟩
    · calc i * count s + k < i * count s + count s := Nat.add_lt_add_left hlt _
        _ = (i + 1) * count s := (Nat.succ_mul i _).symm
        _ ≤ n * count s := Nat.mul_le_mul_right _ hi
    · have hlen (j : Nat) : ((indices s).map (j :: ·)).length = count s := by
        rw [List.length_map, length_indices]
      rw [indices, getElem?_flatMap_range _ hlen hlt hi, List.getElem?_map, hget, Option.map_some]

theorem Inside.take_drop {s : Shape} {index : List Nat} (h : s.Inside index) (n : Nat) :
    Inside (s.take n) (index.take n) ∧ Inside (s.drop n) (index.drop n) :=
  ⟨List.forall₂_take n h, List.forall₂_drop n h⟩

theorem Inside.of_append {s t : Shape} {index : List Nat} (h : (s ++ t).Inside index) :
    s.Inside (index.take s.length) ∧ t.Inside (index.drop s.length) := by
  have := h.take_drop s.length
  simpa using this

theorem inside_zeros : ∀ {s : Shape}, (∀ n ∈ s, 0 < n) → s.Inside (List.replicate s.length 0)
  | [], _ => .nil
  | n :: _, h => .cons (h n List.mem_cons_self) (inside_zeros fun m hm => h m (List.mem_cons_of_mem n hm))

theorem nodup_indices : ∀ s : Shape, s.indices.Nodup
  | [] => List.nodup_singleton _
  | n :: s => by
    have hdisjoint : ∀ {i j : Nat}, i ≠ j →
        List.Disjoint ((indices s).map (i :: ·)) ((indices s).map (j :: ·)) := by
      intro i j hne index hi hj
      obtain ⟨a, -, rfl⟩ := List.mem_map.1 hi
      obtain ⟨b, -, hb⟩ := List.mem_map.1 hj
      exact hne (List.cons.inj hb).1.symm
    rw [indices, List.nodup_flatMap]
    exact ⟨fun i _ => (nodup_indices s).map fun _ _ h => (List.cons.inj h).2, List.nodup_range.imp hdisjoint⟩

theorem size_indices (s : Shape) : s.indices.toArray.size = s.count := by
  simp [length_indices]

/-- **All indices of a shape**, as a vector. -/
def indexVector (s : Shape) : Vector (List Nat) s.count := ⟨s.indices.toArray, size_indices s⟩

theorem mem_indexVector {s : Shape} {index : List Nat} : index ∈ s.indexVector.toList ↔ s.Inside index := by
  simp [indexVector, mem_indices]

theorem joinAxes?_self (n : Nat) : joinAxes? n n = some n := by
  simp [joinAxes?]

theorem joinAxes?_one (n : Nat) : joinAxes? n 1 = some n := by
  simp [joinAxes?]

theorem join?_self (s : Shape) : join? s s = some s := by
  have h : ∀ l : List Nat, (l.zip l).mapM (fun p => joinAxes? p.1 p.2) = some l := by
    intro l
    induction l with
    | nil => rfl
    | cons n l ih => simp only [List.zip_cons_cons, List.mapM_cons, joinAxes?_self, ih]; rfl
  simp only [join?, Nat.max_self, Nat.sub_self, List.replicate_zero, List.nil_append]
  exact h s

theorem join?_nil (s : Shape) : join? s [] = some s := by
  have h : ∀ l : List Nat, (l.zip (List.replicate l.length 1)).mapM (fun p => joinAxes? p.1 p.2) = some l := by
    intro l
    induction l with
    | nil => rfl
    | cons n l ih =>
      simp only [List.length_cons, List.replicate_succ, List.zip_cons_cons, List.mapM_cons, joinAxes?_one, ih]
      rfl
  simp only [join?, List.length_nil, Nat.max_zero, Nat.sub_self, List.replicate_zero, List.nil_append, Nat.sub_zero,
    List.append_nil]
  exact h s

theorem count_eq_prod : ∀ s : Shape, s.count = s.prod
  | [] => rfl
  | n :: s => by rw [count, count_eq_prod s, List.prod_cons]

theorem one_le_of_mem_filter {s : Shape} {n : Nat} (h : n ∈ s.filter (· ≠ 0)) : 1 ≤ n := by
  simp only [ne_eq, decide_not, List.mem_filter, Bool.not_eq_true', decide_eq_false_iff_not] at h
  omega

theorem le_count_of_mem {s : Shape} {n : Nat} (h : n ∈ s) (hn : n ≠ 0) : n ≤ count (s.filter (· ≠ 0)) := by
  rw [count_eq_prod]
  exact List.single_le_prod (fun m hm => one_le_of_mem_filter hm) n (by simp [h, hn])

theorem one_le_count_filter (s : Shape) : 1 ≤ count (s.filter (· ≠ 0)) := by
  rw [count_eq_prod]
  exact List.one_le_prod_of_one_le fun n hn => one_le_of_mem_filter hn

section Room

variable [Capacity] {α : Type} {s t : Shape}

theorem reserve_eq_ok : (reserve s : Except (Fault α) Unit) = .ok () ↔
    count (s.filter (· ≠ 0)) < countless ∧ count (s.filter (· ≠ 0)) < Capacity.roomless := by
  simp only [reserve]
  constructor
  · intro h
    split at h
    · cases h
    · split at h
      · cases h
      · omega
  · intro h
    rw [if_neg (by omega), if_neg (by omega)]

/-- **Where there is room for some cells**, there is room for fewer. -/
theorem reserve_of_count_le (hle : count (t.filter (· ≠ 0)) ≤ count (s.filter (· ≠ 0)))
    (hs : (reserve s : Except (Fault α) Unit) = .ok ()) : (reserve t : Except (Fault α) Unit) = .ok () := by
  obtain ⟨hcounted, hroom⟩ := reserve_eq_ok.1 hs
  exact reserve_eq_ok.2 ⟨hle.trans_lt hcounted, hle.trans_lt hroom⟩

theorem Inside.lt_countless {index : List Nat} (h : s.Inside index)
    (hroom : (reserve s : Except (Fault α) Unit) = .ok ()) : ∀ i ∈ index, i < countless := by
  intro i hi
  obtain ⟨k, hk, rfl⟩ := List.getElem_of_mem hi
  have hks : k < s.length := h.length_eq ▸ hk
  have hlt : index[k] < s[k] := List.Forall₂.get h hk hks
  have hle : s[k] ≤ count (s.filter (· ≠ 0)) := le_count_of_mem (List.getElem_mem hks) (by omega)
  exact hlt.trans_le (hle.trans (reserve_eq_ok.1 hroom).1.le)

theorem reserve_of_append (h : (reserve (s ++ t) : Except (Fault α) Unit) = .ok ()) :
    (reserve s : Except (Fault α) Unit) = .ok () := by
  refine reserve_of_count_le ?_ h
  have hpos := one_le_count_filter t
  rw [List.filter_append]
  rw [count_eq_prod] at hpos ⊢
  rw [count_eq_prod, List.prod_append]
  exact Nat.le_mul_of_pos_right _ hpos

theorem reserve_of_le (ht : ∀ n ∈ t, 0 < n) (hle : List.Forall₂ (· ≤ ·) t s)
    (hs : (reserve s : Except (Fault α) Unit) = .ok ()) : (reserve t : Except (Fault α) Unit) = .ok () := by
  have hall : ∀ {u : Shape}, (∀ n ∈ u, 0 < n) → u.filter (· ≠ 0) = u := fun h =>
    List.filter_eq_self.2 fun n hn => decide_eq_true (h n hn).ne'
  have hpositive : ∀ n ∈ s, 0 < n := by
    intro n hn
    obtain ⟨i, hi, rfl⟩ := List.getElem_of_mem hn
    have hit : i < t.length := hle.length_eq ▸ hi
    exact (ht _ (List.getElem_mem hit)).trans_le (List.Forall₂.get hle hit hi)
  refine reserve_of_count_le ?_ hs
  rw [hall hpositive, hall ht, count_eq_prod, count_eq_prod]
  exact hle.prod_le_prod'

theorem reserve_singleton {n : Nat} (h : (reserve s : Except (Fault α) Unit) = .ok ()) (hn : n ∈ s) :
    (reserve [n] : Except (Fault α) Unit) = .ok () := by
  refine reserve_of_count_le ?_ h
  by_cases h0 : n = 0
  · subst h0
    exact one_le_count_filter s
  · have hone : count ([n].filter (· ≠ 0)) = n := by
      simp [h0, count]
    rw [hone]
    exact le_count_of_mem hn h0

/-- **Room for a lattice** is asked for one axis after the other, and then for all of it. -/
theorem reserveLattice_eq (s : Shape) : (reserveLattice s : Except (Fault α) Unit) =
    (s.mapM fun n => (reserve [n] : Except (Fault α) Unit)) >>= fun _ => reserve s := by
  have hloop : ∀ l : List Nat, (forIn l PUnit.unit fun n _ => do
      reserve [n]
      pure (ForInStep.yield PUnit.unit) : Except (Fault α) PUnit) =
        (l.mapM fun n => (reserve [n] : Except (Fault α) Unit)) >>= fun _ => pure PUnit.unit := by
    intro l
    induction l with
    | nil => rfl
    | cons n l ih =>
      rw [List.forIn_cons, List.mapM_cons]
      cases (reserve [n] : Except (Fault α) Unit) with
      | error f => rfl
      | ok _ =>
        rw [ok_bind, ok_bind, bind_assoc]
        exact ih
  unfold reserveLattice
  rw [hloop, bind_assoc]
  rfl

end Room

end Shape

namespace Tensor

variable {β γ δ ε : Type} {s : Shape}

@[simp] theorem shape_build (f : List Nat → β) : (build s f).shape = s := rfl

@[simp] theorem toList_build (f : List Nat → β) : (build s f).toList = s.indices.map f := by
  simp [toList, build]

theorem forall_mem_build {f : List Nat → β} {p : β → Prop} (h : ∀ index, s.Inside index → p (f index)) :
    ∀ x ∈ (build s f).toList, p x := by
  intro x hx
  rw [toList_build, List.mem_map] at hx
  obtain ⟨index, hindex, rfl⟩ := hx
  exact h index (Shape.mem_indices.1 hindex)

theorem build_eq (f : List Nat → β) : build s f = ⟨s, s.indexVector.map f⟩ := by
  simp [build, Shape.indexVector]

theorem get?_of_offset {t : Tensor β} {index : List Nat} {k : Nat} (h : t.shape.offset? index = some k) :
    t.get? index = t.toList[k]? := by
  rw [get?, h, Option.bind_some, toList, Vector.getElem?_toList]

theorem get?_build {index : List Nat} (h : s.Inside index) (f : List Nat → β) :
    (build s f).get? index = some (f index) := by
  obtain ⟨k, hk, -, hget⟩ := h.exists_offset
  rw [get?_of_offset (t := build s f) hk, toList_build, List.getElem?_map, hget, Option.map_some]

theorem exists_get? {t : Tensor β} {index : List Nat} (h : t.shape.Inside index) :
    ∃ x ∈ t.toList, t.get? index = some x := by
  obtain ⟨k, hk, hlt, -⟩ := h.exists_offset
  have hlen : k < t.toList.length := by simpa [toList] using hlt
  refine ⟨t.toList[k], List.getElem_mem hlen, ?_⟩
  rw [get?_of_offset hk, List.getElem?_eq_getElem hlen]

theorem getElem?_toList {t : Tensor β} {k : Nat} {index : List Nat} (h : t.shape.indices[k]? = some index) :
    t.toList[k]? = t.get? index := by
  obtain ⟨j, hj, -, hget⟩ := (Shape.mem_indices.1 (List.mem_of_getElem? h)).exists_offset
  have hlt : k < t.shape.indices.length := (List.getElem?_eq_some_iff.1 h).1
  have hsame : k = j := (List.getElem?_inj hlt (Shape.nodup_indices _)).1 (h.trans hget.symm)
  rw [get?_of_offset hj, hsame]

/-- **Tensors of one shape with the same cells** are the same. -/
theorem ext_get? {t u : Tensor β} (hshape : t.shape = u.shape)
    (h : ∀ index, t.shape.Inside index → t.get? index = u.get? index) : t = u := by
  have hcells : t.toList = u.toList := by
    refine List.ext_getElem? fun k => ?_
    by_cases hk : k < t.shape.indices.length
    · have hget := List.getElem?_eq_getElem hk
      have hget' : u.shape.indices[k]? = some t.shape.indices[k] := hshape ▸ hget
      rw [getElem?_toList hget, getElem?_toList hget', h _ (Shape.mem_indices.1 (List.getElem_mem hk))]
    · rw [Shape.length_indices, not_lt] at hk
      rw [List.getElem?_eq_none (by simpa [toList] using hk),
        List.getElem?_eq_none (by simpa [toList, hshape] using hk)]
  obtain ⟨s, cells⟩ := t
  obtain ⟨s', cells'⟩ := u
  cases hshape
  exact congrArg (Tensor.mk s) (Vector.toList_inj.1 hcells)

theorem ofList?_indices (f : List Nat → β) : ofList? s (s.indices.map f) = some (build s f) :=
  dif_pos (by rw [List.length_map, Shape.length_indices])

theorem build_congr {f g : List Nat → β} (h : ∀ index, s.Inside index → f index = g index) : build s f = build s g := by
  have : s.indices.map f = s.indices.map g := List.map_congr_left fun i hi => h i (Shape.mem_indices.1 hi)
  simp only [build, this]

@[simp] theorem map_build (f : List Nat → β) (g : β → γ) : (build s f).map g = build s (g ∘ f) := by
  simp [map, build]

section Action

variable {m : Type → Type} [Monad m] [LawfulMonad m] {n : Nat}

theorem toList_mapM (f : β → m γ) (v : Vector β n) : Vector.toList <$> v.mapM f = v.toList.mapM f := by
  have h : Vector.toList <$> v.mapM f = Array.toList <$> (Vector.toArray <$> v.mapM f) := by
    rw [← comp_map]; rfl
  rw [h, Vector.toArray_mapM, Array.toList_mapM]
  rfl

theorem list_mapM_eq_pure {f : β → m γ} {g : β → γ} : ∀ {l : List β}, (∀ x ∈ l, f x = pure (g x)) →
    l.mapM f = pure (l.map g)
  | [], _ => rfl
  | x :: l, h => by
    have hx : f x = pure (g x) := h x List.mem_cons_self
    have hl : l.mapM f = pure (l.map g) := list_mapM_eq_pure fun y hy => h y (List.mem_cons_of_mem x hy)
    rw [List.mapM_cons, hx, hl]
    simp

theorem list_forM_eq_pure {f : β → m PUnit} {l : List β} (h : ∀ x ∈ l, f x = pure ⟨⟩) : l.forM f = pure ⟨⟩ := by
  induction l with
  | nil => rfl
  | cons x l ih =>
    rw [List.forM, h x List.mem_cons_self, pure_bind, ih fun y hy => h y (List.mem_cons_of_mem x hy)]

theorem eq_of_map_toList {a b : m (Vector γ n)} (h : Vector.toList <$> a = Vector.toList <$> b) : a = b := by
  have hlist (c : m (Vector γ n)) : Vector.toArray <$> c = List.toArray <$> (Vector.toList <$> c) := by
    rw [← comp_map]; rfl
  exact Vector.map_toArray_inj.1 (by rw [hlist, hlist, h])

theorem mapM_eq_pure {f : β → m γ} {g : β → γ} {v : Vector β n} (h : ∀ x ∈ v.toList, f x = pure (g x)) :
    v.mapM f = pure (v.map g) := by
  apply eq_of_map_toList
  rw [toList_mapM, list_mapM_eq_pure h, map_pure, Vector.toList_map]

omit [LawfulMonad m] in
theorem buildM_eq (f : List Nat → m β) : buildM s f = (do return ⟨s, ← s.indexVector.mapM f⟩) := rfl

theorem buildM_eq_pure {f : List Nat → m β} {g : List Nat → β}
    (h : ∀ index, s.Inside index → f index = pure (g index)) : buildM s f = pure (build s g) := by
  have hm : ∀ index ∈ s.indexVector.toList, f index = pure (g index) := fun index hi =>
    h index (Shape.mem_indexVector.1 hi)
  rw [buildM_eq, mapM_eq_pure hm, pure_bind, build_eq]

theorem mapM_build {x : List Nat → β} {f : β → m γ} {y : List Nat → γ}
    (h : ∀ index, s.Inside index → f (x index) = pure (y index)) : (build s x).mapM f = pure (build s y) := by
  have hm : ∀ index ∈ s.indexVector.toList, (f ∘ x) index = pure (y index) := fun index hi =>
    h index (Shape.mem_indexVector.1 hi)
  have hcells : (s.indexVector.map x).mapM f = pure (s.indexVector.map y) := by
    rw [Vector.mapM_map, mapM_eq_pure hm]
  rw [build_eq, build_eq]
  change (do return ⟨s, ← (s.indexVector.map x).mapM f⟩ : m (Tensor γ)) = _
  rw [hcells, pure_bind]

end Action

section Repeat

theorem broadcastIndex_self : ∀ {s : Shape} {index : List Nat}, s.Inside index → broadcastIndex s index = index
  | [], _, .nil => rfl
  | n :: s, i :: rest, .cons hi hrest => by
    have htail : broadcastIndex s rest = rest := broadcastIndex_self hrest
    have hhead : (if n = 1 then 0 else i) = i := by
      split <;> omega
    rw [broadcastIndex, List.zipWith_cons_cons, hhead]
    exact congrArg (i :: ·) htail

theorem all_zip_self (l : List Nat) : (l.zip l).all (fun (n, m) => n == m || n == 1) = true := by
  induction l with
  | nil => rfl
  | cons n l ih => simpa using ih

theorem broadcast?_self (f : List Nat → β) : (build s f).broadcast? s = some (build s f) := by
  have hread : ∀ index, s.Inside index →
      (build s f).get? (List.replicate 0 0 ++ broadcastIndex s (index.drop 0)) = some (f index) := by
    intro index hi
    rw [List.drop_zero, broadcastIndex_self hi]
    exact get?_build hi f
  simp only [broadcast?, shape_build, Nat.sub_self, List.take_zero, List.drop_zero, List.all_nil, all_zip_self,
    Bool.and_self, if_true]
  exact buildM_eq_pure (m := Option) hread

theorem broadcast?_single (f : List Nat → β) : (build [] f).broadcast? s = some (build s fun _ => f []) := by
  have hread : ∀ index, s.Inside index →
      (build [] f).get? (List.replicate 0 0 ++ broadcastIndex [] (index.drop s.length)) = some (f []) :=
    fun _ _ => get?_build .nil f
  simp only [broadcast?, shape_build, List.length_nil, Nat.zero_sub, List.take_zero, List.drop_zero, List.all_nil,
    List.zip_nil_left, Bool.and_self, if_true, Nat.sub_zero]
  exact buildM_eq_pure (m := Option) hread

end Repeat

section Fault

/-- **One fault for all cells that cannot be computed** is the fault of the whole. -/
theorem list_mapM_eq_error {f : β → Except ε γ} {e : ε} : ∀ {l : List β},
    (∀ x ∈ l, (∃ y, f x = .ok y) ∨ f x = .error e) → (∃ x ∈ l, f x = .error e) → l.mapM f = .error e
  | [], _, ⟨_, hx, _⟩ => absurd hx List.not_mem_nil
  | x :: l, hall, ⟨z, hz, hfz⟩ => by
    rw [List.mapM_cons]
    obtain ⟨y, hy⟩ | he := hall x List.mem_cons_self
    · have hzl : z ∈ l := by
        rcases List.mem_cons.1 hz with rfl | hzl
        · rw [hfz] at hy; cases hy
        · exact hzl
      have hl : l.mapM f = .error e :=
        list_mapM_eq_error (fun w hw => hall w (List.mem_cons_of_mem x hw)) ⟨z, hzl, hfz⟩
      rw [hy, hl]
      rfl
    · rw [he]
      rfl

theorem mapM_eq_error {n : Nat} {f : β → Except ε γ} {e : ε} {v : Vector β n}
    (hall : ∀ x ∈ v.toList, (∃ y, f x = .ok y) ∨ f x = .error e) (hsome : ∃ x ∈ v.toList, f x = .error e) :
    v.mapM f = .error e := by
  apply eq_of_map_toList
  rw [toList_mapM, list_mapM_eq_error hall hsome]
  rfl

theorem buildM_eq_error {f : List Nat → Except ε β} {e : ε}
    (hall : ∀ index, s.Inside index → (∃ y, f index = .ok y) ∨ f index = .error e)
    (hsome : ∃ index, s.Inside index ∧ f index = .error e) : buildM s f = .error e := by
  obtain ⟨index, hi, he⟩ := hsome
  have hcells : s.indexVector.mapM f = .error e :=
    mapM_eq_error (fun x hx => hall x (Shape.mem_indexVector.1 hx)) ⟨index, Shape.mem_indexVector.2 hi, he⟩
  rw [buildM_eq, hcells]
  rfl

end Fault

end Tensor

theorem Shape.reserveLattice_eq_ok [Capacity] {α : Type} {s : Shape}
    (h : (Shape.reserve s : Except (Fault α) Unit) = .ok ()) :
    (Shape.reserveLattice s : Except (Fault α) Unit) = .ok () := by
  have haxes : (s.mapM fun n => (Shape.reserve [n] : Except (Fault α) Unit)) = .ok (s.map fun _ => ()) :=
    Tensor.list_mapM_eq_pure fun n hn => Shape.reserve_singleton h hn
  rw [Shape.reserveLattice_eq, haxes, ok_bind, h]

end Regrid
