import Mathlib
import Regrid.Proofs.Cells
import Regrid.Sampler
/-!
# Sampling — a sampler answers everywhere

A sampler of a volume without empty axes has a value at every position of every place in its series
(`Sampler.Sound.exists_sample`).  So what it gives at many positions at once is what it gives at each of them, up to the
type in which values and fallback stand side by side.
-/
namespace Regrid

namespace Kernel

variable {α : Type} [Scalar α]

theorem clamp_lt {n : Nat} (hn : 0 < n) (i : Int) : (clamp n i).toNat < n := by
  unfold clamp
  omega

theorem inside_clamp : ∀ {sizes : Shape} {index : List Int}, sizes.length = index.length → (∀ n ∈ sizes, 0 < n) →
    Shape.Inside sizes (List.zipWith (fun (n : Nat) (i : Int) => (clamp n i).toNat) sizes index)
  | [], [], _, _ => .nil
  | n :: _, i :: _, hlen, hpos =>
    .cons (clamp_lt (hpos n List.mem_cons_self) i)
      (inside_clamp (Nat.succ.inj hlen) fun m hm => hpos m (List.mem_cons_of_mem n hm))

theorem clampVoxel?_eq {size : Vector Nat 3} (hpos : ∀ n ∈ size.toList, 0 < n) (index : Vector Int 3) :
    clampVoxel? size index = some (Vector.zipWith (fun (n : Nat) (i : Int) => (clamp n i).toNat) size index) := by
  let pairs : Vector (Nat × Int) 3 := Vector.zipWith (fun n i => (n, i)) size index
  have hpairs : ∀ x ∈ pairs.toList, (if 0 < x.1 then some (clamp x.1 x.2).toNat else none) =
      pure (clamp x.1 x.2).toNat := by
    intro x hx
    have hmem : x.1 ∈ size.toList := by
      rw [Vector.toList_zipWith, List.mem_iff_getElem] at hx
      obtain ⟨k, hk, rfl⟩ := hx
      simp
    exact if_pos (hpos x.1 hmem)
  have hmap : pairs.map (fun x => (clamp x.1 x.2).toNat) =
      Vector.zipWith (fun (n : Nat) (i : Int) => (clamp n i).toNat) size index := Vector.map_zipWith
  rw [← hmap]
  exact Tensor.mapM_eq_pure hpairs

theorem exists_clampVoxel {size : Vector Nat 3} (hpos : ∀ n ∈ size.toList, 0 < n) (index : Vector Int 3) :
    ∃ voxel, clampVoxel? size index = some voxel ∧ Shape.Inside size.toList voxel.toList := by
  refine ⟨_, clampVoxel?_eq hpos index, ?_⟩
  rw [Vector.toList_zipWith]
  exact inside_clamp (by simp) hpos

theorem foldlM_ok {β γ ε : Type} {f : γ → β → Except ε γ} : ∀ {l : List β} (s : γ),
    (∀ s, ∀ x ∈ l, ∃ s', f s x = .ok s') → ∃ s', l.foldlM f s = .ok s'
  | [], s, _ => ⟨s, rfl⟩
  | x :: l, s, h => by
    obtain ⟨s', hs'⟩ := h s x List.mem_cons_self
    rw [List.foldlM_cons, hs']
    exact foldlM_ok s' fun t y hy => h t y (List.mem_cons_of_mem x hy)

theorem exists_linearAt {size : Vector Nat 3} (hpos : ∀ n ∈ size.toList, 0 < n)
    {read : Vector Nat 3 → Except (Fault α) α}
    (hread : ∀ voxel, Shape.Inside size.toList voxel.toList → ∃ x, read voxel = .ok x) (p : Point α) :
    ∃ x, linearAt size read p = .ok x := by
  refine foldlM_ok _ fun s corner _ => ?_
  obtain ⟨voxel, hvoxel, hinside⟩ := exists_clampVoxel hpos
    (Vector.zipWith (fun i (c : Fin 2) => i + c.val) (p.map Scalar.floor) corner)
  obtain ⟨x, hx⟩ := hread voxel hinside
  rw [hvoxel]
  simp only [hx, ok_bind]
  exact ⟨_, rfl⟩

end Kernel

namespace Selection

variable {α : Type} [Scalar α]

theorem ofLiteral_natCast {n i : Nat} (h : i < n) :
    ofLiteral (α := α) n (.number (.int i)) = .ok (.one i) := by
  have hslot : Shape.axis? n i = some i := by
    rw [Shape.axis?, if_pos (Int.natCast_nonneg i), if_pos (by exact_mod_cast h), Int.toNat_natCast]
  rw [ofLiteral, ofInt, hslot]
  rfl

theorem mapM_one (l : List Nat) : (l.map one).mapM (fun
    | one i => some i
    | several => none) = some l := by
  induction l with
  | nil => rfl
  | cons i l ih =>
    simp only [List.map_cons, List.mapM_cons, ih]
    rfl

theorem place?_of_inside {sizes place : List Nat} (h : Shape.Inside sizes place) :
    place? sizes (place.map fun i : Nat => (.number (.int i) : Literal α)) = .ok (some place) := by
  have hselect : ∀ {sizes place : List Nat}, Shape.Inside sizes place →
      (sizes.zip (place.map fun i : Nat => (.number (.int i) : Literal α))).mapM
        (fun p => ofLiteral p.1 p.2) = .ok (place.map one) := by
    intro sizes place h
    induction h with
    | nil => rfl
    | cons hi _ ih =>
      simp only [List.map_cons, List.zip_cons_cons, List.mapM_cons, ofLiteral_natCast hi, ih, ok_bind]
      rfl
  rw [place?, hselect h]
  exact congrArg Except.ok (mapM_one place)

end Selection
namespace Sampler

variable {α : Type}

theorem dtype_cases (s : Sampler α) : s.dtype = s.volume.dtype ∨ s.dtype = .real .double := by
  unfold dtype
  cases s.source with
  | nearest => exact .inl rfl
  | linear | cubic => exact .inr rfl

theorem numberDtype_int {d : Dtype} (hd : d.IsNumeric) (n : Int) :
    ∃ e, numberDtype d (.int n : Number α) = .ok e ∧ d.Widens e := by
  cases d with
  | bool => exact ⟨_, rfl, .boolInt⟩
  | int t => exact ⟨_, rfl, .same hd⟩
  | real p => exact ⟨_, rfl, .same hd⟩
  | complex | span | text | other => exact hd.elim

theorem numberDtype_real {d : Dtype} (hd : d.IsNumeric) (x : α) :
    ∃ e, numberDtype d (.real x) = .ok e ∧ d.Widens e := by
  cases d with
  | bool => exact ⟨_, rfl, .boolReal⟩
  | int t => exact ⟨_, rfl, .intReal t⟩
  | real p => exact ⟨_, rfl, .same hd⟩
  | complex | span | text | other => exact hd.elim

variable [Scalar α]

/-- **A sound sampler**: its volume has cells along every axis and stores numbers in them, and a fallback that is given
is a number. -/
structure Sound (s : Sampler α) : Prop where
  shape : s.volume.shape = s.extent.toShape
  positive : ∀ n ∈ s.volume.shape, 0 < n
  numeric : s.volume.dtype.IsNumeric
  stored : ∀ x ∈ s.volume.cells.toList, s.volume.dtype.Stored x
  fallback : ∀ l, s.fallback = some l → ∃ n, l = .number n

variable {s : Sampler α}

theorem Sound.spatial_positive (h : s.Sound) : ∀ n ∈ s.extent.spatial.toList, 0 < n := fun n hn =>
  h.positive n (by rw [h.shape]; exact List.mem_append_left _ hn)

theorem Sound.exists_cell (h : s.Sound) {voxel : Vector Nat 3} {last : List Nat}
    (hvoxel : Shape.Inside s.extent.spatial.toList voxel.toList) (hlast : Shape.Inside s.extent.series last) :
    ∃ x, s.volume.cell? (voxel.toList ++ last) = some x ∧ s.volume.dtype.Stored x := by
  have hinside : s.volume.cells.shape.Inside (voxel.toList ++ last) := by
    rw [show s.volume.cells.shape = s.extent.toShape from h.shape]
    exact hvoxel.append hlast
  obtain ⟨x, hx, hget⟩ := Tensor.exists_get? hinside
  exact ⟨x, hget, h.stored x hx⟩

/-- **A sampler has a value at every position**, and its type keeps the value. -/
theorem Sound.exists_sample [Scalar.Lawful α] (h : s.Sound) {last : List Nat}
    (hlast : Shape.Inside s.extent.series last) (p : Point α) : ∃ x, s.sample last p = .ok x ∧ s.dtype.Stored x := by
  have hnearest : ∃ x, Source.sample s.volume s.extent.spatial last p .nearest = .ok x ∧ s.volume.dtype.Stored x := by
    obtain ⟨voxel, hvoxel, hinside⟩ := Kernel.exists_clampVoxel h.spatial_positive
      (p.map fun x => Scalar.floor (x + Scalar.half))
    obtain ⟨x, hx, hstored⟩ := h.exists_cell hinside hlast
    have hsample : Source.sample s.volume s.extent.spatial last p .nearest = .ok x := by
      simp only [Source.sample, Kernel.nearestVoxel?, hvoxel, hx]
      rfl
    exact ⟨x, hsample, hstored⟩
  have hlinear : ∃ x, Source.sample s.volume s.extent.spatial last p .linear = .ok x := by
    refine Kernel.exists_linearAt h.spatial_positive (fun voxel hvoxel => ?_) p
    obtain ⟨x, hx, -⟩ := h.exists_cell hvoxel hlast
    exact ⟨s.volume.dtype.scalar x, by rw [hx]; exact Dtype.toScalar_eq h.numeric x⟩
  unfold sample dtype
  cases s.source with
  | nearest => exact hnearest
  | linear =>
    obtain ⟨x, hx⟩ := hlinear
    exact ⟨x, hx, Dtype.stored_double (α := α) x⟩
  | cubic coefficients => exact ⟨_, rfl, Dtype.stored_double (α := α) _⟩

theorem place_of_inside {place : List Nat} (h : Shape.Inside s.extent.series place) :
    s.place (place.map fun i : Nat => .number (.int i)) = .ok place := by
  rw [Sampler.place, Selection.place?_of_inside h]
  rfl

theorem Sound.dtype_numeric (h : s.Sound) : s.dtype.IsNumeric := by
  obtain hd | hd := s.dtype_cases
  · rw [hd]; exact h.numeric
  · rw [hd]; exact Dtype.isNumeric_double

/-- **The fallback as it stands beside the values of a block**: a whole or a real number is stored in the type that
suits the values and itself. -/
def merged (s : Sampler α) : Except (Fault α) α :=
  match s.fallback with
  | none | some (.number (.bool _)) => s.outside.toReal
  | some (.number n) => do
    let d ← numberDtype s.dtype n
    return d.scalar (← cellOfNumber n d)
  | some _ => .error .wrongKind

/-- **The estimate at a position**, as a real number. -/
def estimate (s : Sampler α) (last : List Nat) (p : Point α) : α :=
  match s.sample last p with
  | .ok x => s.dtype.scalar x
  | .error _ => Scalar.nan

theorem estimate_eq {last : List Nat} {p : Point α} {x : s.dtype.Value α} (hx : s.sample last p = .ok x) :
    s.estimate last p = s.dtype.scalar x := by
  rw [estimate, hx]

/-- **The nearest kernel** reads the voxel that is nearest. -/
theorem sample_nearest_of_cell {volume : Volume α} {extent : Extent} {fallback : Option (Literal α)}
    {grid : Option (Grid α)} {name : Literal α} {voxel : Vector Nat 3} {place : List Nat} {p : Point α}
    (hp : Kernel.nearestVoxel? extent.spatial p = some voxel) {x : volume.dtype.Value α}
    (hx : volume.cell? (voxel.toList ++ place) = some x) :
    Sampler.sample ⟨volume, extent, .nearest, fallback, grid, name⟩ place p = .ok x := by
  simp only [sample, Source.sample]
  rw [hp]
  simp only [hx]
  rfl

/-- **The nearest kernel** gives the voxel that is nearest. -/
theorem Sound.estimate_nearest (hs : s.Sound) (hsource : s.source = .nearest)
    {voxel : Vector Nat 3} {place : List Nat}
    (hvoxel : Shape.Inside s.extent.spatial.toList voxel.toList) (hplace : Shape.Inside s.extent.series place)
    {p : Point α} (hp : Kernel.nearestVoxel? s.extent.spatial p = some voxel) :
    ∃ x, s.volume.cell? (voxel.toList ++ place) = some x ∧ s.estimate place p = s.volume.dtype.scalar x := by
  obtain ⟨x, hx, -⟩ := hs.exists_cell hvoxel hplace
  refine ⟨x, hx, ?_⟩
  obtain ⟨volume, extent, source, fallback, grid, name⟩ := s
  obtain rfl : source = .nearest := hsource
  exact estimate_eq (sample_nearest_of_cell hp hx)

theorem estimate_eq_getD (s : Sampler α) (last : List Nat) (p : Point α) :
    s.estimate last p = ((s.sample last p).toOption.map s.dtype.scalar).getD Scalar.nan := by
  unfold estimate
  cases s.sample last p <;> rfl

theorem tryWeights_of_ok {last : List Nat} {points : Points α} (h : ∀ p, ∃ x, s.sample last p = .ok x) :
    s.tryWeights last points = .ok () := by
  refine Tensor.list_forM_eq_pure fun p _ => ?_
  obtain ⟨x, hx⟩ := h p
  rw [hx]
  rfl

variable [Scalar.Lawful α]

theorem stored_cellOfNumber {n : Number α} {d : Dtype} (hd : d.IsNumeric) {z : d.Value α}
    (h : cellOfNumber n d = .ok z) : d.Stored z := by
  cases d with
  | bool => rfl
  | int t => exact Dtype.stored_int t z
  | real p =>
    rw [Dtype.stored_real]
    have hnarrow : ∀ x : Except (Fault α) α, (do return Scalar.narrow p (← x)) = Except.ok z →
        Scalar.narrow p z = z := by
      intro x hx
      cases x with
      | error e => cases hx
      | ok y => cases hx; exact Scalar.Lawful.narrow_narrow p y
    cases n with
    | int k =>
      simp only [cellOfNumber] at h
      split at h
      · cases h; exact Scalar.Lawful.narrow_storeInt p k
      · exact hnarrow _ h
    | bool b => exact hnarrow _ h
    | real x => exact hnarrow _ h
  | complex | span | text | other => exact hd.elim

theorem Sound.absorbs_missing (h : s.Sound) :
    s.dtype.Absorbs (Dtype.missing s.volume.dtype : Cell α).dtype := by
  rw [(Dtype.missing_numeric h.numeric).1]
  obtain hd | hd := s.dtype_cases
  · exact .inl hd
  · exact .inr (.inr hd)

/-- **A single cell beside values**: the type that suits both has the values, and the number of the cell. -/
def Beside (s : Sampler α) (d : Dtype) (outside : Volume α) (m : α) : Prop :=
  s.dtype.Widens d ∧ ∃ (c : Dtype) (z : c.Value α) (z' : d.Value α), c.IsNumeric ∧ outside = single c z ∧
    c.convert d z = .ok z' ∧ d.scalar z' = m

theorem Sound.beside_of_absorbs (h : s.Sound) {e : Dtype} (he : e.IsNumeric) (ha : s.dtype.Absorbs e) {z : e.Value α}
    (hz : e.Stored z) : (s.dtype.join e : Except (Fault α) Dtype) = .ok s.dtype ∧
      s.Beside s.dtype (single e z) (e.scalar z) := by
  obtain ⟨z', hconvert, hscalar⟩ := Dtype.convert_of_absorbs h.dtype_numeric he ha hz
  exact ⟨Dtype.join_of_absorbs h.dtype_numeric he ha, .same h.dtype_numeric, e, z, z', he, rfl, hconvert, hscalar⟩

theorem beside_number {n : Number α} (hn : ∃ e, numberDtype s.dtype n = .ok e ∧ s.dtype.Widens e) :
    (∃ f, (do let d ← numberDtype s.dtype n; return d.scalar (← cellOfNumber n d)) = .error f ∧
      (do let d ← numberDtype s.dtype n; return (d, single d (← cellOfNumber n d))) = .error f) ∨
    ∃ m d outside, (do let d ← numberDtype s.dtype n; return d.scalar (← cellOfNumber n d)) = .ok m ∧
      (do let d ← numberDtype s.dtype n; return (d, single d (← cellOfNumber n d))) = .ok (d, outside) ∧
      s.Beside d outside m := by
  obtain ⟨e, he, hwidens⟩ := hn
  rw [he]
  simp only [ok_bind]
  cases hz : cellOfNumber n e with
  | error f => exact .inl ⟨f, rfl, rfl⟩
  | ok z =>
    have hnum := hwidens.isNumeric.2
    exact .inr ⟨e.scalar z, e, single e z, rfl, rfl, hwidens, e, z, z, hnum, rfl, stored_cellOfNumber hnum hz, rfl⟩

/-- **The fallback beside the values of a block** fails like the merged fallback, or has its number. -/
theorem Sound.beside_cases (h : s.Sound) : (∃ f, s.merged = .error f ∧ s.beside s.dtype = .error f) ∨
    ∃ m d outside, s.merged = .ok m ∧ s.beside s.dtype = .ok (d, outside) ∧ s.Beside d outside m := by
  unfold merged beside Sampler.outside
  cases hf : s.fallback with
  | none =>
    obtain ⟨hd, hz⟩ := Dtype.missing_numeric (α := α) h.numeric
    have hnum : (Dtype.missing s.volume.dtype : Cell α).dtype.IsNumeric := by rw [hd]; exact h.numeric
    obtain ⟨hjoin, hbeside⟩ := h.beside_of_absorbs hnum h.absorbs_missing hz
    refine .inr ⟨_, s.dtype, _, Dtype.convert_double hnum _, ?_, hbeside⟩
    simp only [hjoin, ok_bind]
    rfl
  | some l =>
    obtain ⟨n, rfl⟩ := h.fallback l hf
    cases n with
    | bool b =>
      obtain ⟨hjoin, hbeside⟩ := h.beside_of_absorbs (e := .bool) trivial (.inr (.inl rfl)) (z := b) rfl
      refine .inr ⟨_, s.dtype, _, rfl, ?_, hbeside⟩
      simp only [hjoin, ok_bind]
      rfl
    | int n => exact beside_number (numberDtype_int h.dtype_numeric n)
    | real x => exact beside_number (numberDtype_real h.dtype_numeric x)

/-- **The values at many positions** are the estimates, with the merged fallback where a position is not valid. -/
theorem Sound.valuesAt_of_ok (h : s.Sound) {place : List Nat} (hplace : Shape.Inside s.extent.series place)
    (lattice : Shape) (position : List Nat → Point α) {m : α} (hm : s.merged = .ok m) :
    ∃ (d : Dtype) (x : List Nat → d.Value α), d.IsNumeric ∧
      s.valuesAt (place.map fun i : Nat => .number (.int i)) (Tensor.build lattice position) =
        .ok ⟨d, Tensor.build lattice x⟩ ∧
      ∀ index, d.scalar (x index) =
        if s.valid (position index) then s.estimate place (position index) else m := by
  choose value hvalue hstored using fun p => h.exists_sample hplace p
  obtain ⟨f, hf, -⟩ | ⟨m', d, outside, hm', hbeside, hwidens, c, z, z', hc, rfl, hz, hscalar⟩ := h.beside_cases
  · rw [hm] at hf; cases hf
  obtain rfl : m = m' := by rw [hm] at hm'; exact Except.ok.inj hm'
  choose widened hwidened hkeeps using fun p => hwidens.convert (hstored p)
  -- a position that is not valid is read as the first voxel, which the choice then leaves out
  let read (p : Point α) : Point α := if s.valid p then p else Vector.replicate 3 0
  have hread : ((Tensor.build lattice position).map read).mapM (s.sample place) =
      .ok (Tensor.build lattice fun index => value (read (position index))) := by
    rw [Tensor.map_build]
    exact Tensor.mapM_build fun index _ => hvalue _
  refine ⟨d, fun index => if s.valid (position index) then widened (read (position index)) else z',
    hwidens.isNumeric.2, ?_, fun index => ?_⟩
  · unfold valuesAt
    rw [place_of_inside hplace]
    simp only [ok_bind, tryWeights_of_ok fun p => ⟨value p, hvalue p⟩]
    rw [hread]
    simp only [ok_bind, hbeside, Tensor.map_build]
    exact Volume.choose_single h.dtype_numeric hc hwidens.isNumeric.2 (fun index _ => hwidened _) hz
  · change d.scalar (if s.valid (position index) then widened (read (position index)) else z') = _
    by_cases hvalid : s.valid (position index) = true
    · have hp : read (position index) = position index := if_pos hvalid
      rw [if_pos hvalid, if_pos hvalid, hp, hkeeps, estimate_eq (hvalue _)]
    · rw [if_neg hvalid, if_neg hvalid, hscalar]

theorem Sound.valuesAt_of_error (h : s.Sound) {place : List Nat} (hplace : Shape.Inside s.extent.series place)
    (lattice : Shape) (position : List Nat → Point α) {f : Fault α} (hf : s.merged = .error f) :
    s.valuesAt (place.map fun i : Nat => .number (.int i)) (Tensor.build lattice position) = .error f := by
  choose value hvalue hstored using fun p => h.exists_sample hplace p
  have hbeside : s.beside s.dtype = .error f := by
    obtain ⟨f', hf', hbeside⟩ | ⟨m, _, _, hm, -⟩ := h.beside_cases
    · rw [hf] at hf'; cases hf'; exact hbeside
    · rw [hf] at hm; cases hm
  unfold valuesAt
  rw [place_of_inside hplace]
  simp only [ok_bind, tryWeights_of_ok fun p => ⟨value p, hvalue p⟩, Tensor.map_build]
  rw [Tensor.mapM_build fun index _ => hvalue _]
  simp only [hbeside]
  rfl

/-- **The value at one position** is the estimate, or the fallback if the position is not valid. -/
theorem Sound.toReal_valueAt (h : s.Sound) {place : List Nat} (hplace : Shape.Inside s.extent.series place)
    (p : Point α) : (do (← s.valueAt (place.map fun i : Nat => .number (.int i)) p).1.toReal) =
      if s.valid p then .ok (s.estimate place p) else s.outside.toReal := by
  obtain ⟨x, hx, -⟩ := h.exists_sample hplace p
  rw [valueAt]
  by_cases hvalid : s.valid p = true
  · rw [if_pos hvalid, if_pos hvalid, place_of_inside hplace]
    simp only [ok_bind, hx, estimate_eq hx]
    exact Dtype.convert_double h.dtype_numeric x
  · rw [if_neg hvalid, if_neg hvalid]
    rfl

end Sampler
end Regrid
