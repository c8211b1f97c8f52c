import Mathlib
import Regrid.Proofs.Rounded
import Regrid.Proofs.Tools
import Regrid.Workspace.Output
/-!
# Conversions — output values in the type that is asked for

An output array, a converter and a file of an array convert values of double precision alike.  In an integer type a
value in range becomes the nearest integer, a half the even one, and what is not a number becomes zero.  The guard for
these types leaves out the truth values: there what is not a number becomes true, and so does every number other than
zero, even one nearer to zero than to one (`Volume.conversions`).
-/
namespace Regrid

open Exact

/-- **The nearest of some whole numbers** to a real number, a tie going to an even one. -/
def IsNearestEven (holds : ℤ → Prop) (r : ℝ) (n : ℤ) : Prop :=
  holds n ∧ ∀ m, holds m → |r - n| ≤ |r - m| ∧ (|r - n| = |r - m| → m = n ∨ Even n)

theorem isNearestEven_nearestEven {holds : ℤ → Prop} {r : ℝ} (h : holds (Binary.nearestEven r)) :
    IsNearestEven holds r (Binary.nearestEven r) := by
  refine ⟨h, fun m _ => ?_⟩
  have hhalf := Binary.abs_sub_nearestEven_le r
  by_cases hm : m = Binary.nearestEven r
  · exact ⟨by rw [hm], fun _ => .inl hm⟩
  -- two whole numbers are at least one apart, so any other one is at least half away
  have hapart : (1 : ℝ) ≤ |(Binary.nearestEven r : ℝ) - m| := by
    exact_mod_cast Int.one_le_abs (sub_ne_zero.2 (Ne.symm hm))
  have htriangle : |(Binary.nearestEven r : ℝ) - m| ≤ |r - Binary.nearestEven r| + |r - m| := by
    rw [abs_sub_comm r (Binary.nearestEven r)]
    exact abs_sub_le _ r _
  exact ⟨by linarith, fun htie => .inr (Binary.even_nearestEven (by linarith))⟩

namespace Path

theorem breakAfterLast_append (p : Char → Bool) (s : List Char) :
    (breakAfterLast p s).1 ++ (breakAfterLast p s).2 = s := by
  have hsuffix : (s.reverse.takeWhile fun c => !p c).reverse <:+ s := by
    rw [← List.reverse_prefix, List.reverse_reverse]
    exact List.takeWhile_prefix _
  exact List.suffix_iff_eq_append.1 hsuffix

theorem getLast?_breakAfterLast {c : Char} {s : List Char} (hc : c ∈ s) :
    (breakAfterLast (· == c) s).1.getLast? = some c := by
  have hsplit : (s.reverse.dropWhile fun d => !(d == c)).reverse ++ (breakAfterLast (· == c) s).2 = s := by
    change _ ++ (s.reverse.takeWhile fun d => !(d == c)).reverse = s
    rw [← List.reverse_append, List.takeWhile_append_dropWhile, List.reverse_reverse]
  have hhead := List.append_cancel_right ((breakAfterLast_append (· == c) s).trans hsplit.symm)
  rw [hhead, List.getLast?_reverse, ← List.find?_eq_head?_dropWhile_not]
  have hfound : (s.reverse.find? (· == c)).isSome := by
    simp [hc]
  obtain ⟨d, hd⟩ := Option.isSome_iff_exists.1 hfound
  have heq : (d == c) = true := List.find?_some (p := fun d => d == c) hd
  rw [hd, beq_iff_eq.1 heq]

theorem splitExtensionChars_append (s : List Char) : (splitExtensionChars s).1 ++ (splitExtensionChars s).2 = s := by
  unfold splitExtensionChars
  dsimp only
  split_ifs with hdot
  · have happend := breakAfterLast_append (· == '.') (s.drop (s.takeWhile (· == '.')).length)
    have hlast := getLast?_breakAfterLast (List.contains_iff_mem.1 hdot)
    rcases hcut : breakAfterLast (· == '.') (s.drop (s.takeWhile (· == '.')).length) with ⟨head, tail⟩
    rw [hcut] at happend hlast
    dsimp only at happend hlast ⊢
    have hhead : head.dropLast ++ ['.'] = head := List.dropLast_append_getLast? _ hlast
    calc s.takeWhile (· == '.') ++ head.dropLast ++ '.' :: tail
        = s.takeWhile (· == '.') ++ (head.dropLast ++ ['.'] ++ tail) := by simp
      _ = s.takeWhile (· == '.') ++ s.drop (s.takeWhile (· == '.')).length := by rw [hhead, happend]
      _ = s := List.prefix_iff_eq_append.1 (List.takeWhile_prefix _)
  · exact List.append_nil s

theorem extension_parts (path : String) :
    (parts path).2.2 = String.ofList (splitVolumeName (splitChars path.toList).2).2 := by
  unfold parts partsChars
  rcases splitChars path.toList with ⟨directory, name⟩
  dsimp only

/-- **What has the extension of an array file** ends with it. -/
theorem endsWith_npy {path : String} (h : (parts path).2.2 = ".npy") : endsWith path ".npy" = true := by
  have hextension : (splitVolumeName (splitChars path.toList).2).2 = ['.', 'n', 'p', 'y'] := by
    rw [← String.toList_ofList (l := (splitVolumeName _).2), ← extension_parts, h]
    rfl
  have hname : (splitChars path.toList).2 <:+ path.toList := by
    refine ⟨(breakAfterLast (· == '/') path.toList).1, ?_⟩
    exact breakAfterLast_append _ _
  have hsplit := splitExtensionChars_append (splitChars path.toList).2
  unfold splitVolumeName at hextension
  rcases hparts : splitExtensionChars (splitChars path.toList).2 with ⟨base, extension⟩
  rw [hparts] at hextension hsplit
  dsimp only at hextension hsplit
  split_ifs at hextension with hcompressed
  -- the mark of a compressed file does not end this extension
  · rw [beq_iff_eq.1 hcompressed] at hextension
    have hlast := congrArg List.getLast? hextension
    simp [compressed] at hlast
  · obtain rfl : extension = ['.', 'n', 'p', 'y'] := hextension
    refine List.isSuffixOf_iff_suffix.2 (List.IsSuffix.trans ⟨base, ?_⟩ hname)
    exact hsplit

end Path

namespace Dtype

variable {k : IntType} {x : Rounded}

theorem holds_nearestEven {r : ℝ} (hlow : k.minimum ≤ r) (hhigh : r ≤ k.maximum) :
    k.holds (Binary.nearestEven r) = true := by
  have hmin := Binary.nearestEven_mono hlow
  have hmax := Binary.nearestEven_mono hhigh
  rw [Binary.nearestEven_intCast] at hmin hmax
  simp [IntType.holds, hmin, hmax]

theorem wholeOf_of_roundToInteger {n : ℤ} (hround : roundToInteger x = Scalar.ofInt n)
    (hkeeps : Scalar.Keeps Rounded n) (hholds : k.holds n = true) : (wholeOf k x).val = n := by
  have hwhole : wholeOf k x = wholeOf k (Scalar.ofInt n : Rounded) := by
    unfold wholeOf
    rw [hround, roundToInteger_ofInt hkeeps]
  rw [hwhole, wholeOf_ofInt k hkeeps]
  exact IntType.residue_eq_self hholds

theorem wholeOf_of_isNaN (hx : Scalar.isNaN x = true) : (wholeOf k x).val = 0 :=
  wholeOf_of_roundToInteger (if_pos hx) Scalar.keeps_zero (by cases k <;> decide)

/-- **A number in the range of an integer type** becomes the nearest integer. -/
theorem wholeOf_of_value {r : ℝ} (hx : x.value = finite r) (hlow : k.minimum ≤ r) (hhigh : r ≤ k.maximum) :
    (wholeOf k x).val = Binary.nearestEven r := by
  have hholds := holds_nearestEven hlow hhigh
  have hvalue := x.value_ofInt_nearestEven hx
  have hround : roundToInteger x = Scalar.ofInt (Binary.nearestEven r) := by
    unfold roundToInteger
    rw [Rounded.isNaN_eq, Rounded.isFinite_eq, hx, x.rint_of_value hx]
    rfl
  obtain ⟨hleast, hmost⟩ := range_of_holds hholds
  exact wholeOf_of_roundToInteger hround ⟨hleast, hmost, floor_toDouble_intCast_iff.2 hvalue⟩ hholds

end Dtype

namespace Writer

variable {α : Type} [Scalar α]

theorem perform_write_converter {call : FileOptions α} {dtype : Literal α} {h : FileHints α} {v : Volume α} {d : Dtype}
    (hdtype : outputDtype v [call.dtype, dtype] h.dtype = .ok d) (w : Workspace α) :
    Task.perform ((converter dtype).write call h v) w = (.array <$> v.toStored d, w) := by
  have hconvert : convert v [call.dtype, dtype] h.dtype = v.toStored d := by rw [convert, hdtype, ok_bind]
  change Task.perform (do return .array (← convert v [call.dtype, dtype] h.dtype) : Task α (Written α)) w = _
  rw [hconvert]
  cases v.toStored d <;> rfl

/-- **Storing an array without an orientation** converts its cells as a converter does. -/
theorem perform_store_npy {o : FileOptions α} {h : FileHints α} {v y : Volume α} {d : Dtype} {path : String}
    {w : Workspace α} {files : FileTree α} (hdtype : outputDtype v [o.dtype] h.dtype = .ok d)
    (hpath : o.pathFor h = .ok path) (hextension : (Path.parts path).2.2 = ".npy") (hcells : v.toStored d = .ok y)
    (hkept : y.dtype ≠ .other) (hwrite : w.files.write path (.array y) = .ok files) :
    Task.perform (store o h v) w = (.ok (.array y), ⟨files, .wrote path :: w.log⟩) := by
  have hends := Path.endsWith_npy hextension
  -- once the cells are converted, the file is written and this is reported
  have hlast : ∀ rounded : Volume α, rounded.cast d = .ok y → Task.perform (do
      let cells ← rounded.cast d
      let path := if Path.endsWith path ".npy" then path else path ++ ".npy"
      let kept := cells.dtype ≠ .other
      let files ← (← get).files.write path (if kept then .array cells else .text unfinished)
      modify fun w => { w with files }
      if !kept then throw .notStored
      Task.report (.wrote path)
      return .array cells : Task α (Written α)) w = (.ok (.array y), ⟨files, .wrote path :: w.log⟩) := by
    intro rounded hcast
    rw [hcast]
    refine (Task.perform_bind_ok (x := y) rfl _).trans ?_
    refine (Task.perform_bind_ok (x := w) rfl _).trans ?_
    simp only [hends, if_true, hkept, ne_eq, not_false_eq_true, hwrite]
    rfl
  unfold store
  rw [hdtype, hpath]
  refine (Task.perform_bind_ok (x := d) rfl _).trans ?_
  refine (Task.perform_bind_ok (x := path) rfl _).trans ?_
  unfold Volume.toStored at hcells
  cases hrounds : d.isInteger && !v.dtype.isInteger with
  | false =>
    simp only [hrounds, Bool.false_eq_true, if_false, pure_bind] at hcells ⊢
    simp only [hextension]
    exact hlast v hcells
  | true =>
    simp only [hrounds, if_true] at hcells ⊢
    obtain ⟨rounded, hrounded, hcast⟩ := bind_eq_ok.1 hcells
    rw [hrounded]
    refine (Task.perform_bind_ok (x := rounded) rfl _).trans ?_
    simp only [hextension]
    exact hlast rounded hcast

end Writer

/-- **A number as a truth value**: false if it is zero. -/
def truthOf {α : Type} [Scalar α] (x : α) : Bool := !(x == 0)

section Truth

variable {x : Rounded} {r : ℝ}

theorem truthOf_of_isNaN (hx : Scalar.isNaN x = true) : truthOf x = true := by
  have hvalue : x.value = nan := by
    rw [Rounded.isNaN_eq] at hx
    cases hvalue : x.value with
    | nan => rfl
    | finite | infinity =>
      rw [hvalue] at hx
      cases hx
  rw [truthOf, Rounded.beq_eq, hvalue]
  rfl

theorem truthOf_of_value (hx : x.value = finite r) : truthOf x = !decide (r = 0) := by
  rw [truthOf, Rounded.beq_eq, hx, Rounded.value_zero, finite_beq]

/-- **The nearest truth value** is true only above one half. -/
theorem isNearestEven_truthOf_iff (hx : x.value = finite r) (hlow : 0 ≤ r) (hhigh : r ≤ 1) :
    IsNearestEven (fun n => n = 0 ∨ n = 1) r (Number.ofBool (truthOf x)) ↔ r = 0 ∨ 1 / 2 < r := by
  rw [truthOf_of_value hx]
  by_cases hzero : r = 0
  · subst hzero
    refine iff_of_true ⟨by simp [Number.ofBool], fun m hm => ?_⟩ (.inl rfl)
    rcases hm with rfl | rfl <;> simp [Number.ofBool]
  · simp only [hzero, decide_false, Bool.not_false, Number.ofBool, if_true, false_or]
    constructor
    · rintro ⟨-, hnearest⟩
      obtain ⟨hle, htie⟩ := hnearest 0 (.inl rfl)
      push_cast at hle htie
      rw [sub_zero, abs_of_nonneg hlow, abs_sub_comm, abs_of_nonneg (by linarith)] at hle htie
      refine lt_of_le_of_ne (by linarith) fun hhalf => ?_
      rcases htie (by linarith) with h | h
      · cases h
      · exact absurd h (by decide)
    · intro hhalf
      refine ⟨.inr rfl, fun m hm => ?_⟩
      rcases hm with rfl | rfl
      · push_cast
        rw [sub_zero, abs_of_nonneg hlow, abs_sub_comm, abs_of_nonneg (by linarith)]
        exact ⟨by linarith, fun h => by linarith⟩
      · exact ⟨le_rfl, fun _ => .inl rfl⟩

end Truth

/-- **The conversions of an array of double precision.**  A converter, and a writer of array files, give what an output
array is converted to.  In an integer type these are the nearest integers, and zero for what is not a number.  As a
truth value, what is not a number is true, and a number is the nearest truth value only if it is zero or more than a
half. -/
theorem Volume.conversions (t : Tensor Rounded) :
    (∀ (call : FileOptions Rounded) (dtype : Literal Rounded) (h : FileHints Rounded) (d : Dtype)
      (w : Workspace Rounded), Writer.outputDtype ⟨.real .double, t⟩ [call.dtype, dtype] h.dtype = .ok d →
      Task.perform ((Writer.converter dtype).write call h ⟨.real .double, t⟩) w =
        (.array <$> toOutput ⟨.real .double, t⟩ (some d), w)) ∧
    (∀ (call o : FileOptions Rounded) (h : FileHints Rounded) (d : Dtype) (path : String) (y : Volume Rounded)
      (w : Workspace Rounded) (files : FileTree Rounded), (call.orElse o).dry.isTrue = false →
      Writer.outputDtype ⟨.real .double, t⟩ [(call.orElse o).dtype] h.dtype = .ok d →
      (call.orElse o).pathFor h = .ok path → (Path.parts path).2.2 = ".npy" →
      toOutput ⟨.real .double, t⟩ (some d) = .ok y → y.dtype ≠ .other → w.files.write path (.array y) = .ok files →
      Task.perform ((Writer.file o).write call h ⟨.real .double, t⟩) w =
        (.ok (.array y), ⟨files, .wrote path :: w.log⟩)) ∧
    (∀ k : IntType, toOutput ⟨.real .double, t⟩ (some (.int k)) = .ok ⟨.int k, t.map (Dtype.wholeOf k)⟩ ∧
      ∀ x : Rounded, (Scalar.isNaN x = true → (Dtype.wholeOf k x).val = 0) ∧
        ∀ r, x.value = finite r → k.minimum ≤ r → r ≤ k.maximum →
          IsNearestEven (fun n => k.holds n = true) r (Dtype.wholeOf k x).val) ∧
    toOutput ⟨.real .double, t⟩ (some .bool) = .ok ⟨.bool, t.map truthOf⟩ ∧
      ∀ x : Rounded, (Scalar.isNaN x = true → truthOf x = true) ∧
        ∀ r, x.value = finite r → 0 ≤ r → r ≤ 1 →
          (IsNearestEven (fun n => n = 0 ∨ n = 1) r (Number.ofBool (truthOf x)) ↔ r = 0 ∨ 1 / 2 < r) := by
  have hmap : ∀ (d : Dtype) (f : Rounded → d.storing.Value Rounded), (∀ x, d.storeReal x = .ok (f x)) →
      toOutput ⟨.real .double, t⟩ (some d) = .ok ⟨d.storing, t.map f⟩ := fun d f hf => by
    rw [toOutput_reals, Tensor.mapM_eq_map hf]
    rfl
  refine ⟨fun call dtype h d w hd => ?_, fun call o h d path y w files hdry hd hpath hextension hy hkept hwrite => ?_,
    fun k => ⟨hmap (.int k) _ (Dtype.storeReal_int k), fun x => ⟨Dtype.wholeOf_of_isNaN, fun r hx hlow hhigh => ?_⟩⟩,
    hmap .bool truthOf fun x => rfl, fun x => ⟨truthOf_of_isNaN, fun r => isNearestEven_truthOf_iff⟩⟩
  · rw [toOutput_reals, ← toStored_reals]
    exact Writer.perform_write_converter hd w
  · rw [toOutput_reals, ← toStored_reals] at hy
    exact (congrArg (Task.perform · w) (if_neg (by rw [hdry]; decide))).trans
      (Writer.perform_store_npy hd hpath hextension hy hkept hwrite)
  · rw [Dtype.wholeOf_of_value hx hlow hhigh]
    exact isNearestEven_nearestEven (Dtype.holds_nearestEven hlow hhigh)

theorem Volume.conversions_quarters : ∃ (t : Tensor Rounded) (u : Tensor Bool) (files : FileTree Rounded),
    t.toList.map Rounded.value = [nan, finite (1 / 4), finite (3 / 4), finite 0] ∧
    toOutput ⟨.real .double, t⟩ (some .bool) = .ok ⟨.bool, u⟩ ∧ u.toList = [true, true, true, false] ∧
    Task.perform ((Writer.converter (.text "bool")).write .none .none ⟨.real .double, t⟩) (Workspace.ofFiles []) =
      (.ok (.array ⟨.bool, u⟩), Workspace.ofFiles []) ∧
    Task.perform ((Writer.file { FileOptions.none with path := .text "a.npy", dtype := .text "bool" }).write
      .none .none ⟨.real .double, t⟩) (Workspace.ofFiles []) = (.ok (.array ⟨.bool, u⟩), ⟨files, [.wrote "a.npy"]⟩) ∧
    ¬IsNearestEven (fun n => n = 0 ∨ n = 1) (1 / 4) (Number.ofBool true) := by
  have hquarter : ∀ k : ℤ, |k| ≤ 3 → (Rounded.round (finite (k / 4))).value = finite (k / 4) := fun k hk => by
    have hkr : |(k : ℝ)| ≤ 3 := by exact_mod_cast hk
    have hpower : (2 : ℝ) ^ 1 < 2 ^ 1024 := pow_lt_pow_right₀ (by norm_num) (by norm_num)
    refine toDouble_of_isMember ⟨k, -2, ?_, hk.trans (by decide), by decide⟩ (lt_trans ?_ hpower)
    · rw [zpow_neg, div_eq_mul_inv]
      norm_num
    · rw [abs_div, abs_of_pos (by norm_num : (0 : ℝ) < 4)]
      linarith
  have hone : (Rounded.round (finite (1 / 4))).value = finite (1 / 4) := by simpa using hquarter 1 (by decide)
  have hthree : (Rounded.round (finite (3 / 4))).value = finite (3 / 4) := by simpa using hquarter 3 (by decide)
  let t : Tensor Rounded :=
    ⟨[4], #v[Rounded.round nan, Rounded.round (finite (1 / 4)), Rounded.round (finite (3 / 4)), 0]⟩
  obtain ⟨hconverter, hfile, -, hbool, hvalues⟩ := Volume.conversions t
  obtain ⟨files, hfiles⟩ : ∃ files, (Workspace.ofFiles []).files.write "a.npy"
      (.array (⟨.bool, t.map truthOf⟩ : Volume Rounded)) = .ok files := ⟨_, rfl⟩
  refine ⟨t, t.map truthOf, files, ?_, hbool, Vector.toList_map.trans ?_, ?_, ?_, fun hnearest => ?_⟩
  · change [nan, (Rounded.round (finite (1 / 4))).value, (Rounded.round (finite (3 / 4))).value,
      (0 : Rounded).value] = _
    rw [hone, hthree, Rounded.value_zero]
  · change [truthOf (Rounded.round nan), truthOf (Rounded.round (finite (1 / 4))),
      truthOf (Rounded.round (finite (3 / 4))), truthOf (0 : Rounded)] = _
    rw [(hvalues _).1 rfl, truthOf_of_value hone, truthOf_of_value hthree, truthOf_of_value Rounded.value_zero]
    norm_num
  · rw [hconverter .none (.text "bool") .none .bool _ rfl, hbool]
    rfl
  · exact hfile .none _ .none .bool "a.npy" _ _ files rfl rfl rfl (by decide +kernel) hbool (by decide) hfiles
  · have hquarters := ((hvalues (Rounded.round (finite (1 / 4)))).2 _ hone (by norm_num) (by norm_num)).1
    rw [truthOf_of_value hone] at hquarters
    norm_num at hquarters
    exact hquarters hnearest

end Regrid
