import Mathlib
import Regrid.FileTree.Expand
import Regrid.Proofs.Conversions
import Regrid.Proofs.Plans
import Regrid.Workspace.Output
/-!
# FileNames — the parts of a file name and the name of an output

A path that is put together from a directory, a base name and the extension of a volume is taken apart into the same
three parts (`Path.FileName.parts_path`).  So an output that is named after its input, with a beginning of its own, is
stored beside it, and outputs of different inputs do not meet (`Path.FileName.outputs_apart`).
-/
namespace Regrid

namespace Path

section Characters

variable {p : Char → Bool} {s t d b e name : List Char}

theorem breakAfterLast_eq (hs : ∀ c, s.getLast? = some c → p c = true) (ht : ∀ c ∈ t, p c = false) :
    breakAfterLast p (s ++ t) = (s, t) := by
  have hnone : s.reverse.takeWhile (fun c => !p c) = [] := by
    rcases List.eq_nil_or_concat s with rfl | ⟨l, c, rfl⟩
    · rfl
    · have hc : p c = true := hs c (by simp)
      simp [hc]
  have htail : ((s ++ t).reverse.takeWhile fun c => !p c).reverse = t := by
    rw [List.reverse_append, List.takeWhile_append_of_pos, hnone, List.append_nil, List.reverse_reverse]
    intro c hc
    rw [ht c (List.mem_reverse.1 hc)]
    rfl
  unfold breakAfterLast
  simp only [htail, List.length_append, Nat.add_sub_cancel, List.take_left]

theorem trimSlashes_of_getLast? (h : d.getLast? ≠ some '/') : trimSlashes d = d := by
  rcases List.eq_nil_or_concat d with rfl | ⟨l, c, rfl⟩
  · rfl
  · have hc : c ≠ '/' := fun hslash => h (by simp [hslash])
    simp [trimSlashes, hc]

/-- **A slash at the end of a directory** is dropped, unless the directory is made of slashes. -/
theorem trimSlashes_append_slash (hne : d ≠ []) (h : d.getLast? ≠ some '/') : trimSlashes (d ++ ['/']) = d := by
  rcases List.eq_nil_or_concat d with rfl | ⟨l, c, rfl⟩
  · exact absurd rfl hne
  · have hc : c ≠ '/' := fun hslash => h (by simp [hslash])
    simp [trimSlashes, hc]

/-- **A name below a directory** is the last component. -/
theorem splitChars_joinChars (hname : '/' ∉ name) : splitChars (joinChars d name) = (trimSlashes d, name) := by
  have hplain : ∀ c ∈ name, (c == '/') = false := by
    intro c hc
    rw [beq_eq_false_iff_ne]
    rintro rfl
    exact hname hc
  have hhead : ¬(name.head? == some '/') = true := by
    intro h
    exact hname (List.mem_of_head? (beq_iff_eq.1 h))
  unfold joinChars
  rw [if_neg hhead]
  split
  · next hjoined =>
    have hlast : ∀ c, d.getLast? = some c → (c == '/') = true := by
      intro c hc
      rcases (Bool.or_eq_true _ _).mp hjoined with hempty | hslash
      · rw [List.isEmpty_iff.1 hempty] at hc
        cases hc
      · rw [hc] at hslash
        simpa using hslash
    rw [splitChars, breakAfterLast_eq hlast hplain]
  · next hjoined =>
    rw [Bool.or_eq_true, not_or, List.isEmpty_iff, beq_iff_eq] at hjoined
    rw [List.append_cons, splitChars, breakAfterLast_eq (by simp) hplain]
    exact congrArg (·, name) ((trimSlashes_append_slash hjoined.1 hjoined.2).trans
      (trimSlashes_of_getLast? hjoined.2).symm)

/-- **An extension without further dots** is told from a name that is not made of dots only. -/
theorem splitExtensionChars_append_dot (hb : ∃ c ∈ b, c ≠ '.') (he : '.' ∉ e) :
    splitExtensionChars (b ++ '.' :: e) = (b, '.' :: e) := by
  -- the dots in front are those of the base name, and what follows them ends in the last dot
  obtain ⟨dots, c, rest, rfl, hdots, hc⟩ : ∃ dots c rest, b = dots ++ c :: rest ∧ (∀ d ∈ dots, (d == '.') = true) ∧
      c ≠ '.' := by
    obtain ⟨c, hc, hne⟩ := hb
    have hrest : b.dropWhile (· == '.') ≠ [] := by
      rw [ne_eq, List.dropWhile_eq_nil_iff]
      exact fun hall => hne (beq_iff_eq.1 (hall c hc))
    have hfirst := List.head_dropWhile_not (· == '.') hrest
    refine ⟨b.takeWhile (· == '.'), _, (b.dropWhile (· == '.')).tail, ?_, fun d => List.mem_takeWhile_imp,
      ne_of_beq_false hfirst⟩
    rw [List.cons_head_tail, List.takeWhile_append_dropWhile]
  have hleading : (dots ++ c :: rest ++ '.' :: e).takeWhile (· == '.') = dots := by
    rw [List.append_assoc, List.takeWhile_append_of_pos hdots, List.cons_append, List.takeWhile_cons_of_neg (by simpa),
      List.append_nil]
  have hplain : ∀ c ∈ e, (c == '.') = false := by
    intro c hc
    rw [beq_eq_false_iff_ne]
    rintro rfl
    exact he hc
  have hcut : breakAfterLast (· == '.') (c :: rest ++ '.' :: e) = (c :: rest ++ ['.'], e) := by
    rw [List.append_cons]
    refine breakAfterLast_eq (fun d hd => ?_) hplain
    rw [List.getLast?_concat] at hd
    exact beq_iff_eq.2 (Option.some.inj hd).symm
  have hrest : (dots ++ c :: rest ++ '.' :: e).drop dots.length = c :: rest ++ '.' :: e := by
    rw [List.append_assoc, List.drop_left]
  have hdot : (c :: rest ++ '.' :: e).contains '.' = true := by
    simp
  unfold splitExtensionChars
  simp only [hleading, hrest, hdot, if_true, hcut, List.dropLast_concat]

/-- **The extension of a volume** is told from its base name. -/
theorem splitVolumeName_append (hb : ∃ c ∈ b, c ≠ '.') (he : e ∈ FileTree.volumeExtensions.map String.toList) :
    splitVolumeName (b ++ e) = (b, e) := by
  have hplain : ∀ e : List Char, '.' ∉ e → '.' :: e ≠ compressed → splitVolumeName (b ++ '.' :: e) = (b, '.' :: e) := by
    intro e he hgzip
    unfold splitVolumeName
    rw [splitExtensionChars_append_dot hb he]
    exact if_neg (by simpa using hgzip)
  have hcases : e = ".nii".toList ∨ e = ".nii.gz".toList ∨ e = ".mgh".toList ∨ e = ".mgz".toList ∨
      e = ".npy".toList := by
    simpa [FileTree.volumeExtensions] using he
  obtain rfl | rfl | rfl | rfl | rfl := hcases
  · exact hplain ['n', 'i', 'i'] (by decide) (by decide)
  · have hinner : ∃ c ∈ b ++ ['.', 'n', 'i', 'i'], c ≠ '.' := ⟨'n', by simp, by decide⟩
    have hcompressed := splitExtensionChars_append_dot hinner (e := ['g', 'z']) (by decide)
    have hextension := splitExtensionChars_append_dot hb (e := ['n', 'i', 'i']) (by decide)
    rw [List.append_assoc] at hcompressed
    have hname : b ++ ".nii.gz".toList = b ++ (['.', 'n', 'i', 'i'] ++ '.' :: ['g', 'z']) := rfl
    unfold splitVolumeName
    rw [hname, hcompressed]
    simp [compressed, hextension]
  · exact hplain ['m', 'g', 'h'] (by decide) (by decide)
  · exact hplain ['m', 'g', 'z'] (by decide) (by decide)
  · exact hplain ['n', 'p', 'y'] (by decide) (by decide)

end Characters

/-- **A file name in parts**: a directory without a slash at its end, unless it is made of slashes, a base name with a
character other than a dot, and the extension of a volume. -/
structure FileName where
  directory : String
  base : String
  extension : String
  trimmed : directory.toList.getLast? ≠ some '/' ∨ ∀ c ∈ directory.toList, c = '/'
  plain : '/' ∉ base.toList
  visible : ∃ c ∈ base.toList, c ≠ '.'
  known : extension ∈ FileTree.volumeExtensions

namespace FileName

variable (n m : FileName)

/-- **The path of a file.** -/
def path : String := join n.directory (n.base ++ n.extension)

/-- **The name with a beginning.** -/
def startingWith (q : String) (hq : '/' ∉ q.toList) : FileName :=
  { n with
    base := q ++ n.base
    plain := by
      rw [String.toList_append, List.mem_append]
      exact not_or.2 ⟨hq, n.plain⟩
    visible := by
      obtain ⟨c, hc, hne⟩ := n.visible
      exact ⟨c, by simp [hc], hne⟩ }

@[simp]
theorem base_startingWith {q : String} (hq : '/' ∉ q.toList) : (n.startingWith q hq).base = q ++ n.base := rfl

theorem trimSlashes_directory : trimSlashes n.directory.toList = n.directory.toList := by
  obtain hlast | hall := n.trimmed
  · exact trimSlashes_of_getLast? hlast
  · exact if_pos (List.all_eq_true.2 fun c hc => beq_iff_eq.2 (hall c hc))

theorem slash_notMem_name : '/' ∉ (n.base ++ n.extension).toList := by
  have hextension : ∀ e ∈ FileTree.volumeExtensions, '/' ∉ e.toList := by decide
  rw [String.toList_append, List.mem_append]
  exact not_or.2 ⟨n.plain, hextension _ n.known⟩

/-- **A path is taken apart** into the parts that it is put together from. -/
theorem parts_path : parts n.path = (n.directory, n.base, n.extension) := by
  have hsplit : splitChars (joinChars n.directory.toList (n.base ++ n.extension).toList) =
      (n.directory.toList, n.base.toList ++ n.extension.toList) := by
    rw [splitChars_joinChars n.slash_notMem_name, trimSlashes_directory, String.toList_append]
  have hname := splitVolumeName_append n.visible (List.mem_map_of_mem (f := String.toList) n.known)
  unfold parts partsChars path join
  simp only [String.toList_ofList, hsplit, hname, String.ofList_toList]

end FileName

end Path

variable {α : Type}

/-- **Options that name a file after its input**, with a beginning. -/
structure FileOptions.NamesAfterInput (o : FileOptions α) (q : String) : Prop where
  beginning : o.beginning = .text q
  directory : o.directory = .null
  base : o.base = .null
  extension : o.extension = .null
  path : o.path = .null

/-- **The path of an output** has the parts of its input, with a beginning. -/
theorem FileOptions.NamesAfterInput.pathFor {o : FileOptions α} {q : String} (ho : o.NamesAfterInput q)
    (n : Path.FileName) (hq : '/' ∉ q.toList) {i : Info α} (hi : i.origin = some (Path.parts n.path)) :
    o.pathFor (.ofInfo i) = .ok (n.startingWith q hq).path := by
  rw [Path.FileName.parts_path] at hi
  unfold FileOptions.pathFor FileHints.ofInfo
  simp only [hi, ho.beginning, ho.directory, ho.base, ho.extension, ho.path]
  rfl

variable [Scalar α]

namespace Input

variable {p : String} {files : FileTree α} {i : Info α}

theorem origin_of_find {objects : Bool} {found : Found α} {origin : Option (String × String × String)}
    (h : (path p).find files objects = .ok (found, origin)) : origin = some (Path.parts p) := by
  obtain ⟨opened, -, h⟩ := bind_eq_ok.1 h
  cases h
  rfl

theorem origin_of_read {dtype : Literal α} {objects : Bool} {cells : Volume α}
    (h : (path p).read files dtype objects = .ok (cells, i)) : i.origin = some (Path.parts p) := by
  obtain ⟨⟨found, origin⟩, hfound, h⟩ := bind_eq_ok.1 h
  cases origin_of_find hfound
  cases found with
  | array v =>
    obtain ⟨u, -, h⟩ := bind_eq_ok.1 h
    cases h
    rfl
  | image image =>
    obtain ⟨d, -, h⟩ := bind_eq_ok.1 h
    obtain ⟨u, -, h⟩ := bind_eq_ok.1 h
    cases h
    rfl
  | literal l =>
    dsimp only at h
    cases hv : Volume.ofLiteral l with
    | error e =>
      rw [hv] at h
      cases h
    | ok v =>
      rw [hv] at h
      obtain ⟨v, -, h⟩ := bind_eq_ok.1 h
      obtain ⟨u, -, h⟩ := bind_eq_ok.1 h
      cases h
      rfl

theorem origin_of_inspect (h : (path p).inspect files = .ok i) : i.origin = some (Path.parts p) := by
  obtain ⟨⟨found, origin⟩, hfound, h⟩ := bind_eq_ok.1 h
  cases origin_of_find hfound
  cases found with
  | array v =>
    cases h
    rfl
  | image image =>
    cases h
    rfl
  | literal l =>
    obtain ⟨v, -, h⟩ := bind_eq_ok.1 h
    cases h
    rfl

end Input

/-- **What is known about a file**, whether its cells are read or not. -/
def Info.Describes (i : Info α) (p : String) : Prop :=
  (∃ files dtype objects cells, (Input.path p).read files dtype objects = .ok (cells, i)) ∨
    ∃ files, (Input.path p).inspect files = .ok i

theorem Info.Describes.origin {i : Info α} {p : String} (h : i.Describes p) : i.origin = some (Path.parts p) := by
  obtain ⟨_, _, _, _, hread⟩ | ⟨_, hinspect⟩ := h
  · exact Input.origin_of_read hread
  · exact Input.origin_of_inspect hinspect

namespace Writer

/-- **A file that is stored** is written at the path that its options give, and reported. -/
theorem store_eq_ok {o : FileOptions α} {h : FileHints α} {v : Volume α} {r : Written α} {w w' : Workspace α}
    {path : String} (hpath : o.pathFor h = .ok path) (hknown : (Path.parts path).2.2 ∈ FileTree.volumeExtensions)
    (hstore : Task.perform (store o h v) w = (.ok r, w')) :
    (∃ f, w.files.write path f = .ok w'.files) ∧ w'.log = .wrote path :: w.log := by
  unfold store at hstore
  obtain ⟨d, -, hstore⟩ := Task.perform_lift_bind_eq_ok.1 hstore
  rw [hpath] at hstore
  obtain ⟨_, hsame, hstore⟩ := Task.perform_lift_bind_eq_ok.1 hstore
  cases hsame
  -- what is done once the cells are rounded
  extract_lets extension arrayPath last at hstore
  obtain ⟨f, hf⟩ : ∃ f, last = f := ⟨_, rfl⟩
  rw [hf] at hstore
  obtain ⟨rounded, hstore⟩ : ∃ rounded, Task.perform (f rounded) w = (.ok r, w') := by
    by_cases hrounds : (d.isInteger && !v.dtype.isInteger) = true
    · rw [if_pos hrounds] at hstore
      obtain ⟨rounded, -, hstore⟩ := Task.perform_lift_bind_eq_ok.1 hstore
      exact ⟨rounded, hstore⟩
    · rw [if_neg hrounds] at hstore
      exact ⟨v, hstore⟩
  subst hf
  dsimp only [last] at hstore
  by_cases harray : (extension == ".npy" || extension == ".npz") = true
  · rw [if_pos harray] at hstore
    have hnpy : (Path.parts path).2.2 = ".npy" := by
      rcases (Bool.or_eq_true _ _).mp harray with hnpy | hnpz
      · exact beq_iff_eq.1 hnpy
      · rw [beq_iff_eq.1 (show ((Path.parts path).2.2 == ".npz") = true from hnpz)] at hknown
        exact absurd hknown (by decide)
    have hpath : arrayPath = path := if_pos (Path.endsWith_npy hnpy)
    rw [hpath] at hstore
    obtain ⟨cells, -, hstore⟩ := Task.perform_lift_bind_eq_ok.1 hstore
    obtain ⟨_, _, hget, hstore⟩ := Task.perform_bind_eq_ok.1 hstore
    cases hget
    obtain ⟨files, hwrite, hstore⟩ := Task.perform_lift_bind_eq_ok.1 hstore
    by_cases hkept : cells.dtype ≠ .other
    · simp only [hkept, ne_eq, not_false_eq_true, decide_true, Bool.not_true, Bool.false_eq_true, if_false] at hstore
      cases hstore
      exact ⟨⟨_, hwrite⟩, rfl⟩
    · simp only [hkept, decide_false, Bool.not_false, if_true] at hstore
      cases hstore
  · rw [if_neg harray] at hstore
    cases hformat : ImageFormat.ofExtension? extension with
    | none =>
      rw [hformat] at hstore
      cases hstore
    | some format =>
      rw [hformat] at hstore
      obtain ⟨cells, -, hstore⟩ := Task.perform_lift_bind_eq_ok.1 hstore
      obtain ⟨affine, -, hstore⟩ := Task.perform_lift_bind_eq_ok.1 hstore
      obtain ⟨image, -, hstore⟩ := Task.perform_lift_bind_eq_ok.1 hstore
      obtain ⟨_, _, hget, hstore⟩ := Task.perform_bind_eq_ok.1 hstore
      cases hget
      obtain ⟨files, hwrite, hstore⟩ := Task.perform_lift_bind_eq_ok.1 hstore
      cases hstore
      exact ⟨⟨_, hwrite⟩, rfl⟩

/-- **The name of an output**: a writer that names files after their inputs stores whatever it is given there. -/
def NamesOutput (α : Type) [Scalar α] (q input output : String) : Prop :=
  ∀ (i : Info α) (call options : FileOptions α), i.Describes input → (call.orElse options).NamesAfterInput q →
    (call.orElse options).pathFor (.ofInfo i) = .ok output ∧
    ∀ (v : Volume α) (r : Written α) (w w' : Workspace α), (call.orElse options).dry.isTrue = false →
      Task.perform ((file options).write call (.ofInfo i) v) w = (.ok r, w') →
      (∃ f, w.files.write output f = .ok w'.files) ∧ w'.log = .wrote output :: w.log

variable (α)

theorem namesOutput_startingWith (n : Path.FileName) {q : String} (hq : '/' ∉ q.toList) :
    NamesOutput α q n.path (n.startingWith q hq).path := by
  intro i call options hi ho
  have hpath := ho.pathFor n hq hi.origin
  refine ⟨hpath, fun v r w w' hdry hwrite => store_eq_ok hpath ?_ (v := v) (r := r) ?_⟩
  · rw [Path.FileName.parts_path]
    exact n.known
  · unfold write at hwrite
    simp only [hdry, Bool.false_eq_true, if_false] at hwrite
    exact hwrite

end Writer

namespace Path.FileName

/-- **Parts of names, and names of outputs.**  A path is taken apart into the directory, the base name and the extension
that it is put together from.  So the outputs of two files, each named after its input with the same beginning, have
the parts of their inputs but for the beginning; neither is an input, and they are two. -/
theorem outputs_apart (α : Type) [Scalar α] :
    (∀ n : FileName, parts n.path = (n.directory, n.base, n.extension)) ∧
    ∀ (n m : FileName) (q : String), q ≠ "" → '/' ∉ q.toList → n.path ≠ m.path →
      ∃ output output', Writer.NamesOutput α q n.path output ∧ Writer.NamesOutput α q m.path output' ∧
        parts output = (n.directory, q ++ n.base, n.extension) ∧
        parts output' = (m.directory, q ++ m.base, m.extension) ∧
        output ≠ n.path ∧ output' ≠ m.path ∧ output ≠ output' := by
  refine ⟨parts_path, fun n m q hempty hq hdistinct => ?_⟩
  have hlonger : ∀ n : FileName, (n.startingWith q hq).path ≠ n.path := by
    intro n h
    have hbase : q ++ n.base = n.base := by
      simpa only [parts_path, base_startingWith] using congrArg (fun s => (parts s).2.1) h
    have hlength := congrArg String.length hbase
    rw [String.length_append] at hlength
    exact hempty (String.length_eq_zero_iff.1 (by omega))
  refine ⟨_, _, Writer.namesOutput_startingWith α n hq, Writer.namesOutput_startingWith α m hq, parts_path _,
    parts_path _, hlonger n, hlonger m, fun h => hdistinct ?_⟩
  -- with the beginning taken off, the parts of equal outputs are the parts of equal inputs
  have hparts := congrArg parts h
  rw [parts_path, parts_path, Prod.mk.injEq, Prod.mk.injEq] at hparts
  obtain ⟨hdirectory, hbase, hextension⟩ := hparts
  have hsame : n.base = m.base := (String.append_right_inj q).1 hbase
  change n.directory = m.directory at hdirectory
  change n.extension = m.extension at hextension
  rw [path, path, hdirectory, hsame, hextension]

/-- **A hidden file at the root with two marks of compression**, and a file in the working directory. -/
theorem outputs_apart_hidden :
    let files : FileTree Float := .ofFiles [("b.npy", Request.ones [1, 1, 1])]
    let options : FileOptions Float := { FileOptions.none with beginning := .text "r_" }
    ∃ output output' i, parts output = ("/", "r_.a.gz", ".nii.gz") ∧ parts output' = ("", "r_b", ".npy") ∧
      output ≠ "/.a.gz.nii.gz" ∧ output' ≠ "b.npy" ∧ output ≠ output' ∧
      (Input.path "b.npy").inspect files = .ok i ∧ options.pathFor (.ofInfo i) = .ok output' := by
  intro files options
  let hidden : FileName := ⟨"/", ".a.gz", ".nii.gz", .inr (by simp), by decide, ⟨'a', by decide, by decide⟩, by decide⟩
  let plain : FileName := ⟨"", "b", ".npy", .inl (by decide), by decide, ⟨'b', by decide, by decide⟩, by decide⟩
  have hhidden : hidden.path = "/.a.gz.nii.gz" := by decide +kernel
  have hplain : plain.path = "b.npy" := by decide +kernel
  obtain ⟨output, output', -, hnames, hparts, hparts', hinput, hinput', hapart⟩ :=
    (outputs_apart Float).2 hidden plain "r_" (by decide +kernel) (by decide +kernel) (by decide +kernel)
  rw [hhidden] at hinput
  rw [hplain] at hnames hinput'
  have hinspect : ∃ i, (Input.path "b.npy").inspect files = .ok i := ⟨_, rfl⟩
  obtain ⟨i, hi⟩ := hinspect
  exact ⟨output, output', i, hparts, hparts', hinput, hinput', hapart, hi,
    (hnames i .none options (.inr ⟨files, hi⟩) ⟨rfl, rfl, rfl, rfl, rfl⟩).1⟩

end Path.FileName

end Regrid
