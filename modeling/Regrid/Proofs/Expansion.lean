import Mathlib
import Regrid.Proofs.FileNames
/-!
# Expansion — the volumes that path patterns denote

A directory among the matches of a pattern is replaced by its volumes, which are found with patterns again: the path of
the directory stands for whatever it matches.  So these are the volumes of the directory itself if no character of its
path is a wildcard, and otherwise those of all directories that the path matches, to which this one need not belong
(`FileTree.expandVolumes_directories`).
-/
namespace Regrid

namespace Path

namespace Wildcard

variable {s u : List Char}

theorem read_of_plain : ∀ {s : List Char} {fuel : Nat}, present s = false → s.length ≤ fuel →
    read fuel s = s.map literal
  | [], 0, _, _ | [], _ + 1, _, _ => rfl
  | c :: s, fuel + 1, hplain, hfuel => by
    obtain ⟨hc, hs⟩ : (¬c = '*' ∧ ¬c = '?' ∧ ¬c = '[') ∧ present s = false := by
      simpa [present, and_assoc] using hplain
    rw [read, read_of_plain hs (Nat.le_of_succ_le_succ hfuel)]
    · rfl
    · exact hc.1
    · exact hc.2.1
    · exact hc.2.2

theorem matchesChars_literals : ∀ {s u : List Char}, matchesChars (s.map literal) u = true ↔ s = u
  | [], u => by rw [List.map_nil, matchesChars, List.isEmpty_iff, eq_comm]
  | c :: s, [] => by simp [matchesChars]
  | c :: s, d :: u => by simp [matchesChars, accepts, matchesChars_literals]

/-- **A star and characters that stand for themselves**: a name ends with these characters. -/
theorem matchesChars_many_literals : matchesChars (many :: s.map literal) u = true ↔ s <:+ u := by
  induction u with
  | nil =>
    rw [matchesChars, matchesChars_literals, List.suffix_nil]
  | cons c u ih =>
    rw [matchesChars, Bool.or_eq_true, matchesChars_literals, ih, List.suffix_cons_iff]

end Wildcard

theorem isInstance_star {e name : String} (he : Wildcard.present e.toList = false) :
    isInstance ("*" ++ e) name = endsWith name e := by
  have hread : Wildcard.ofChars ("*" ++ e).toList = .many :: e.toList.map .literal := by
    rw [String.toList_append]
    exact congrArg (List.cons _) (Wildcard.read_of_plain he (le_refl e.toList.length))
  rw [Bool.eq_iff_iff, isInstance, hread, Wildcard.matchesChars_many_literals, endsWith, List.isSuffixOf_iff_suffix]

theorem trimSlashes_trimSlashes (s : List Char) : trimSlashes (trimSlashes s) = trimSlashes s := by
  by_cases hall : (trimSlashes s).all (· == '/') = true
  · exact if_pos hall
  · have hs : ¬s.all (· == '/') = true := by
      intro hs
      rw [trimSlashes, if_pos hs] at hall
      exact hall hs
    have htrim : trimSlashes s = s.rdropWhile (· == '/') := if_neg hs
    rw [trimSlashes, if_neg hall, htrim]
    exact List.rdropWhile_idempotent _ s

/-- **A path without the slashes at its end**, unless it is made of slashes. -/
def trimmed (s : String) : String := String.ofList (trimSlashes s.toList)

theorem trimmed_trimmed (s : String) : trimmed (trimmed s) = trimmed s := by
  rw [trimmed, trimmed, String.toList_ofList, trimSlashes_trimSlashes]

theorem split_join {d name : String} (hname : '/' ∉ name.toList) : split (join d name) = (trimmed d, name) := by
  unfold split join trimmed
  simp only [String.toList_ofList, splitChars_joinChars hname, String.ofList_toList]

theorem prefix_trimSlashes (s : List Char) : trimSlashes s <+: s := by
  unfold trimSlashes
  split
  · exact List.prefix_refl s
  · exact List.rdropWhile_prefix _ s

theorem trimSlashes_concat {l : List Char} (h : ¬(l ++ ['/']).all (· == '/') = true) :
    trimSlashes (l ++ ['/']) = trimSlashes l := by
  have hl : ¬l.all (· == '/') = true := by simpa using h
  rw [trimSlashes, if_neg h, trimSlashes, if_neg hl]
  exact List.rdropWhile_concat_pos _ _ _ rfl

theorem directory_of_name_empty {s : String} (h : (split s).2 = "") : (split s).1 = trimmed s := by
  have hname : (breakAfterLast (· == '/') s.toList).2 = [] := by
    rw [← String.toList_ofList (l := (breakAfterLast _ _).2)]
    exact String.toList_eq_nil_iff.2 h
  have hhead := breakAfterLast_append (· == '/') s.toList
  rw [hname, List.append_nil] at hhead
  change String.ofList (trimSlashes (breakAfterLast (· == '/') s.toList).1) = _
  rw [hhead, trimmed]

theorem prefix_directory (s : String) : (split s).1.toList <+: s.toList := by
  have hhead : (breakAfterLast (· == '/') s.toList).1 <+: s.toList := ⟨_, breakAfterLast_append _ _⟩
  unfold split splitChars
  rw [String.toList_ofList]
  exact (prefix_trimSlashes _).trans hhead

theorem length_directory_lt {s : String} (h : (split s).1 ≠ s) : (split s).1.length < s.length := by
  rw [← String.length_toList, ← String.length_toList]
  refine lt_of_le_of_ne (prefix_directory s).length_le fun hlength => h ?_
  exact String.toList_injective ((prefix_directory s).eq_of_length hlength)

theorem join_empty (name : String) : join "" name = name := by
  have hchars : joinChars [] name.toList = name.toList := by
    unfold joinChars
    split
    · rfl
    · exact if_pos rfl
  rw [join, String.toList_empty, hchars, String.ofList_toList]

theorem join_ne_empty {d name : String} (hd : d ≠ "") : join d name ≠ "" := by
  intro hjoin
  have hchars : joinChars d.toList name.toList = [] := by
    rw [← String.toList_ofList (l := joinChars _ _), ← join, hjoin, String.toList_empty]
  unfold joinChars at hchars
  split_ifs at hchars with hhead
  · rw [hchars] at hhead
    cases hhead
  · exact hd (String.toList_eq_nil_iff.1 (List.append_eq_nil_iff.1 hchars).1)
  · exact hd (String.toList_eq_nil_iff.1 (List.append_eq_nil_iff.1 hchars).1)

theorem present_trimmed {s : String} (h : Wildcard.present s.toList = false) :
    Wildcard.present (trimmed s).toList = false := by
  rw [trimmed, String.toList_ofList]
  exact List.any_eq_false.2 fun c hc => List.any_eq_false.1 h c ((prefix_trimSlashes s.toList).subset hc)

theorem suffix_join (d name : String) : name.toList <:+ (join d name).toList := by
  rw [join, String.toList_ofList]
  unfold joinChars
  split_ifs
  · exact List.suffix_refl _
  · exact List.suffix_append _ _
  · exact List.suffix_append_of_suffix (List.suffix_cons _ _)

theorem length_split_le (s : String) : (split s).1.length + (split s).2.length ≤ s.length := by
  have hparts := congrArg List.length (breakAfterLast_append (· == '/') s.toList)
  have htrim := (prefix_trimSlashes (breakAfterLast (· == '/') s.toList).1).length_le
  rw [List.length_append, String.length_toList] at hparts
  change (String.ofList (trimSlashes (breakAfterLast (· == '/') s.toList).1)).length +
    (String.ofList (breakAfterLast (· == '/') s.toList).2).length ≤ _
  rw [String.length_ofList, String.length_ofList]
  omega

theorem components_append_slash (l : List Char) :
    components (String.ofList (l ++ ['/'])) = components (String.ofList l) ++ [""] := by
  unfold components
  rw [String.toList_ofList, String.toList_ofList, List.splitOn_append_cons_self, List.splitOn_nil, List.map_append]
  rfl

end Path

namespace FileTree

variable {α : Type} (t : FileTree α)

theorem place?_ofList {l : List Char} (hl : l ≠ []) : t.place? (String.ofList l) =
    (Path.components (String.ofList l)).foldlM t.step? (if l.head? == some '/' then [] else t.working) := by
  have hne : ¬(String.ofList l).isEmpty = true := by simpa using hl
  rw [place?, if_neg hne, String.toList_ofList]

/-- **A slash at the end of a path** asks for a directory. -/
theorem place?_append_slash {l : List Char} (hl : l ≠ []) : t.place? (String.ofList (l ++ ['/'])) =
    (t.place? (String.ofList l)).bind fun place => if t.isDirectory place then some place else none := by
  have hstep : ∀ place, t.step? place "" = if t.isDirectory place then some place else none := by
    intro place
    unfold step?
    cases t.isDirectory place <;> rfl
  rw [place?_ofList t (by simp), place?_ofList t hl, List.head?_append_of_ne_nil l hl, Path.components_append_slash,
    List.foldlM_append]
  simp only [List.foldlM_cons, List.foldlM_nil, hstep, bind_pure]
  rfl

variable {t}

theorem isDirectoryAt_eq_true {path : String} :
    t.isDirectoryAt path = true ↔ ∃ place, t.place? path = some place ∧ t.isDirectory place = true := by
  rw [isDirectoryAt, Option.any_eq_true]

theorem ne_empty_of_isDirectoryAt {path : String} (h : t.isDirectoryAt path = true) : path ≠ "" := by
  rintro rfl
  cases h

theorem isDirectoryAt_of_append_slash {l : List Char} (hl : l ≠ [])
    (h : t.isDirectoryAt (String.ofList (l ++ ['/'])) = true) : t.isDirectoryAt (String.ofList l) = true ∧
      t.place? (String.ofList (l ++ ['/'])) = t.place? (String.ofList l) := by
  obtain ⟨place, hplace, hisDirectory⟩ := isDirectoryAt_eq_true.1 h
  have hslash := hplace
  rw [place?_append_slash t hl] at hslash
  obtain ⟨place', hplace', hsame⟩ := Option.bind_eq_some_iff.1 hslash
  split at hsame
  · cases hsame
    exact ⟨isDirectoryAt_eq_true.2 ⟨place, hplace', hisDirectory⟩, hplace.trans hplace'.symm⟩
  · cases hsame

/-- **The slashes at the end of the path of a directory** do not change what it denotes. -/
theorem place?_trimmed {path : String} (h : t.isDirectoryAt path = true) :
    t.place? (Path.trimmed path) = t.place? path := by
  suffices hchars : ∀ s : List Char, t.isDirectoryAt (String.ofList s) = true →
      t.place? (String.ofList (Path.trimSlashes s)) = t.place? (String.ofList s) by
    have hpath := hchars path.toList (by rwa [String.ofList_toList])
    rwa [String.ofList_toList] at hpath
  intro s
  -- one slash is dropped after the other
  induction s using List.reverseRecOn with
  | nil => exact fun _ => rfl
  | append_singleton l c ih =>
    intro hdirectory
    by_cases hall : (l ++ [c]).all (· == '/') = true
    · rw [Path.trimSlashes, if_pos hall]
    by_cases hc : c = '/'
    · subst hc
      have hl : l ≠ [] := by
        rintro rfl
        exact hall rfl
      obtain ⟨hshorter, hplace⟩ := isDirectoryAt_of_append_slash hl hdirectory
      rw [Path.trimSlashes_concat hall, hplace, ih hshorter]
    · rw [Path.trimSlashes_of_getLast? (by simpa using hc)]

theorem isDirectoryAt_trimmed {path : String} (h : t.isDirectoryAt path = true) :
    t.isDirectoryAt (Path.trimmed path) = true := by
  rw [isDirectoryAt, place?_trimmed h]
  exact h

theorem existsAt_of_isDirectoryAt {path : String} (h : t.isDirectoryAt path = true) : t.existsAt path = true := by
  obtain ⟨place, hplace, hisDirectory⟩ := isDirectoryAt_eq_true.1 h
  have hhas : t.has place = true := by
    rw [has, hisDirectory, Bool.true_or]
  rw [existsAt, resolve?, hplace, Option.filter_some, if_pos hhas]
  rfl

theorem isDirectoryAt_of_mem_childrenAt {path name : String} (hpath : path ≠ "") (h : name ∈ t.childrenAt path) :
    t.isDirectoryAt path = true := by
  have hne : ¬path.isEmpty = true := by simpa using hpath
  rw [childrenAt, if_neg hne] at h
  cases hplace : t.place? path with
  | none =>
    rw [hplace] at h
    cases h
  | some place =>
    rw [hplace] at h
    dsimp only at h
    split at h
    · next hisDirectory => exact isDirectoryAt_eq_true.2 ⟨place, hplace, hisDirectory⟩
    · cases h

section Patterns

variable {p d x : String} {n m : Nat} {b : Bool}

variable (t) in
/-- **The directories for the last component of a pattern**: what the components before it match. -/
def directoriesWithin (n : Nat) (p : String) : List String :=
  if (Path.split p).1 != p && Path.Wildcard.present (Path.split p).1.toList then t.globWithin n (Path.split p).1 true
  else [(Path.split p).1]

variable (t) in
/-- **The names in a directory** for the last component of a pattern. -/
def namesFor (d name : String) (b : Bool) : List String :=
  if Path.Wildcard.present name.toList then t.matchingNames d name b else t.exactName d name

theorem globWithin_succ : t.globWithin (n + 1) p b =
    if Path.Wildcard.present p.toList then
      if (Path.split p).1.isEmpty then t.matchingNames "" (Path.split p).2 b
      else (t.directoriesWithin n p).flatMap fun d => (t.namesFor d (Path.split p).2 b).map (Path.join d)
    else
      if (if (Path.split p).2.isEmpty then t.isDirectoryAt (Path.split p).1 else t.existsAt p) then [p] else [] := by
  unfold globWithin directoriesWithin namesFor
  rcases Path.split p with ⟨directory, name⟩
  cases hwild : Path.Wildcard.present p.toList <;> simp only [hwild] <;> rfl

/-- **What matches a pattern**: the pattern itself, or a name in one of the directories that its directory matches. -/
theorem mem_globWithin_succ : x ∈ t.globWithin (n + 1) p b ↔
    (Path.Wildcard.present p.toList = false ∧
      (if (Path.split p).2.isEmpty then t.isDirectoryAt (Path.split p).1 else t.existsAt p) = true ∧ x = p) ∨
    (Path.Wildcard.present p.toList = true ∧ (Path.split p).1 = "" ∧ x ∈ t.matchingNames "" (Path.split p).2 b) ∨
    (Path.Wildcard.present p.toList = true ∧ (Path.split p).1 ≠ "" ∧
      ∃ d ∈ t.directoriesWithin n p, ∃ name ∈ t.namesFor d (Path.split p).2 b, Path.join d name = x) := by
  rw [globWithin_succ]
  cases Path.Wildcard.present p.toList with
  | false => simp
  | true =>
    by_cases hdirectory : (Path.split p).1 = ""
    · simp [hdirectory]
    · simp [hdirectory]

/-- **The depth does not matter** once it exceeds the length of a pattern. -/
theorem globWithin_eq (hn : p.length < n) (hm : p.length < m) : t.globWithin n p b = t.globWithin m p b := by
  induction n generalizing m p b with
  | zero => exact absurd hn (Nat.not_lt_zero _)
  | succ n ih =>
    obtain ⟨m, rfl⟩ := Nat.exists_eq_succ_of_ne_zero (Nat.ne_of_gt (Nat.zero_lt_of_lt hm))
    -- the only recursion is for the directories, whose pattern is shorter
    have hdirectories : t.directoriesWithin n p = t.directoriesWithin m p := by
      unfold directoriesWithin
      split
      · next hwild =>
        rw [Bool.and_eq_true, bne_iff_ne] at hwild
        have hshorter := Path.length_directory_lt hwild.1
        exact ih (by omega) (by omega)
      · rfl
    rw [globWithin_succ, globWithin_succ, hdirectories]

theorem mem_matchingNames {name : String} : x ∈ t.matchingNames d name b ↔ x ∈ t.childrenAt d ∧
    (isHidden name = true ∨ isHidden x = false) ∧ Path.isInstance name x = true ∧
    (b = true → t.isDirectoryAt (if d.isEmpty then x else Path.join d x) = true) := by
  unfold matchingNames
  rw [List.mem_filter]
  cases b <;> simp [and_assoc]

/-- **What is no directory** is left out if only directories are asked for. -/
theorem mem_globWithin_of_isDirectoryAt (hx : t.isDirectoryAt x = true) :
    x ∈ t.globWithin n p true ↔ x ∈ t.globWithin n p false := by
  cases n with
  | zero => exact Iff.rfl
  | succ n =>
    have hmatching : ∀ d name y, Path.join d y = x →
        (y ∈ t.matchingNames d name true ↔ y ∈ t.matchingNames d name false) := by
      intro d name y hy
      have hpath : (if d.isEmpty then y else Path.join d y) = x := by
        split
        · next hempty => rw [← hy, String.isEmpty_iff.1 hempty, Path.join_empty]
        · exact hy
      rw [mem_matchingNames, mem_matchingNames, hpath]
      simp only [hx, implies_true]
    have hnames : ∀ d name y, Path.join d y = x → (y ∈ t.namesFor d name true ↔ y ∈ t.namesFor d name false) := by
      intro d name y hy
      unfold namesFor
      split
      · exact hmatching d name y hy
      · exact Iff.rfl
    rw [mem_globWithin_succ, mem_globWithin_succ, hmatching "" _ x (Path.join_empty x)]
    refine or_congr_right (or_congr_right (and_congr_right' (and_congr_right' (exists_congr fun d => ?_))))
    refine and_congr_right' (exists_congr fun name => and_congr_left fun hname => hnames d _ name hname)

theorem mem_directoriesWithin (h : d ∈ t.directoriesWithin n p) :
    d ∈ t.globWithin n (Path.split p).1 true ∨ d = (Path.split p).1 := by
  unfold directoriesWithin at h
  split at h
  · exact .inl h
  · exact .inr (List.mem_singleton.1 h)

theorem ne_empty_of_mem_globWithin (h : x ∈ t.globWithin n p true) : x ≠ "" := by
  induction n generalizing x p with
  | zero => cases h
  | succ n ih =>
    rcases mem_globWithin_succ.1 h with ⟨-, hexists, rfl⟩ | ⟨-, -, hmem⟩ | ⟨-, hdirectory, d, hd, name, -, rfl⟩
    · rintro rfl
      cases hexists
    · obtain ⟨-, -, -, hisDirectory⟩ := mem_matchingNames.1 hmem
      exact ne_empty_of_isDirectoryAt (hisDirectory rfl)
    · obtain hd | rfl := mem_directoriesWithin hd
      · exact Path.join_ne_empty (ih hd)
      · exact Path.join_ne_empty hdirectory

theorem ne_empty_of_mem_directoriesWithin (hp : (Path.split p).1 ≠ "") (h : d ∈ t.directoriesWithin n p) : d ≠ "" := by
  obtain hd | rfl := mem_directoriesWithin h
  · exact ne_empty_of_mem_globWithin hd
  · exact hp

/-- **A path without wildcards** stands for itself. -/
theorem glob_trimmed_of_plain (hd : t.isDirectoryAt d = true)
    (hplain : Path.Wildcard.present (Path.trimmed d).toList = false) : t.glob (Path.trimmed d) = [Path.trimmed d] := by
  have hdirectory := isDirectoryAt_trimmed hd
  rw [glob, globWithin_succ, hplain, if_neg Bool.false_ne_true, if_pos]
  split
  · next hempty =>
    rw [Path.directory_of_name_empty (String.isEmpty_iff.1 hempty), Path.trimmed_trimmed]
    exact hdirectory
  · exact existsAt_of_isDirectoryAt hdirectory

variable {e : String}

theorem isHidden_star : isHidden ("*" ++ e) = false := by
  rw [isHidden, String.toList_append]
  rfl

theorem present_star : Path.Wildcard.present ("*" ++ e).toList = true := by
  rw [String.toList_append]
  rfl

theorem slash_notMem_star (he : '/' ∉ e.toList) : '/' ∉ ("*" ++ e).toList := by
  rw [String.toList_append, List.mem_append]
  exact not_or.2 ⟨by decide, he⟩

theorem mem_directoriesWithin_star (hd : t.isDirectoryAt d = true) (he : '/' ∉ e.toList) :
    x ∈ t.directoriesWithin (Path.join d ("*" ++ e)).length (Path.join d ("*" ++ e)) ∧ t.isDirectoryAt x = true ↔
      x ∈ t.glob (Path.trimmed d) ∧ t.isDirectoryAt x = true := by
  refine and_congr_left fun hx => ?_
  have hsplit := Path.split_join (d := d) (slash_notMem_star he)
  have hlength := Path.length_split_le (Path.join d ("*" ++ e))
  rw [hsplit, String.length_append] at hlength
  have hshorter : (Path.trimmed d).length < (Path.join d ("*" ++ e)).length :=
    lt_of_lt_of_le (Nat.lt_add_of_pos_right (Nat.add_pos_left Nat.one_pos _)) hlength
  have hne : Path.trimmed d ≠ Path.join d ("*" ++ e) := fun h => (Nat.ne_of_lt hshorter) (congrArg String.length h)
  unfold directoriesWithin
  rw [hsplit]
  cases hwild : Path.Wildcard.present (Path.trimmed d).toList with
  | false => rw [glob_trimmed_of_plain hd hwild, Bool.and_false, if_neg Bool.false_ne_true]
  | true =>
    rw [Bool.and_true, if_pos (bne_iff_ne.2 hne), glob, globWithin_eq hshorter (Nat.lt_succ_self _)]
    exact mem_globWithin_of_isDirectoryAt hx

/-- **What a directory and an extension stand for**: children of the directories that the path of the directory
matches. -/
theorem mem_glob_star (hd : t.isDirectoryAt d = true) (hslash : '/' ∉ e.toList)
    (hplain : Path.Wildcard.present e.toList = false) :
    x ∈ t.glob (Path.join d ("*" ++ e)) ↔ ∃ d' ∈ t.glob (Path.trimmed d), t.isDirectoryAt d' = true ∧
      ∃ name ∈ t.childrenAt d', isHidden name = false ∧ Path.endsWith name e = true ∧ Path.join d' name = x := by
  have hpresent : Path.Wildcard.present (Path.join d ("*" ++ e)).toList = true := by
    obtain ⟨c, hc, hwild⟩ := List.any_eq_true.1 (present_star (e := e))
    exact List.any_eq_true.2 ⟨c, (Path.suffix_join d _).subset hc, hwild⟩
  have hnames : ∀ d' name, name ∈ t.namesFor d' ("*" ++ e) false ↔
      name ∈ t.childrenAt d' ∧ isHidden name = false ∧ Path.endsWith name e = true := by
    intro d' name
    rw [namesFor, if_pos present_star, mem_matchingNames, isHidden_star, Path.isInstance_star hplain]
    simp
  have hdirectory := ne_empty_of_isDirectoryAt (isDirectoryAt_trimmed hd)
  rw [glob, mem_globWithin_succ, Path.split_join (slash_notMem_star hslash)]
  constructor
  · rintro (⟨hwild, -, -⟩ | ⟨-, hempty, -⟩ | ⟨-, -, d', hd', name, hname, rfl⟩)
    · rw [hpresent] at hwild
      cases hwild
    · exact absurd hempty hdirectory
    · obtain ⟨hchild, hvisible, hends⟩ := (hnames d' name).1 hname
      have hisDirectory := isDirectoryAt_of_mem_childrenAt
        (ne_empty_of_mem_directoriesWithin (by rwa [Path.split_join (slash_notMem_star hslash)]) hd') hchild
      have hmem := (mem_directoriesWithin_star hd hslash).1 ⟨hd', hisDirectory⟩
      exact ⟨d', hmem.1, hisDirectory, name, hchild, hvisible, hends, rfl⟩
  · rintro ⟨d', hd', hisDirectory, name, hchild, hvisible, hends, rfl⟩
    have hmem := (mem_directoriesWithin_star hd hslash).2 ⟨hd', hisDirectory⟩
    exact .inr (.inr ⟨hpresent, hdirectory, d', hmem.1, name, (hnames d' name).2 ⟨hchild, hvisible, hends⟩, rfl⟩)

end Patterns

section Sorted

variable {xs : List String} {x : String}

theorem pairwise_sorted (xs : List String) : (sorted xs).Pairwise (· ≤ ·) := List.pairwise_mergeSort' (· ≤ ·) xs

theorem pairwise_eraseDups : ∀ {xs : List String}, xs.Pairwise (· ≤ ·) → xs.eraseDups.Pairwise (· < ·)
  | [], _ => by simp
  | y :: ys, h => by
    obtain ⟨hfirst, hys⟩ := List.pairwise_cons.1 h
    have hrest := pairwise_eraseDups (hys.filter fun z => !z == y)
    rw [List.eraseDups_cons, List.pairwise_cons]
    refine ⟨fun z hz => ?_, hrest⟩
    obtain ⟨hmem, hne⟩ := List.mem_filter.1 (List.mem_eraseDups.1 hz)
    have hother : z ≠ y := by simpa using hne
    exact lt_of_le_of_ne (hfirst z hmem) hother.symm
termination_by xs => xs.length
decreasing_by exact Nat.lt_succ_of_le (List.length_filter_le _ _)

theorem mem_volumesIn {d : String} {extensions : List String} :
    x ∈ t.volumesIn d extensions ↔ ∃ e ∈ extensions, x ∈ t.glob (Path.join d ("*" ++ e)) := by
  rw [volumesIn, List.mem_eraseDups, sorted, List.mem_mergeSort, List.mem_flatMap]

end Sorted

theorem texts_list (xs : List String) : texts (.list (xs.map .text) : Literal α) = .ok xs := by
  have hitems : ∀ f : Literal α → Option String, (∀ s, f (.text s) = some s) → (xs.map .text).mapM f = some xs := by
    intro f hf
    rw [List.mapM_map, Tensor.list_mapM_eq_pure (f := f ∘ Literal.text) (g := id) fun x _ => hf x, List.map_id]
    rfl
  rw [texts, Literal.items?, Option.bind_some, hitems _ fun _ => rfl]

variable (t)

/-- **Patterns as they are written**: without extensions, those of volumes are meant. -/
theorem expandLiterals_texts (patterns : List String) :
    t.expandLiterals (.list (patterns.map .text)) .null = .ok (t.expandVolumes patterns volumeExtensions) := by
  rw [expandLiterals, texts_list, ok_bind, Tensor.list_mapM_eq_pure fun pattern _ => Tensor.list_mapM_eq_pure
    (g := fun path => if t.isDirectoryAt path then t.volumesIn path volumeExtensions else [path]) fun path _ => ?_]
  · rw [pure_bind, expandVolumes, List.flatMap_def, List.flatten_flatten, List.map_map]
    rfl
  · cases t.isDirectoryAt path <;> rfl

/-- **A path denotes a volume of a directory**: a child that is not hidden and ends with the extension of a volume. -/
def HasVolume (directory path : String) : Prop :=
  ∃ name ∈ t.childrenAt directory, isHidden name = false ∧ (∃ e ∈ volumeExtensions, Path.endsWith name e = true) ∧
    Path.join directory name = path

/-- **The volumes that patterns denote.**  The matches of each pattern are taken in order.  A directory is replaced by
volumes, in order and each once: those of all directories that its path matches as a pattern, which are its own if no
character of the path is a wildcard. -/
theorem expandVolumes_directories (patterns : List String) :
    t.expandLiterals (.list (patterns.map .text)) .null = .ok (t.expandVolumes patterns volumeExtensions) ∧
    (t.expandVolumes patterns volumeExtensions = patterns.flatMap fun pattern =>
      (sorted (t.glob (t.expandHome pattern))).flatMap fun path =>
        if t.isDirectoryAt path then t.volumesIn path volumeExtensions else [path]) ∧
    (∀ paths, (sorted paths).Pairwise (· ≤ ·) ∧ (sorted paths).Perm paths) ∧
    ∀ path, t.isDirectoryAt path = true →
      (t.volumesIn path volumeExtensions).Pairwise (· < ·) ∧
      (∀ x, x ∈ t.volumesIn path volumeExtensions ↔
        ∃ d ∈ t.glob (Path.trimmed path), t.isDirectoryAt d = true ∧ t.HasVolume d x) ∧
      (Path.Wildcard.present path.toList = false →
        ∀ x, x ∈ t.volumesIn path volumeExtensions ↔ t.HasVolume (Path.trimmed path) x) := by
  refine ⟨t.expandLiterals_texts patterns, rfl, fun paths => ⟨pairwise_sorted paths, List.mergeSort_perm paths _⟩,
    fun path hpath => ?_⟩
  have hmem : ∀ x, x ∈ t.volumesIn path volumeExtensions ↔
      ∃ d ∈ t.glob (Path.trimmed path), t.isDirectoryAt d = true ∧ t.HasVolume d x := by
    intro x
    have hextensions : ∀ e ∈ volumeExtensions, '/' ∉ e.toList ∧ Path.Wildcard.present e.toList = false := by
      decide
    rw [mem_volumesIn]
    constructor
    · rintro ⟨e, he, hx⟩
      obtain ⟨hslash, hplain⟩ := hextensions e he
      obtain ⟨d, hd, hdirectory, name, hchild, hvisible, hends, hjoin⟩ := (mem_glob_star hpath hslash hplain).1 hx
      exact ⟨d, hd, hdirectory, name, hchild, hvisible, ⟨e, he, hends⟩, hjoin⟩
    · rintro ⟨d, hd, hdirectory, name, hchild, hvisible, ⟨e, he, hends⟩, hjoin⟩
      obtain ⟨hslash, hplain⟩ := hextensions e he
      exact ⟨e, he, (mem_glob_star hpath hslash hplain).2 ⟨d, hd, hdirectory, name, hchild, hvisible, hends, hjoin⟩⟩
  refine ⟨pairwise_eraseDups (pairwise_sorted _), hmem, fun hplain x => ?_⟩
  rw [hmem, glob_trimmed_of_plain hpath (Path.present_trimmed hplain)]
  simp only [List.mem_singleton, exists_eq_left, isDirectoryAt_trimmed hpath, true_and]

/-- **A directory whose path matches another name** than its own. -/
theorem expandVolumes_directories_bracketed :
    let t : FileTree Float := .ofFiles [("a[1]/x.nii", .text ""), ("b/y.nii", .text "")]
    t.expandVolumes ["*"] volumeExtensions = ["b/y.nii"] ∧ t.isDirectoryAt "a[1]" = true ∧
      t.HasVolume "a[1]" "a[1]/x.nii" ∧ "a[1]/x.nii" ∉ t.volumesIn "a[1]" volumeExtensions ∧
      t.HasVolume "b" "b/y.nii" := by
  intro t
  have hbracketed : t.isDirectoryAt "a[1]" = true := by decide +kernel
  have hplain : t.isDirectoryAt "b" = true := by decide +kernel
  obtain ⟨-, hexpand, -, hdirectories⟩ := t.expandVolumes_directories ["*"]
  obtain ⟨-, hmatched, -⟩ := hdirectories "a[1]" hbracketed
  obtain ⟨-, -, hown⟩ := hdirectories "b" hplain
  have hnone : t.glob (Path.trimmed "a[1]") = [] := by decide +kernel
  have hlost : t.volumesIn "a[1]" volumeExtensions = [] := by
    refine List.eq_nil_iff_forall_not_mem.2 fun x hx => ?_
    obtain ⟨d, hd, -⟩ := (hmatched x).1 hx
    rw [hnone] at hd
    cases hd
  have hfound : sorted (t.glob (t.expandHome "*")) = ["a[1]", "b"] := by
    have hglob : t.glob (t.expandHome "*") = ["a[1]", "b"] := by decide +kernel
    rw [hglob]
    exact List.mergeSort_of_pairwise (by decide)
  have hkept : t.volumesIn "b" volumeExtensions = ["b/y.nii"] := by decide +kernel
  refine ⟨?_, hbracketed, ⟨"x.nii", by decide +kernel, by decide, ⟨".nii", by decide, by decide⟩, by decide +kernel⟩,
    ?_, (hown (by decide +kernel) _).1 ?_⟩
  · rw [hexpand, List.flatMap_cons, List.flatMap_nil, hfound]
    simp [hbracketed, hplain, hlost, hkept]
  · rw [hlost]
    exact List.not_mem_nil
  · rw [hkept]
    exact List.mem_singleton_self _

end FileTree

end Regrid
