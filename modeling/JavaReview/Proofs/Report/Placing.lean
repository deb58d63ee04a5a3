import JavaReview.Proofs.File.Cleaning
import JavaReview.Proofs.Report.Files
import JavaReview.Proofs.Text.Parts

/-!
Where a report is written. A directory that was made is found at its path (`FileTree.locate_of_makeDirs`),
and a file that is written into it under a plain name is its child (`Report.located_of_writeInto`). The
name of a report is plain unless its review has no id and goes by a file name of slashes alone, of which
one slash is kept (`Report.placedInside_iff`).
-/

namespace JavaReview

namespace FileTree

open FileNode (child? get?_put_concat)

variable {t t' : FileTree} {u : FileNode} {es : List (String × FileNode)} {above : Above}
  {path name text : String} {place : List String}

/-! ## Directories -/

theorem exists_eq_dropSlashes (path : String) :
    ∃ k, path.toList = (dropSlashes path).toList ++ List.replicate k '/' := by
  refine ⟨(path.toList.reverse.takeWhile (· == '/')).length, ?_⟩
  have hslashes : path.toList.reverse.takeWhile (· == '/') =
      List.replicate (path.toList.reverse.takeWhile (· == '/')).length '/' := by
    refine List.eq_replicate_of_mem fun c hc => ?_
    have hc := List.mem_takeWhile_imp hc
    exact beq_iff_eq.mp hc
  rw [dropSlashes, String.toList_ofList, ← List.reverse_inj, List.reverse_append, List.reverse_reverse,
    List.reverse_replicate, ← hslashes, List.takeWhile_append_dropWhile]

/-- Slashes at the end of a path to a directory lead nowhere else. -/
theorem locate_of_dropSlashes {cs ds : List String} (hcs : checkedComponents path = .ok cs)
    (hds : checkedComponents (dropSlashes path) = .ok ds)
    (h : t.followFrom (dropSlashes path) ds = .ok (above, .dir es)) :
    t.locate path = .ok (namesOf above, .dir es) := by
  obtain ⟨k, hk⟩ := exists_eq_dropSlashes path
  obtain ⟨-, -, -, hparts⟩ := checkedComponents_eq_ok_iff.mp hcs
  obtain ⟨-, hne, -, rfl⟩ := checkedComponents_eq_ok_iff.mp hds
  have hslashes : path = dropSlashes path ++ String.ofList (List.replicate k '/') := by
    rw [← String.toList_inj, String.toList_append, String.toList_ofList]
    exact hk
  have habsolute : Path.isAbsolute path = Path.isAbsolute (dropSlashes path) := by
    conv_lhs => rw [hslashes]
    exact Path.isAbsolute_append hne _
  refine locate_eq_ok_iff.mpr ⟨cs, above, hcs, ?_, rfl⟩
  rw [← hparts, Path.components, hk, Text.splitOn_append_replicate_sep, ← Path.components, List.map_append,
    List.map_replicate, followFrom_congr habsolute, followFrom_append h]
  exact follow_replicate_empty t.rights above es k

theorem locate_of_makeDir (h : t.makeDir path = .ok t') :
    ∃ place es, t'.locate path = .ok (place, .dir es) := by
  have hkeeps := keeps_makeDir h
  obtain ⟨cs, init, name, above, hcs, hds, ⟨es, hfollow, rfl⟩ | ⟨es, hfollow, hreaches, -, rfl⟩⟩ :=
    makeDir_eq_ok h
  · exact ⟨_, es, locate_of_dropSlashes hcs hds hfollow⟩
  · have hnode := get?_put_concat (leads_of_followFrom hfollow).get?_namesOf name .empty
    obtain ⟨above', hfound, -⟩ := hkeeps.followFrom_concat hfollow hreaches hnode
    exact ⟨_, [], locate_of_dropSlashes hcs hds hfound⟩

theorem locate_of_makeDirsFrom {paths : List String} (h : t.makeDirsFrom (path :: paths) = (t', none)) :
    ∃ place es, t'.locate path = .ok (place, .dir es) := by
  rw [makeDirsFrom] at h
  split at h
  · next place es hlocate =>
    cases h
    exact ⟨place, es, hlocate⟩
  · cases h
  · split at h
    · cases h
    · split at h
      · next hmade =>
        cases h
        exact locate_of_makeDir hmade
      · cases h

/-- A directory that was made is found at its path. -/
theorem locate_of_makeDirs (h : t.makeDirs path = (t', none)) :
    ∃ place es, t'.locate path = .ok (place, .dir es) := by
  rw [makeDirs, pathsUp, String.ofList_toList] at h
  exact locate_of_makeDirsFrom h

theorem Keeps.locate {written : List (List String)} (hkeeps : Keeps written t t')
    (h : t.locate path = .ok (place, .dir es)) : ∃ es', t'.locate path = .ok (place, .dir es') := by
  obtain ⟨cs, above, hcs, hfollow, rfl⟩ := locate_eq_ok_iff.mp h
  obtain ⟨below, es', hbelow, hnames⟩ := hkeeps.followFrom hfollow
  exact ⟨es', locate_eq_ok_iff.mpr ⟨cs, below, hcs, hbelow, hnames⟩⟩

/-- The path of a name in a directory leads to the directory and the name. -/
theorem exists_parentOf_join (hname : IsName name) (h : t.locate path = .ok (place, .dir es))
    (hsize : byteSize (Path.join path name) ≤ maxPathBytes) :
    ∃ above, t.parentOf (Path.join path name) = .ok (above, .dir es, name) ∧ namesOf above = place := by
  obtain ⟨cs, above, hcs, hfollow, hplace⟩ := locate_eq_ok_iff.mp h
  obtain ⟨hnull, hne, -, rfl⟩ := checkedComponents_eq_ok_iff.mp hcs
  obtain ⟨mid, fs, hstart, -⟩ := exists_start_of_followFrom hfollow
  have hplain : ∀ n ∈ [name], Path.IsPlain n := by simpa using hname.toIsPlain
  have hjoin : Path.join path name = Path.clean (Path.below path [name]) :=
    Path.join_eq hne hname.toIsPlain
  have habsolute : Path.isAbsolute (Path.join path name) = Path.isAbsolute path := by
    rw [hjoin, Path.isAbsolute_clean, Path.isAbsolute_below hne]
  have hparts : Path.components (Path.join path name) =
      ((if Path.isAbsolute path then [[]] else []) ++ Path.kept path) ++ [name.toList] := by
    rw [hjoin, Path.components_clean_below hne hplain (by simp), List.append_assoc]
    rfl
  have hnull' : Char.ofNat 0 ∉ (Path.join path name).toList := by
    rw [hjoin]
    exact null_notMem_clean (null_notMem_below hnull (by simpa using hname))
  have hcs' := checkedComponents_eq_ok_iff.mpr
    ⟨hnull', hjoin ▸ Path.clean_ne_empty _, hsize, rfl⟩
  rw [hparts, List.map_append] at hcs'
  refine ⟨above, ?_, hplace⟩
  simp only [parentOf, hcs', bind, Except.bind, List.map_singleton, List.reverse_append,
    List.reverse_singleton, List.singleton_append, List.reverse_reverse, String.ofList_toList]
  rw [followFrom_congr habsolute, followFrom_leading hstart, followFrom_kept hfollow]
  rfl

/-- A file can be written in a directory that can be passed, under any name that no directory has and no
file that cannot be read. -/
theorem exists_write_join (hname : IsName name) (h : t.locate path = .ok (place, .dir es))
    (hsize : byteSize (Path.join path name) ≤ maxPathBytes) (hpass : (t.rights place).pass = true)
    (hfree : ∀ fs, child? name es ≠ some (.dir fs))
    (hread : ∀ old, child? name es = some (.file old) → (t.rights (place ++ [name])).read = true)
    (text : String) : ∃ result, t.write (Path.join path name) text = .ok result := by
  obtain ⟨above, hparent, rfl⟩ := exists_parentOf_join hname h hsize
  simp only [write, hparent, (hname.reaches hpass).entry_eq]
  cases hchild : child? name es with
  | none => exact ⟨_, rfl⟩
  | some node =>
    cases node with
    | dir fs => exact absurd hchild (hfree fs)
    | file old =>
      have hreadable : (t.rights (placeBelow above name)).read = true := hread old hchild
      simp only [hreadable, if_true]
      exact ⟨_, rfl⟩

end FileTree

namespace Path

theorem ext_of_notMem {p : String} (h : '.' ∉ p.toList) : ext p = "" := by
  have hname : '.' ∉ (Text.afterLast? '/' p.toList).getD p.toList := by
    cases hafter : Text.afterLast? '/' p.toList with
    | none => exact h
    | some name =>
      obtain ⟨hsuffix, -⟩ := Text.afterLast?_eq_some_iff.mp hafter
      exact fun hdot => h (hsuffix.subset (List.mem_cons_of_mem '/' hdot))
  simp only [ext, Text.afterLast?_of_notMem hname]

theorem base_of_slashes {p : String} (hne : p ≠ "") (h : ∀ c ∈ p.toList, c = '/') : base p = "/" := by
  obtain ⟨hempty, -⟩ | ⟨-, hbase⟩ | ⟨c, hc, hnil, -⟩ := base_cases p
  · exact absurd hempty hne
  · exact hbase
  · obtain ⟨x, hx⟩ := List.exists_mem_of_ne_nil c hnil
    have hslash : x = '/' := h x (Text.mem_of_mem_splitOn hc hx)
    exact absurd (hslash ▸ hx) (Text.notMem_of_mem_splitOn hc)

end Path

/-! ## Reports -/

namespace Report

/-- Whether a review goes by a file name of slashes alone. -/
def SlashesAlone (r : Review) : Prop :=
  r.id ≤ 0 ∧ r.filename ≠ "" ∧ ∀ c ∈ r.filename.toList, c = '/'

variable {tree written : FileTree} {dir name text path : String} {format : Format} {r : Review}

theorem fileName_of_slashesAlone (h : SlashesAlone r) :
    fileName format r = "review-/" ++ format.extension := by
  obtain ⟨hid, hne, hslashes⟩ := h
  have hdot : '.' ∉ r.filename.toList := fun hmem => absurd (hslashes '.' hmem) (by decide)
  rw [fileName, baseName, if_neg (Int.not_lt.mpr hid)]
  simp only [Path.ext_of_notMem hdot, Path.base_of_slashes hne hslashes]
  congr 1

/-- The name of a report has a slash exactly if that of its review has nothing else. -/
theorem slash_mem_fileName_iff : '/' ∈ (fileName format r).toList ↔ SlashesAlone r := by
  refine ⟨fun h => ?_, fun h => ?_⟩
  · by_contra hnot
    refine slash_notMem_fileName ?_ h
    by_cases hid : 0 < r.id
    · exact .inl hid
    right
    by_cases hempty : r.filename = ""
    · rw [hempty]
      decide
    obtain ⟨c, hc, hne⟩ : ∃ c ∈ r.filename.toList, c ≠ '/' := by
      by_contra hall
      push Not at hall
      exact hnot ⟨Int.not_lt.mp hid, hempty, hall⟩
    obtain ⟨component, hcomponent, hmem⟩ := Text.exists_mem_splitOn hc hne
    exact Path.slash_notMem_base hcomponent (List.ne_nil_of_mem hmem)
  · rw [fileName_of_slashesAlone h, String.toList_append]
    exact List.mem_append_left _ (by decide)

/-- A file that is written into a directory under a plain name is found there. -/
theorem located_of_write {made : FileTree} {place' : List String} (hname : Path.IsPlain name)
    (hmade : tree.makeDirs dir = (made, none))
    (hwritten : made.write (Path.join dir name) text = .ok (written, place')) :
    ∃ place es, written.locate dir = .ok (place, .dir es) ∧
      written.locate (Path.join dir name) = .ok (place ++ [name], .file text) := by
  obtain ⟨place, es, hdir⟩ := FileTree.locate_of_makeDirs hmade
  have hkeeps := FileTree.keeps_write hwritten
  obtain ⟨es', hdir'⟩ := hkeeps.1.locate hdir
  have hfile := FileTree.locate_of_write hwritten (.refl written) hkeeps.2
  obtain ⟨-, rfl, -⟩ := (FileTree.locate_join_iff hdir' (isName_of_write hname hwritten).1).mp hfile
  exact ⟨place, es', hdir', hfile⟩

/-- A report that is placed in the output directory: its name has no slash, and it is written as a child of
the directory, or left empty there if the review cannot be encoded. It is written whenever the directory can
be made and can hold a file of that name, and the review can be encoded. -/
structure PlacedInside (format : Format) (r : Review) : Prop where
  no_slash : '/' ∉ (fileName format r).toList
  located : ∀ tree dir written path, write tree dir format r = (written, .ok path) →
    ∃ place es, written.locate dir = .ok (place, .dir es) ∧
      written.locate path = .ok (place ++ [fileName format r], .file (render format r))
  left_empty : ∀ tree dir written fault, write tree dir format r = (written, .error (.encoding fault)) →
    ∃ place es, written.locate dir = .ok (place, .dir es) ∧
      written.locate (Path.join dir (fileName format r)) = .ok (place ++ [fileName format r], .file "")
  written : ∀ tree dir made place es text, FileTree.makeDirs tree dir = (made, none) →
    made.locate dir = .ok (place, .dir es) → (made.rights place).pass = true →
    Char.ofNat 0 ∉ (fileName format r).toList →
    byteSize (fileName format r) ≤ FileTree.maxNameBytes →
    byteSize (Path.join dir (fileName format r)) ≤ FileTree.maxPathBytes →
    (∀ fs, FileNode.child? (fileName format r) es ≠ some (.dir fs)) →
    (∀ old, FileNode.child? (fileName format r) es = some (.file old) →
      (made.rights (place ++ [fileName format r])).read = true) →
    encode format r = .ok text →
    ∃ written, write tree dir format r = (written, .ok (Path.join dir (fileName format r)))

/-- A report is placed in the output directory unless its review goes by slashes alone. -/
theorem placedInside_iff (format : Format) (r : Review) : PlacedInside format r ↔ ¬ SlashesAlone r := by
  refine ⟨fun h hslashes => h.no_slash (slash_mem_fileName_iff.mpr hslashes), fun h => ?_⟩
  have hplain : Path.IsPlain (fileName format r) :=
    isPlain_fileName fun hslash => h (slash_mem_fileName_iff.mp hslash)
  refine ⟨hplain.no_slash, fun tree dir written path hwrite => ?_, fun tree dir written fault hwrite => ?_, ?_⟩
  · have hpath := (writeInto_eq_ok_iff.mp hwrite).1
    obtain ⟨made, place, hmade, hwritten⟩ := write_eq_ok hwrite
    rw [hpath]
    exact located_of_write hplain hmade hwritten
  · obtain ⟨made, place, hmade, hwritten⟩ := writeInto_eq_encoding hwrite
    exact located_of_write hplain hmade hwritten
  · intro tree dir made place es text hmade hdir hpass hnull hshort hsize hfree hread htext
    obtain ⟨⟨written, place'⟩, hwritten⟩ :=
      FileTree.exists_write_join ⟨hplain, hnull, hshort⟩ hdir hsize hpass hfree hread text
    exact ⟨written, writeInto_eq_ok_iff.mpr ⟨rfl, made, place', text, hmade, htext, hwritten⟩⟩

/-- From slashes alone one is kept, and the report would have to go into a directory that nobody makes. -/
theorem not_placedInside_slash : ¬ PlacedInside .json { filename := "/" } ∧
    fileName .json { filename := "/" } = "review-/.json" ∧
    ∃ made e, write .empty "out/reports" .json { filename := "/" } = (made, .error e) ∧
      e.message = "open out/reports/review-/.json: no such file or directory" :=
  ⟨fun h => h.no_slash (by decide), by decide, _, .file ⟨"open", "out/reports/review-/.json", .absent⟩, rfl,
    by decide⟩

end Report

end JavaReview
