import JavaReview.Proofs.Basic
import JavaReview.Proofs.File.Cleaning
import JavaReview.Proofs.Text.Decimal
import JavaReview.Proofs.Text.Parts
import JavaReview.Report
import Mathlib.Data.List.Nodup
import Mathlib.Data.List.TakeWhile

/-!
Report files. A report is written below the output directory, under the name of its review
(`Path.getLast?_components_join`), and each later report keeps those with other names. So reports that
are written one after the other are all there at the end exactly if their names are different
(`Report.WritesAll.leavesReports_iff`), as the names of stored reviews are
(`Report.id_eq_of_fileName_eq`).
-/

namespace JavaReview

/-! ## Names of paths -/

namespace Path

/-- The last name of a path stays the last when the path is cleaned. -/
theorem getLast?_components_clean {p name : String} {cs : List (List Char)} (hname : IsPlain name)
    (h : components p = cs ++ [name.toList]) : (components (clean p)).getLast? = some name.toList := by
  obtain ⟨init, hkept⟩ : ∃ init, kept p = init ++ [name.toList] := by
    rw [kept, h, List.foldl_append, List.foldl_cons, List.foldl_nil, cleanStep_name hname,
      List.reverse_cons]
    exact ⟨_, rfl⟩
  have hne : kept p ≠ [] := by simp [hkept]
  rw [components_clean, if_neg hne, hkept, ← List.append_assoc, List.getLast?_concat]

theorem getLast?_components_join {name : String} (hname : IsPlain name) (dir : String) :
    (components (join dir name)).getLast? = some name.toList := by
  unfold join
  rw [if_neg hname.ne_empty, if_neg hname.ne_empty]
  split
  · have hparts : components name = [] ++ [name.toList] := Text.splitOn_of_notMem hname.no_slash
    exact getLast?_components_clean hname hparts
  · exact getLast?_components_clean hname (components_append_name hname.no_slash dir)

/-- What the last component is: a dot, a slash if all components are empty, or one that is not. -/
theorem base_cases (p : String) : p = "" ∧ base p = "." ∨
    (∀ c ∈ components p, c = []) ∧ base p = "/" ∨
    ∃ c ∈ components p, c ≠ [] ∧ base p = String.ofList c := by
  unfold base
  by_cases hp : p = ""
  · exact .inl ⟨hp, if_pos hp⟩
  rw [if_neg hp]
  cases hrest : (components p).reverse.dropWhile List.isEmpty with
  | nil =>
    refine .inr (.inl ⟨fun c hc => ?_, rfl⟩)
    rw [List.dropWhile_eq_nil_iff] at hrest
    exact List.isEmpty_iff.mp (hrest c (List.mem_reverse.mpr hc))
  | cons c rest =>
    have hc : c ∈ (components p).reverse := (List.dropWhile_sublist _).subset (hrest ▸ List.mem_cons_self)
    refine .inr (.inr ⟨c, List.mem_reverse.mp hc, ?_, rfl⟩)
    rintro rfl
    exact absurd (List.head?_dropWhile_not List.isEmpty (components p).reverse) (by simp [hrest])

/-- The last component of a path has no slash, unless there are slashes alone. -/
theorem slash_notMem_base {p : String} {c : List Char} (hc : c ∈ components p) (hne : c ≠ []) :
    '/' ∉ (base p).toList := by
  obtain ⟨-, hbase⟩ | ⟨hempty, -⟩ | ⟨d, hd, -, hbase⟩ := base_cases p
  · rw [hbase]
    decide
  · exact absurd (hempty c hc) hne
  · rw [hbase, String.toList_ofList]
    exact Text.notMem_of_mem_splitOn hd

theorem base_ne_empty (p : String) : base p ≠ "" := by
  obtain ⟨-, hbase⟩ | ⟨-, hbase⟩ | ⟨c, -, hne, hbase⟩ := base_cases p
  · rw [hbase]
    decide
  · rw [hbase]
    decide
  · rw [hbase]
    exact fun hempty => hne (String.ofList_eq_empty_iff.mp hempty)

end Path

/-! ## Names of reports -/

namespace Report

/-- The parts of the name of a report. -/
theorem exists_fileName (format : Format) (r : Review) :
    ∃ stem, (fileName format r).toList = "review-".toList ++ stem ++ format.extension.toList ∧
      (0 < r.id ∧ stem = decimalChars r.id ∨
        ¬ 0 < r.id ∧ (stem = "inline".toList ∨ stem <+: (Path.base r.filename).toList)) := by
  by_cases hid : 0 < r.id
  · refine ⟨decimalChars r.id, ?_, .inl ⟨hid, rfl⟩⟩
    simp only [fileName, baseName, if_pos hid, String.toList_append, decimal, String.toList_ofList]
  · simp only [fileName, baseName, if_neg hid, String.toList_append]
    refine ⟨_, rfl, .inr ⟨hid, ?_⟩⟩
    split
    · exact .inl rfl
    · rw [String.toList_ofList]
      exact .inr (Text.dropEnd_isPrefix _ _)

theorem slash_notMem_fileName {format : Format} {r : Review}
    (h : 0 < r.id ∨ '/' ∉ (Path.base r.filename).toList) : '/' ∉ (fileName format r).toList := by
  obtain ⟨stem, hname, hstem⟩ := exists_fileName format r
  have hextension : '/' ∉ format.extension.toList := by cases format <;> decide
  have hslash : '/' ∉ stem := by
    rcases hstem with ⟨-, rfl⟩ | ⟨hid, rfl | hbase⟩
    · exact notMem_decimalChars (by decide) (by decide) r.id
    · decide
    · exact fun hmem => (h.resolve_left hid) (hbase.subset hmem)
  rw [hname]
  simp [hslash, hextension]

/-- The name of a report can be given to a file, unless it has a slash. -/
theorem isPlain_fileName {format : Format} {r : Review} (h : '/' ∉ (fileName format r).toList) :
    Path.IsPlain (fileName format r) := by
  obtain ⟨stem, hname, -⟩ := exists_fileName format r
  refine ⟨fun h => ?_, fun h => ?_, fun h => ?_, h⟩ <;> simp [h] at hname

/-- Stored reviews with different ids have reports with different names. -/
theorem id_eq_of_fileName_eq {format : Format} {r r' : Review} (hid : 0 < r.id) (hid' : 0 < r'.id)
    (h : fileName format r = fileName format r') : r.id = r'.id := by
  obtain ⟨stem, hname, hstem⟩ := exists_fileName format r
  obtain ⟨stem', hname', hstem'⟩ := exists_fileName format r'
  obtain ⟨-, rfl⟩ := hstem.resolve_right fun hunsaved => hunsaved.1 hid
  obtain ⟨-, rfl⟩ := hstem'.resolve_right fun hunsaved => hunsaved.1 hid'
  rw [h, hname', List.append_cancel_right_eq, List.append_cancel_left_eq] at hname
  exact decimalChars_inj hname.symm

/-! ## Reports in a tree -/

/-- Each review has a report of its own below the directory: a file at another place than those of the
other reviews, which holds its report. -/
def LeavesReports (tree : FileTree) (dir : String) (format : Format) (rs : List Review) : Prop :=
  ∃ places : List (List String), places.Nodup ∧ List.Forall₂ (fun r place =>
    tree.locate (Path.join dir (fileName format r)) = .ok (place, .file (render format r))) rs places

theorem eq_render_of_encode {format : Format} {r : Review} {text : String}
    (h : encode format r = .ok text) : text = render format r := by
  unfold encode at h
  split at h
  · cases h
  · exact (Except.ok.inj h).symm

/-- How a file is written into a directory: the directory is made, and the file written there with its
text. -/
theorem writeInto_eq_ok_iff {tree written : FileTree} {dir name path : String}
    {text : Except Timestamp.JsonFault String} :
    writeInto tree dir name text = (written, .ok path) ↔ path = Path.join dir name ∧
      ∃ made place content, tree.makeDirs dir = (made, none) ∧ text = .ok content ∧
        made.write path content = .ok (written, place) := by
  unfold writeInto
  obtain ⟨made, _ | e⟩ := tree.makeDirs dir
  · cases text with
    | error fault =>
      cases hwrite : made.write (Path.join dir name) "" <;>
        simp [Except.toOption, Except.map, Except.mapError, hwrite]
    | ok content =>
      cases hwrite : made.write (Path.join dir name) content with
      | error e =>
        simp only [Except.toOption, Option.getD_some, hwrite, Prod.mk.injEq, reduceCtorEq, and_false, false_iff]
        grind
      | ok result =>
        simp only [Except.toOption, Option.getD_some, hwrite, Except.map, Except.mapError]
        grind
  · simp

theorem writeInto_eq_encoding {tree written : FileTree} {dir name : String} {fault : Timestamp.JsonFault}
    {text : Except Timestamp.JsonFault String}
    (h : writeInto tree dir name text = (written, .error (.encoding fault))) : ∃ made place,
      tree.makeDirs dir = (made, none) ∧ made.write (Path.join dir name) "" = .ok (written, place) := by
  unfold writeInto at h
  split at h
  · cases h
  · next made hmade =>
    cases text with
    | ok content =>
      simp only [Except.toOption, Except.map, Except.mapError, Option.getD_some] at h
      split at h <;> cases h
    | error fault =>
      simp only [Except.toOption, Option.getD_none] at h
      split at h
      · cases h
      · next hwrite =>
        cases h
        exact ⟨made, _, hmade, hwrite⟩

theorem write_eq_ok {tree written : FileTree} {dir path : String} {format : Format} {r : Review}
    (h : write tree dir format r = (written, .ok path)) : ∃ made place,
      tree.makeDirs dir = (made, none) ∧
      made.write (Path.join dir (fileName format r)) (render format r) = .ok (written, place) := by
  obtain ⟨rfl, made, place, content, hmade, hcontent, hwritten⟩ := writeInto_eq_ok_iff.mp h
  obtain rfl := eq_render_of_encode hcontent
  exact ⟨made, place, hmade, hwritten⟩

/-- Reports that are written one after the other, and the places of their files. -/
inductive WritesAll (dir : String) (format : Format) :
    FileTree → List Review → List (List String) → FileTree → Prop
  | nil (tree : FileTree) : WritesAll dir format tree [] [] tree
  | cons {tree made written last : FileTree} {r : Review} {rs : List Review} {place : List String}
      {places : List (List String)} : tree.makeDirs dir = (made, none) →
      made.write (Path.join dir (fileName format r)) (render format r) = .ok (written, place) →
      WritesAll dir format written rs places last →
      WritesAll dir format tree (r :: rs) (place :: places) last

variable {dir : String} {format : Format} {tree last : FileTree} {rs : List Review}
  {places : List (List String)}

theorem WritesAll.keeps (h : WritesAll dir format tree rs places last) : tree.Keeps places last := by
  induction h with
  | nil tree => exact .refl tree
  | cons hmade hwritten _ ih =>
    exact (FileTree.keeps_makeDirs hmade).trans ((FileTree.keeps_write hwritten).1.trans ih)

/-- A file is written under its own name, which is one that an entry can have. -/
theorem isName_of_write {written : FileTree} {name text : String} {place : List String}
    (hname : Path.IsPlain name) (h : tree.write (Path.join dir name) text = .ok (written, place)) :
    FileTree.IsName name ∧ place.getLast? = some name := by
  obtain ⟨init, last, above, -, hcs, -, hreaches, rfl, -⟩ := FileTree.write_eq_ok h
  obtain ⟨hnull, -, -, hparts⟩ := FileTree.checkedComponents_eq_ok_iff.mp hcs
  have hend := Path.getLast?_components_join hname dir
  have hlast := congrArg List.getLast? hparts.symm
  rw [List.getLast?_concat, List.getLast?_map, hend, Option.map_some, String.ofList_toList] at hlast
  obtain rfl := Option.some.inj hlast
  refine ⟨⟨hname, fun hmem => hnull ?_, hreaches.short⟩, List.getLast?_concat⟩
  exact Text.mem_of_mem_splitOn (List.mem_of_getLast? hend) hmem

/-- A report is at a place with its name. -/
theorem WritesAll.getLast?_places (h : WritesAll dir format tree rs places last)
    (hslash : ∀ r ∈ rs, '/' ∉ (fileName format r).toList) :
    places.map List.getLast? = rs.map fun r => some (fileName format r) := by
  induction h with
  | nil tree => rfl
  | cons _ hwritten _ ih =>
    obtain ⟨hr, hrs⟩ := List.forall_mem_cons.mp hslash
    rw [List.map_cons, List.map_cons, ih hrs, (isName_of_write (isPlain_fileName hr) hwritten).2]

theorem WritesAll.located (h : WritesAll dir format tree rs places last) (hplaces : places.Nodup) :
    List.Forall₂ (fun r place =>
      last.locate (Path.join dir (fileName format r)) = .ok (place, .file (render format r))) rs places := by
  induction h with
  | nil tree => exact .nil
  | cons hmade hwritten hrest ih =>
    obtain ⟨hplace, hrests⟩ := List.nodup_cons.mp hplaces
    have hfile := hrest.keeps.files _ _ hplace (FileTree.keeps_write hwritten).2
    exact .cons (FileTree.locate_of_write hwritten hrest.keeps hfile) (ih hrests)

theorem LeavesReports.nodup (h : LeavesReports tree dir format rs) : (rs.map (fileName format)).Nodup := by
  obtain ⟨places, hplaces, hlocated⟩ := h
  induction hlocated with
  | nil => exact List.nodup_nil
  | @cons r place rs places hlocate hrest ih =>
    obtain ⟨hplace, hrests⟩ := List.nodup_cons.mp hplaces
    rw [List.map_cons, List.nodup_cons]
    refine ⟨fun hmem => hplace ?_, ih hrests⟩
    -- a review with the same name has its report at the same place
    obtain ⟨r', hr', hname⟩ := List.mem_map.mp hmem
    obtain ⟨place', hplace', hlocate'⟩ := exists_mem_of_forall₂ hrest hr'
    rw [hname, hlocate] at hlocate'
    rw [(Prod.mk.inj (Except.ok.inj hlocate')).1]
    exact hplace'

/-- All reports are there at the end exactly if their names are different. -/
theorem WritesAll.leavesReports_iff (h : WritesAll dir format tree rs places last)
    (hslash : ∀ r ∈ rs, '/' ∉ (fileName format r).toList) :
    LeavesReports last dir format rs ↔ (rs.map (fileName format)).Nodup := by
  refine ⟨LeavesReports.nodup, fun hnodup => ?_⟩
  have hplaces : places.Nodup := by
    refine List.Nodup.of_map List.getLast? ?_
    rw [h.getLast?_places hslash]
    change (rs.map (some ∘ fileName format)).Nodup
    rw [← List.map_map]
    exact hnodup.map fun _ _ => Option.some.inj
  exact ⟨places, hplaces, h.located hplaces⟩

end Report

end JavaReview
