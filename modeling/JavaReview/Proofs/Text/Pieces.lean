import JavaReview.Text.Search

/-!
The pieces of a text between separators. A separator splits the pieces of what is before it from those of
what is after it (`Text.splitOn_append_sep`). Pieces without separators are found again in the text that
joins them (`Text.splitOn_joinWith`), and the pieces of a text join to it (`Text.joinWith_splitOn`).
-/

namespace JavaReview.Text

theorem notMem_of_mem_splitOn {sep : Char} {s p : List Char} (h : p ∈ splitOn sep s) : sep ∉ p := by
  fun_induction splitOn sep s generalizing p with
  | case1 => simp_all
  | case2 r ih =>
    rcases List.mem_cons.mp h with rfl | h
    · exact List.not_mem_nil
    · exact ih h
  | case3 c r hc hr => exact absurd hr (splitOn_ne_nil sep r)
  | case4 c r hc q qs hr ih =>
    rcases List.mem_cons.mp h with rfl | h
    · rw [List.mem_cons, not_or]
      exact ⟨Ne.symm hc, ih (hr ▸ List.mem_cons_self)⟩
    · exact ih (hr ▸ List.mem_cons_of_mem q h)

theorem mem_of_mem_splitOn {sep c : Char} {s p : List Char} (h : p ∈ splitOn sep s) (hc : c ∈ p) :
    c ∈ s := by
  fun_induction splitOn sep s generalizing p with
  | case1 => simp_all
  | case2 r ih =>
    rcases List.mem_cons.mp h with rfl | h
    · exact absurd hc List.not_mem_nil
    · exact List.mem_cons_of_mem _ (ih h hc)
  | case3 x r hx hr => exact absurd hr (splitOn_ne_nil sep r)
  | case4 x r hx q qs hr ih =>
    rcases List.mem_cons.mp h with rfl | h
    · rcases List.mem_cons.mp hc with rfl | hc
      · exact List.mem_cons_self
      · exact List.mem_cons_of_mem _ (ih (hr ▸ List.mem_cons_self) hc)
    · exact List.mem_cons_of_mem _ (ih (hr ▸ List.mem_cons_of_mem q h) hc)

theorem exists_mem_splitOn {sep c : Char} {s : List Char} (h : c ∈ s) (hne : c ≠ sep) :
    ∃ p ∈ splitOn sep s, c ∈ p := by
  fun_induction splitOn sep s with
  | case1 => cases h
  | case2 r ih =>
    obtain ⟨p, hp, hc⟩ := ih ((List.mem_cons.mp h).resolve_left hne)
    exact ⟨p, List.mem_cons_of_mem _ hp, hc⟩
  | case3 x r hx hr => exact absurd hr (splitOn_ne_nil sep r)
  | case4 x r hx q qs hr ih =>
    rcases List.mem_cons.mp h with rfl | h
    · exact ⟨c :: q, List.mem_cons_self, List.mem_cons_self⟩
    · obtain ⟨p, hp, hc⟩ := ih h
      rcases List.mem_cons.mp (hr ▸ hp) with rfl | hp
      · exact ⟨x :: p, List.mem_cons_self, List.mem_cons_of_mem x hc⟩
      · exact ⟨p, List.mem_cons_of_mem _ hp, hc⟩

theorem splitOn_append_sep (sep : Char) (s r : List Char) :
    splitOn sep (s ++ sep :: r) = splitOn sep s ++ splitOn sep r := by
  fun_induction splitOn sep s with
  | case1 => simp [splitOn]
  | case2 s ih => simp [splitOn, ih]
  | case3 c s hc hs => exact absurd hs (splitOn_ne_nil sep s)
  | case4 c s hc p ps hs ih => simp [splitOn, hc, ih, hs]

theorem splitOn_concat_sep (sep : Char) (s : List Char) :
    splitOn sep (s ++ [sep]) = splitOn sep s ++ [[]] :=
  splitOn_append_sep sep s []

theorem splitOn_append_replicate_sep (sep : Char) (s : List Char) (n : Nat) :
    splitOn sep (s ++ List.replicate n sep) = splitOn sep s ++ List.replicate n [] := by
  induction n with
  | zero => simp
  | succ n ih =>
    rw [List.replicate_succ', List.replicate_succ', ← List.append_assoc, splitOn_concat_sep, ih,
      List.append_assoc]

/-- The last piece of a text that does not end in a separator is not empty. -/
theorem splitOn_concat_of_ne {sep c : Char} (hc : c ≠ sep) (s : List Char) :
    ∃ ps p, splitOn sep (s ++ [c]) = ps ++ [p ++ [c]] := by
  fun_induction splitOn sep s with
  | case1 => exact ⟨[], [], by simp [splitOn, hc]⟩
  | case2 r ih =>
    obtain ⟨ps, p, h⟩ := ih
    exact ⟨[] :: ps, p, by simp [splitOn, h]⟩
  | case3 x r hx hr => exact absurd hr (splitOn_ne_nil sep r)
  | case4 x r hx q qs hr ih =>
    obtain ⟨ps, p, h⟩ := ih
    cases ps with
    | nil => exact ⟨[], x :: p, by simp [splitOn, hx, h]⟩
    | cons y ps => exact ⟨(x :: y) :: ps, p, by simp [splitOn, hx, h]⟩

theorem splitOn_of_notMem {sep : Char} {s : List Char} (h : sep ∉ s) : splitOn sep s = [s] := by
  induction s with
  | nil => rfl
  | cons c r ih =>
    rw [List.mem_cons, not_or] at h
    simp only [splitOn, if_neg (Ne.symm h.1), ih h.2]

theorem splitOn_joinWith {sep : Char} {pieces : List (List Char)} (hne : pieces ≠ [])
    (h : ∀ p ∈ pieces, sep ∉ p) : splitOn sep (joinWith [sep] pieces) = pieces := by
  fun_induction joinWith [sep] pieces with
  | case1 => exact absurd rfl hne
  | case2 p => exact splitOn_of_notMem (h p List.mem_cons_self)
  | case3 p q ps ih =>
    rw [List.append_assoc, List.singleton_append, splitOn_append_sep,
      splitOn_of_notMem (h p List.mem_cons_self), List.singleton_append, ih (by simp) fun x hx => h x (List.mem_cons_of_mem p hx)]

/-- The pieces of a text joined again are the text. -/
theorem joinWith_splitOn (sep : Char) (s : List Char) : joinWith [sep] (splitOn sep s) = s := by
  fun_induction splitOn sep s with
  | case1 => rfl
  | case2 r ih =>
    obtain ⟨p, ps, hr⟩ := List.exists_cons_of_ne_nil (splitOn_ne_nil sep r)
    rw [hr] at ih ⊢
    rw [joinWith, ih]
    rfl
  | case3 c r hc hr => exact absurd hr (splitOn_ne_nil sep r)
  | case4 c r hc p ps hr ih =>
    rw [hr] at ih
    cases ps with
    | nil => exact congrArg (c :: ·) ih
    | cons q ps => exact congrArg (c :: ·) ih

/-- Splitting loses the separators and nothing else. -/
theorem flatten_splitOn (sep : Char) (s : List Char) :
    (splitOn sep s).flatten = s.filter fun c => c ≠ sep := by
  fun_induction splitOn sep s with
  | case1 => rfl
  | case2 r ih => simpa using ih
  | case3 c r hc hr => exact absurd hr (splitOn_ne_nil sep r)
  | case4 c r hc p ps hr ih =>
    rw [hr] at ih
    simpa [hc] using ih

theorem mem_joinWith {sep : List Char} {pieces : List (List Char)} {c : Char}
    (h : c ∈ joinWith sep pieces) : c ∈ sep ∨ ∃ p ∈ pieces, c ∈ p := by
  fun_induction joinWith sep pieces with
  | case1 => cases h
  | case2 p => exact .inr ⟨p, List.mem_cons_self, h⟩
  | case3 p q ps ih =>
    rcases List.mem_append.mp h with h | h
    · rcases List.mem_append.mp h with h | h
      · exact .inr ⟨p, List.mem_cons_self, h⟩
      · exact .inl h
    · exact (ih h).imp_right fun ⟨x, hx, hc⟩ => ⟨x, List.mem_cons_of_mem p hx, hc⟩

end JavaReview.Text
