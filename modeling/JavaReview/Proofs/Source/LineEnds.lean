import JavaReview.Proofs.Text.Pieces
import JavaReview.Source.Lines
import Mathlib.Data.List.DropRight
import Mathlib.Data.List.Infix

/-!
Line ends. A text can be written with a carriage return before every line feed
(`Source.withReturns`). Empty pieces at the end of a text are dropped before the carriage returns are, so
the empty lines at the end of such a text are lines, and only there do the lines of the two texts differ
(`Source.lines_withReturns`). Nothing but line ends is lost: without carriage returns the lines join to the
text without the line feeds at its end (`Source.joinWith_lines`), and with them every other character is on
the lines as often as in the text (`Source.count_flatten_lines`).
-/

namespace JavaReview

namespace Text

/-! ## Ends of pieces -/

theorem dropEnd_concat (x : Char) (s : List Char) : dropEnd [x] (s ++ [x]) = s := by
  rw [dropEnd, if_pos (by simp)]
  simp

theorem dropEnd_of_notMem {x : Char} {s : List Char} (h : x ∉ s) : dropEnd [x] s = s := by
  rw [dropEnd, if_neg]
  rw [List.isSuffixOf_iff_suffix]
  intro hsuffix
  exact h (hsuffix.subset (List.mem_singleton_self x))

theorem count_dropEnd {c x : Char} (hc : c ≠ x) (s : List Char) : (dropEnd [x] s).count c = s.count c := by
  by_cases hend : [x] <:+ s
  · obtain ⟨t, rfl⟩ := hend
    rw [dropEnd_concat, List.count_append, List.count_singleton, if_neg (by simpa using Ne.symm hc),
      Nat.add_zero]
  · rw [dropEnd, if_neg (fun h => hend (List.isSuffixOf_iff_suffix.mp h))]

end Text

namespace Source

open Text

/-- The text with a carriage return before every line feed. -/
def withReturns (s : List Char) : List Char :=
  s.flatMap fun c => if c = '\n' then ['\r', '\n'] else [c]

/-- The number of empty lines at the end of a text: its last line feeds, without the one that ends a line
that is not empty. -/
def blanksAtEnd (s : List Char) : Nat :=
  let feeds := (s.reverse.takeWhile (· = '\n')).length
  if feeds = s.length then feeds else feeds - 1

theorem count_withReturns {c : Char} (hc : c ≠ '\r') (s : List Char) :
    (withReturns s).count c = s.count c := by
  unfold withReturns
  induction s with
  | nil => rfl
  | cons x s ih =>
    rw [List.flatMap_cons, List.count_append, ih, List.count_cons]
    by_cases hx : x = '\n'
    · simp [hx, List.count_cons, Ne.symm hc, Nat.add_comm]
    · simp [hx, List.count_cons, Nat.add_comm]

/-- Every piece but the last gets the carriage return of its line feed. -/
theorem splitOn_withReturns {s last : List Char} {ps : List Line} (h : splitOn '\n' s = ps ++ [last]) :
    splitOn '\n' (withReturns s) = ps.map (· ++ ['\r']) ++ [last] := by
  have hcons (c : Char) (r : List Char) : withReturns (c :: r) =
      (if c = '\n' then ['\r', '\n'] else [c]) ++ withReturns r := rfl
  fun_induction splitOn '\n' s generalizing ps last with
  | case1 =>
    cases ps with
    | nil => exact h
    | cons p ps => simp at h
  | case2 r ih =>
    cases ps with
    | nil => exact absurd (List.cons.inj h).2 (splitOn_ne_nil _ _)
    | cons p ps =>
      obtain ⟨rfl, hr⟩ := List.cons.inj h
      rw [hcons, if_pos rfl]
      simp [splitOn, ih hr]
  | case3 c r hc hr => exact absurd hr (splitOn_ne_nil _ _)
  | case4 c r hc q qs hr ih =>
    rw [hcons, if_neg hc]
    cases ps with
    | nil =>
      obtain ⟨rfl, rfl⟩ := List.cons.inj h
      have hq : splitOn '\n' r = [] ++ [q] := hr
      have hr' := ih hq
      simp [splitOn, hc, hr']
    | cons p ps =>
      obtain ⟨rfl, rfl⟩ := List.cons.inj h
      have hq : splitOn '\n' r = (q :: ps) ++ [last] := hr
      have hr' := ih hq
      simp [splitOn, hc, hr']

/-! ## Empty pieces at the end -/

theorem dropTrailingEmpty_concat {ls : List Line} {l : Line} (hl : l ≠ []) :
    dropTrailingEmpty (ls ++ [l]) = ls ++ [l] := by
  cases l with
  | nil => exact absurd rfl hl
  | cons c l => simp [dropTrailingEmpty]

theorem dropTrailingEmpty_append_replicate (ls : List Line) (n : Nat) :
    dropTrailingEmpty (ls ++ List.replicate n []) = dropTrailingEmpty ls := by
  simp [dropTrailingEmpty]

theorem flatten_dropTrailingEmpty (ls : List Line) : (dropTrailingEmpty ls).flatten = ls.flatten := by
  induction ls using List.reverseRecOn with
  | nil => rfl
  | append_singleton ls l ih =>
    by_cases hl : l = []
    · have hdrop := dropTrailingEmpty_append_replicate ls 1
      rw [List.replicate_one] at hdrop
      rw [hl, hdrop, ih, List.flatten_concat, List.append_nil]
    · rw [dropTrailingEmpty_concat hl]

/-- No piece is dropped of a text that ends in no line feed. -/
theorem dropTrailingEmpty_splitOn_concat {c : Char} (hc : c ≠ '\n') (s : List Char) :
    dropTrailingEmpty (splitOn '\n' (s ++ [c])) = splitOn '\n' (s ++ [c]) := by
  obtain ⟨ps, p, hps⟩ := splitOn_concat_of_ne hc s
  rw [hps, dropTrailingEmpty_concat (by simp)]

theorem mem_of_mem_dropTrailingEmpty {ls : List Line} {l : Line} (h : l ∈ dropTrailingEmpty ls) :
    l ∈ ls := by
  rw [dropTrailingEmpty, List.mem_reverse] at h
  exact List.mem_reverse.mp ((List.dropWhile_sublist _).subset h)

theorem lines_of_notMem {s : List Char} (h : '\r' ∉ s) :
    lines s = dropTrailingEmpty (splitOn '\n' s) := by
  rw [lines]
  refine Eq.trans (List.map_congr_left fun l hl => ?_) (List.map_id _)
  exact dropEnd_of_notMem fun hr => h (mem_of_mem_splitOn (mem_of_mem_dropTrailingEmpty hl) hr)

theorem feed_notMem_of_mem_lines {s : List Char} {l : Line} (h : l ∈ lines s) : '\n' ∉ l := by
  obtain ⟨p, hp, rfl⟩ := List.mem_map.mp h
  have hfree := notMem_of_mem_splitOn (mem_of_mem_dropTrailingEmpty hp)
  rw [dropEnd]
  split
  · exact fun hfeed => hfree (List.mem_of_mem_take hfeed)
  · exact hfree

theorem map_dropEnd_map_concat (ls : List Line) :
    (ls.map (· ++ ['\r'])).map (dropEnd ['\r']) = ls := by
  rw [List.map_map]
  exact Eq.trans (List.map_congr_left fun l _ => dropEnd_concat '\r' l) (List.map_id _)

/-- Lines that have a carriage return are all kept. -/
theorem map_dropEnd_dropTrailingEmpty (ls : List Line) :
    (dropTrailingEmpty (ls.map (· ++ ['\r']))).map (dropEnd ['\r']) = ls := by
  have hkept : dropTrailingEmpty (ls.map (· ++ ['\r'])) = ls.map (· ++ ['\r']) := by
    rcases List.eq_nil_or_concat ls with rfl | ⟨ls, l, rfl⟩
    · rfl
    · rw [List.concat_eq_append, List.map_append, List.map_singleton,
        dropTrailingEmpty_concat (by simp)]
  rw [hkept, map_dropEnd_map_concat]

/-! ## The two ways to write a text -/

/-- A text that ends in a line feed, and its lines with carriage returns. -/
theorem lines_withReturns_concat_feed (s : List Char) :
    lines (withReturns (s ++ ['\n'])) = splitOn '\n' s := by
  have hpieces := splitOn_withReturns (splitOn_concat_sep '\n' s)
  have hempty := dropTrailingEmpty_append_replicate ((splitOn '\n' s).map (· ++ ['\r'])) 1
  rw [List.replicate_one] at hempty
  rw [lines, hpieces, hempty, map_dropEnd_dropTrailingEmpty]

/-- A text that does not end in a line feed has the same lines with carriage returns. -/
theorem lines_withReturns_concat_of_ne {c : Char} (hc : c ≠ '\n') {s : List Char}
    (h : '\r' ∉ s ++ [c]) : lines (withReturns (s ++ [c])) = lines (s ++ [c]) := by
  obtain ⟨ps, p, hps⟩ := splitOn_concat_of_ne hc s
  have hmem : p ++ [c] ∈ splitOn '\n' (s ++ [c]) := by simp [hps]
  have hlast : '\r' ∉ p ++ [c] := fun hr => h (mem_of_mem_splitOn hmem hr)
  rw [lines_of_notMem h, hps, lines, splitOn_withReturns hps, dropTrailingEmpty_concat (by simp),
    dropTrailingEmpty_concat (by simp), List.map_append, map_dropEnd_map_concat,
    List.map_singleton, dropEnd_of_notMem hlast]

/-- A text is its line feeds at the end and what stands before them. -/
theorem exists_eq_append_feeds (s : List Char) : ∃ body n,
    s = body ++ List.replicate n '\n' ∧ (body = [] ∨ ∃ r c, body = r ++ [c] ∧ c ≠ '\n') := by
  induction s using List.reverseRecOn with
  | nil => exact ⟨[], 0, rfl, .inl rfl⟩
  | append_singleton s c ih =>
    by_cases hc : c = '\n'
    · obtain ⟨body, n, rfl, hbody⟩ := ih
      exact ⟨body, n + 1, by rw [hc, List.replicate_succ', List.append_assoc], hbody⟩
    · exact ⟨s ++ [c], 0, by simp, .inr ⟨s, c, rfl, hc⟩⟩

theorem blanksAtEnd_feeds (n : Nat) : blanksAtEnd (List.replicate n '\n') = n := by
  simp [blanksAtEnd]

theorem blanksAtEnd_append_feeds {c : Char} (hc : c ≠ '\n') (r : List Char) (n : Nat) :
    blanksAtEnd (r ++ [c] ++ List.replicate n '\n') = n - 1 := by
  have hfeeds : ((r ++ [c] ++ List.replicate n '\n').reverse.takeWhile (· = '\n')).length = n := by
    simp [hc]
  rw [blanksAtEnd, hfeeds, if_neg]
  simp only [List.length_append, List.length_singleton, List.length_replicate]
  omega

/-- A text ends in no empty line unless it is a line feed alone or ends in two of them. -/
theorem blanksAtEnd_eq_zero_iff (s : List Char) :
    blanksAtEnd s = 0 ↔ s ≠ ['\n'] ∧ ¬ ['\n', '\n'] <:+ s := by
  have hreverse : (s ≠ ['\n'] ∧ ¬ ['\n', '\n'] <:+ s) ↔
      s.reverse ≠ ['\n'] ∧ ¬ ['\n', '\n'] <+: s.reverse := by
    rw [← List.reverse_prefix, ne_eq, ne_eq, List.reverse_eq_iff]
    rfl
  rw [hreverse]
  obtain ⟨body, n, rfl, rfl | ⟨r, c, rfl, hc⟩⟩ := exists_eq_append_feeds s
  · rw [List.nil_append, blanksAtEnd_feeds, List.reverse_replicate]
    match n with
    | 0 => simp
    | 1 => simp
    | n + 2 => simp [List.replicate_succ]
  · rw [blanksAtEnd_append_feeds hc, List.reverse_append, List.reverse_replicate, List.reverse_concat]
    match n with
    | 0 => simp [hc, Ne.symm hc]
    | 1 => simp [Ne.symm hc]
    | n + 2 => simp [List.replicate_succ]

/-- The carriage returns keep the empty lines at the end of a text, and change no other line. -/
theorem lines_withReturns {s : List Char} (h : '\r' ∉ s) :
    lines (withReturns s) = lines s ++ List.replicate (blanksAtEnd s) [] := by
  obtain ⟨body, n, rfl, hbody⟩ := exists_eq_append_feeds s
  cases n with
  | zero =>
    rw [List.replicate_zero, List.append_nil] at h ⊢
    rcases hbody with rfl | ⟨r, c, rfl, hc⟩
    · rfl
    · have hblanks := blanksAtEnd_append_feeds hc r 0
      rw [List.replicate_zero, List.append_nil] at hblanks
      rw [lines_withReturns_concat_of_ne hc h, hblanks, List.replicate_zero, List.append_nil]
  | succ n =>
    -- The last line feed ends a piece with a carriage return, so nothing before it is dropped.
    have hlines : lines (body ++ List.replicate (n + 1) '\n') =
        dropTrailingEmpty (splitOn '\n' body) := by
      rw [lines_of_notMem h, splitOn_append_replicate_sep, dropTrailingEmpty_append_replicate]
    have hreturns : lines (withReturns (body ++ List.replicate (n + 1) '\n')) =
        splitOn '\n' body ++ List.replicate n [] := by
      rw [List.replicate_succ', ← List.append_assoc, lines_withReturns_concat_feed,
        splitOn_append_replicate_sep]
    rw [hlines, hreturns]
    rcases hbody with rfl | ⟨r, c, rfl, hc⟩
    · rw [List.nil_append, blanksAtEnd_feeds]
      rfl
    · rw [blanksAtEnd_append_feeds hc, dropTrailingEmpty_splitOn_concat hc, Nat.add_sub_cancel]

theorem lines_withReturns_eq_iff {s : List Char} (h : '\r' ∉ s) :
    lines (withReturns s) = lines s ↔ s ≠ ['\n'] ∧ ¬ ['\n', '\n'] <:+ s := by
  rw [← blanksAtEnd_eq_zero_iff, lines_withReturns h, List.append_right_eq_self,
    List.replicate_eq_nil_iff]

/-! ## What the lines keep -/

theorem count_flatten_map_dropEnd {c x : Char} (hc : c ≠ x) (ls : List Line) :
    (ls.map (dropEnd [x])).flatten.count c = ls.flatten.count c := by
  induction ls with
  | nil => rfl
  | cons l ls ih =>
    rw [List.map_cons, List.flatten_cons, List.flatten_cons, List.count_append, List.count_append, ih,
      count_dropEnd hc]

/-- A character that ends no line is on the lines as often as in the text. -/
theorem count_flatten_lines {c : Char} (hfeed : c ≠ '\n') (hreturn : c ≠ '\r') (s : List Char) :
    (lines s).flatten.count c = s.count c := by
  rw [lines, count_flatten_map_dropEnd hreturn, flatten_dropTrailingEmpty, flatten_splitOn,
    List.count_filter (by simpa using hfeed)]

/-- Line feeds at the end of a text make no lines. -/
theorem lines_append_feeds (s : List Char) (n : Nat) :
    lines (s ++ List.replicate n '\n') = lines s := by
  rw [lines, lines, splitOn_append_replicate_sep, dropTrailingEmpty_append_replicate]

theorem lines_eq_nil_iff (s : List Char) : lines s = [] ↔ ∀ c ∈ s, c = '\n' := by
  obtain ⟨body, n, rfl, rfl | ⟨r, c, rfl, hc⟩⟩ := exists_eq_append_feeds s
  · rw [lines_append_feeds]
    exact iff_of_true rfl fun c hc => List.eq_of_mem_replicate hc
  · rw [lines_append_feeds, lines, dropTrailingEmpty_splitOn_concat hc, List.map_eq_nil_iff]
    refine iff_of_false (splitOn_ne_nil _ _) fun h => hc (h c ?_)
    simp

theorem rdropWhile_append_feeds (s : List Char) (n : Nat) :
    (s ++ List.replicate n '\n').rdropWhile (· = '\n') = s.rdropWhile (· = '\n') := by
  induction n with
  | zero => rw [List.replicate_zero, List.append_nil]
  | succ n ih =>
    have hdrop := List.rdropWhile_concat_pos (· = '\n') (s ++ List.replicate n '\n') '\n' (by simp)
    rw [List.replicate_succ', ← List.append_assoc, hdrop, ih]

/-- Without carriage returns the lines of a text join to it, up to the line feeds at its end. -/
theorem joinWith_lines {s : List Char} (h : '\r' ∉ s) :
    joinWith ['\n'] (lines s) = s.rdropWhile (· = '\n') := by
  obtain ⟨body, n, rfl, hbody⟩ := exists_eq_append_feeds s
  have hreturn : '\r' ∉ body := fun hr => h (List.mem_append_left _ hr)
  rw [lines_append_feeds, rdropWhile_append_feeds, lines_of_notMem hreturn]
  rcases hbody with rfl | ⟨r, c, rfl, hc⟩
  · rfl
  · rw [dropTrailingEmpty_splitOn_concat hc, joinWith_splitOn,
      List.rdropWhile_concat_neg _ _ _ (by simpa using hc)]

end Source

end JavaReview
