import JavaReview.Proofs.Rule.LoopBlocks
import Mathlib.Algebra.BigOperators.Intervals

/-!
How far a block reaches, told without the two searches. It opens at its header, or at the least line below
that has a statement, if a brace starts that statement (`OpensAt`). It ends at the least line up to which
no more braces are opened than closed, counted from the opening line on, or at the last line (`EndsAt`).
Main statement: the search finds the block with these ends, and none exactly if none opens
(`blockExtent`).
-/

namespace JavaReview.Rule

section Extent

variable (ls : List Line)

/-- The opening braces less the closing ones in the code of a line. -/
def codeDeltaAt (i : Nat) : Int := (codeAt ls i).braceDelta

/-- The lines below a header that have a statement. -/
def statementsBelow (header : Nat) : Set Nat := {j | header < j ∧ statementAt ls j ≠ []}

/-- The lines from one on up to which its braces are balanced, or more of them are closed. -/
def balancedFrom (start : Nat) : Set Nat :=
  {j | start ≤ j ∧ j < ls.length ∧ ∑ k ∈ Finset.Icc start j, codeDeltaAt ls k ≤ 0}

/-- The line on which the block of a header opens. -/
inductive OpensAt (header : Nat) : Nat → Prop
  | header : '\x7b' ∈ codeAt ls header → OpensAt header header
  | below {j : Nat} : '\x7b' ∉ codeAt ls header → IsLeast (statementsBelow ls header) j →
      ['\x7b'] <+: statementAt ls j → OpensAt header j

/-- The line on which a block ends that opens on another. -/
inductive EndsAt (start : Nat) : Nat → Prop
  | closed {j : Nat} : IsLeast (balancedFrom ls start) j → EndsAt start j
  | unclosed : balancedFrom ls start = ∅ → EndsAt start (ls.length - 1)

end Extent

variable {ls : List Line} {header start last i : Nat}

/-! ## Opening lines -/

theorem statementAt_of_firstStatement?_eq_none (h : firstStatement? i ls = none) (m : Nat) :
    statementAt ls m = [] := by
  induction ls generalizing i m with
  | nil => exact statementAt_of_length_le (Nat.zero_le m)
  | cons l ls ih =>
    rw [firstStatement?] at h
    split at h
    next hblank =>
      cases m with
      | zero => exact List.isEmpty_iff.mp hblank
      | succ m => exact ih h m
    next => cases h

/-- The search below a header comes to the least line with a statement. -/
theorem firstStatement?_drop_eq_some_iff {j : Nat} :
    firstStatement? (header + 1) (ls.drop (header + 1)) = some j ↔
      IsLeast (statementsBelow ls header) j := by
  have hleast {j : Nat} (h : firstStatement? (header + 1) (ls.drop (header + 1)) = some j) :
      IsLeast (statementsBelow ls header) j := by
    obtain ⟨n, -, rfl, hstatement, hbefore⟩ := exists_of_firstStatement? h
    rw [statementAt_drop] at hstatement
    refine ⟨⟨by omega, hstatement⟩, ?_⟩
    rintro k ⟨hk, hne⟩
    refine Nat.le_of_not_lt fun hlt => hne ?_
    have hblank := hbefore (k - (header + 1)) (by omega)
    rwa [statementAt_drop, Nat.add_sub_cancel' hk] at hblank
  refine ⟨hleast, fun h => ?_⟩
  cases hfirst : firstStatement? (header + 1) (ls.drop (header + 1)) with
  | none =>
    obtain ⟨hlt, hne⟩ := h.1
    have hblank := statementAt_of_firstStatement?_eq_none hfirst (j - (header + 1))
    rw [statementAt_drop, Nat.add_sub_cancel' hlt] at hblank
    exact absurd hblank hne
  | some k => rw [(hleast hfirst).unique h]

theorem opensAt_of_blockOpen? (h : blockOpen? ls header = some start) : OpensAt ls header start := by
  rw [blockOpen?] at h
  split at h
  next hbrace =>
    cases h
    exact .header (List.contains_iff_mem.mp hbrace)
  next hnone =>
    split at h
    next => cases h
    next j hj =>
      split at h
      next hprefix =>
        cases h
        exact .below (fun hbrace => hnone (List.contains_iff_mem.mpr hbrace))
          (firstStatement?_drop_eq_some_iff.mp hj) (List.isPrefixOf_iff_prefix.mp hprefix)
      next => cases h

theorem OpensAt.blockOpen?_eq (h : OpensAt ls header start) : blockOpen? ls header = some start := by
  cases h with
  | header hbrace => rw [blockOpen?, if_pos (List.contains_iff_mem.mpr hbrace)]
  | below hnone hleast hprefix =>
    rw [blockOpen?, if_neg (fun hbrace => hnone (List.contains_iff_mem.mp hbrace)),
      firstStatement?_drop_eq_some_iff.mpr hleast]
    exact if_pos (List.isPrefixOf_iff_prefix.mpr hprefix)

theorem blockOpen?_eq_some_iff : blockOpen? ls header = some start ↔ OpensAt ls header start :=
  ⟨opensAt_of_blockOpen?, OpensAt.blockOpen?_eq⟩

theorem not_opensAt_iff : (∀ start, ¬ OpensAt ls header start) ↔ '\x7b' ∉ codeAt ls header ∧
    ∀ j, IsLeast (statementsBelow ls header) j → ¬ ['\x7b'] <+: statementAt ls j := by
  constructor
  · intro h
    have hnone : '\x7b' ∉ codeAt ls header := fun hbrace => h header (.header hbrace)
    exact ⟨hnone, fun j hleast hprefix => h j (.below hnone hleast hprefix)⟩
  · rintro ⟨hnone, hbelow⟩ start hopens
    cases hopens with
    | header hbrace => exact hnone hbrace
    | below _ hleast hprefix => exact hbelow start hleast hprefix

/-! ## Last lines -/

theorem EndsAt.unique {last' : Nat} (h : EndsAt ls start last) (h' : EndsAt ls start last') :
    last = last' := by
  cases h with
  | closed hleast =>
    cases h' with
    | closed hleast' => exact hleast.unique hleast'
    | unclosed hnone => exact absurd hleast.1 (hnone ▸ Set.notMem_empty last)
  | unclosed hnone =>
    cases h' with
    | closed hleast' => exact absurd hleast'.1 (hnone ▸ Set.notMem_empty last')
    | unclosed => rfl

/-- The search for the end has passed the lines above a position, and the braces are balanced on none of
them. -/
def OpenUpTo (ls : List Line) (start i : Nat) : Prop := ∀ k ∈ balancedFrom ls start, i ≤ k

theorem openUpTo_start (ls : List Line) (start : Nat) : OpenUpTo ls start start := fun _ hk => hk.1

/-- One step of the search: a line on which the braces are not balanced is passed. -/
theorem OpenUpTo.step (h : OpenUpTo ls start i)
    (hopen : 0 < ∑ k ∈ Finset.Icc start i, codeDeltaAt ls k) : OpenUpTo ls start (i + 1) := by
  intro k hk
  rcases Nat.lt_or_eq_of_le (h k hk) with hlt | rfl
  · exact hlt
  · exact absurd hk.2.2 (Int.not_le.mpr hopen)

/-- The whole search, from a line that it comes to with the balance of the lines above. -/
theorem endsAt_blockEnd_of_openUpTo (hstart : start ≤ i) (hi : i < ls.length)
    (h : OpenUpTo ls start i) :
    EndsAt ls start (blockEnd (∑ k ∈ Finset.Ico start i, codeDeltaAt ls k) i (ls.drop i)) := by
  -- The induction is on the lines that are left; those above `i` are known to leave the block open.
  induction hn : ls.length - i generalizing i with
  | zero => omega
  | succ n ih =>
    have hbalance : ∑ k ∈ Finset.Ico start i, codeDeltaAt ls k + (Line.code ls[i]).braceDelta =
        ∑ k ∈ Finset.Ico start (i + 1), codeDeltaAt ls k := by
      rw [Finset.sum_Ico_succ_top hstart, codeDeltaAt, codeAt_of_lt hi]
    have hIcc : Finset.Ico start (i + 1) = Finset.Icc start i := Finset.Ico_add_one_right_eq_Icc start i
    rw [List.drop_eq_getElem_cons hi, blockEnd, hbalance]
    split
    next hle => exact .closed ⟨⟨hstart, hi, hIcc ▸ hle⟩, h⟩
    next hpos =>
      have hnext := h.step (hIcc ▸ Int.not_le.mp hpos)
      by_cases hlast : i + 1 < ls.length
      · exact ih (Nat.le_succ_of_le hstart) hlast hnext (by omega)
      · -- All lines are passed, so the braces are balanced nowhere.
        have hnone : balancedFrom ls start = ∅ :=
          Set.eq_empty_of_forall_notMem fun k hk => hlast (Nat.lt_of_le_of_lt (hnext k hk) hk.2.1)
        have hend : i + 1 - 1 = ls.length - 1 := by omega
        rw [List.drop_eq_nil_of_le (Nat.le_of_not_lt hlast), blockEnd, hend]
        exact .unclosed hnone

theorem endsAt_blockEnd (h : start < ls.length) :
    EndsAt ls start (blockEnd 0 start (ls.drop start)) := by
  have hends := endsAt_blockEnd_of_openUpTo (Nat.le_refl start) h (openUpTo_start ls start)
  rwa [Finset.Ico_self, Finset.sum_empty] at hends

/-! ## Blocks -/

theorem OpensAt.lt_length (h : OpensAt ls header start) : start < ls.length := by
  rcases blockOpen?_cases h.blockOpen?_eq with ⟨rfl, hlt⟩ | ⟨-, hlt, -⟩ <;> exact hlt

theorem findBlock?_eq_some_iff : findBlock? ls header = some (start, last) ↔
    OpensAt ls header start ∧ EndsAt ls start last := by
  rw [findBlock?, Option.map_eq_some_iff]
  constructor
  · rintro ⟨o, hopen, hpair⟩
    cases hpair
    have hopens := blockOpen?_eq_some_iff.mp hopen
    exact ⟨hopens, endsAt_blockEnd hopens.lt_length⟩
  · rintro ⟨hopens, hends⟩
    refine ⟨start, hopens.blockOpen?_eq, ?_⟩
    rw [(endsAt_blockEnd hopens.lt_length).unique hends]

/-- **Blocks.** A header has no block exactly if its code has no brace and the next statement, if there is
one, starts with none. Else the block opens at the header if a brace is there, and otherwise at the next
statement; it ends at the least line from there on up to which no more braces are opened than closed, and
at the last line if there is no such line. -/
theorem blockExtent (ls : List Line) (header : Nat) :
    (findBlock? ls header = none ↔ '\x7b' ∉ codeAt ls header ∧
      ∀ j, IsLeast (statementsBelow ls header) j → ¬ ['\x7b'] <+: statementAt ls j) ∧
    ∀ start last, findBlock? ls header = some (start, last) ↔
      OpensAt ls header start ∧ EndsAt ls start last := by
  refine ⟨?_, fun start last => findBlock?_eq_some_iff⟩
  rw [← not_opensAt_iff, findBlock?, Option.map_eq_none_iff, Option.eq_none_iff_forall_ne_some]
  simp only [ne_eq, blockOpen?_eq_some_iff]

-- A block is left by a line that closes more than was opened, and one that is not closed has no other end.
example : findBlock? ["do".toList, [], "\x7b \x7b // \x7d".toList, "\x7d \x7d \x7d".toList] 0 = some (2, 3) ∧
    findBlock? ["for (;;) \x7b".toList, "a();".toList] 0 = some (0, 1) := by
  decide +kernel

end JavaReview.Rule
