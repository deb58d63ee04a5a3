import JavaReview.Http.Target
import JavaReview.Proofs.Text.Pieces

/-!
Plain queries. A query that is written from pairs of texts of letters and digits is read as these pairs
(`Http.Query.ofText_written`): nothing in it is a separator, an escape or a sign for a space.
-/

namespace JavaReview

namespace Text

/-! ## Pieces -/

theorem takeWhile_ne_append_cons {x : Char} {s : List Char} (h : x ∉ s) (r : List Char) :
    (s ++ x :: r).takeWhile (· ≠ x) = s := by
  rw [List.takeWhile_append_of_pos, List.takeWhile_cons_of_neg (by simp), List.append_nil]
  intro c hc
  simpa using fun hcx : c = x => h (hcx ▸ hc)

theorem dropWhile_ne_append_cons {x : Char} {s : List Char} (h : x ∉ s) (r : List Char) :
    (s ++ x :: r).dropWhile (· ≠ x) = x :: r := by
  rw [List.dropWhile_append_of_pos, List.dropWhile_cons_of_neg (by simp)]
  intro c hc
  simpa using fun hcx : c = x => h (hcx ▸ hc)

/-! ## Letters and digits -/

/-- A text of letters and digits. -/
def Plain (s : List Char) : Prop := ∀ c ∈ s, c.isAlphanum = true

instance (s : List Char) : Decidable (Plain s) :=
  decidable_of_iff (s.all Char.isAlphanum = true) List.all_eq_true

theorem Plain.notMem {s : List Char} (h : Plain s) {c : Char} (hc : c.isAlphanum = false) : c ∉ s := by
  intro hmem
  rw [h c hmem] at hc
  cases hc

theorem toNat_lt_of_isAlphanum {c : Char} (h : c.isAlphanum = true) : c.toNat < 0x80 := by
  have hlast (last : Char) (hlast : last.toNat < 0x80) (hc : c.val ≤ last.val) : c.toNat < 0x80 :=
    Nat.lt_of_le_of_lt hc hlast
  rcases Bool.or_eq_true_iff.mp h with hletter | hdigit
  · rcases Bool.or_eq_true_iff.mp hletter with hupper | hlower
    · exact hlast 'Z' (by decide) (of_decide_eq_true hupper).2
    · exact hlast 'z' (by decide) (of_decide_eq_true (Bool.and_eq_true_iff.mp hlower).2)
  · exact hlast '9' (by decide) (of_decide_eq_true (Bool.and_eq_true_iff.mp hdigit).2)

theorem Plain.bytes_eq {s : List Char} (h : Plain s) : bytes s = s.map Char.toNat := by
  induction s with
  | nil => rfl
  | cons c r ih =>
    have hc : charBytes c = [c.toNat] := if_pos (toNat_lt_of_isAlphanum (h c List.mem_cons_self))
    have hr := ih fun x hx => h x (List.mem_cons_of_mem c hx)
    rw [bytes] at hr ⊢
    rw [List.flatMap_cons, hc, hr, List.map_cons, List.singleton_append]

theorem Plain.ofBytes_map_toNat {s : List Char} (h : Plain s) : ofBytes (s.map Char.toNat) = s := by
  unfold ofBytes
  induction s with
  | nil => rfl
  | cons c r ih =>
    have hc := toNat_lt_of_isAlphanum (h c List.mem_cons_self)
    simp only [List.map_cons, List.length_cons, decodeBytes, if_pos hc, Char.ofNat_toNat,
      ih fun x hx => h x (List.mem_cons_of_mem c hx)]

end Text

namespace Http

open Text (Plain)

theorem unescape?_of_notMem {s : List Char} (h : '%' ∉ s) : unescape? s = some (Text.bytes s) := by
  fun_induction unescape? s with
  | case1 => rfl
  | case2 => simp at h
  | case3 => simp at h
  | case4 c r _ hc ih =>
    rw [List.mem_cons, not_or] at h
    rw [ih h.2]
    rfl

theorem unescapeQuery?_of_plain {s : List Char} (h : Plain s) :
    unescapeQuery? s = some (String.ofList s) := by
  have hplus : (s.map fun c => if c = '+' then ' ' else c) = s := by
    refine Eq.trans (List.map_congr_left fun c hc => ?_) (List.map_id s)
    exact if_neg fun hplus : c = '+' => h.notMem (by decide) (hplus ▸ hc)
  rw [unescapeQuery?, hplus, unescape?_of_notMem (h.notMem (by decide)), Option.map_some, h.bytes_eq,
    h.ofBytes_map_toNat]

/-- A pair as it is written in a query. -/
def writtenPair (pair : List Char × List Char) : List Char := pair.1 ++ '=' :: pair.2

/-- A pair of texts of letters and digits. -/
def PlainPair (pair : List Char × List Char) : Prop := Plain pair.1 ∧ Plain pair.2

theorem PlainPair.notMem {pair : List Char × List Char} (h : PlainPair pair) {c : Char}
    (hc : c.isAlphanum = false) (hne : c ≠ '=') : c ∉ writtenPair pair := by
  rw [writtenPair, List.mem_append, List.mem_cons, not_or, not_or]
  exact ⟨h.1.notMem hc, hne, h.2.notMem hc⟩

theorem readPair_writtenPair {pair : List Char × List Char} (h : PlainPair pair) :
    readPair (writtenPair pair) = .ok (String.ofList pair.1, String.ofList pair.2) := by
  have hsemicolon : (writtenPair pair).contains ';' = false := by
    simpa using h.notMem (by decide) (by decide)
  have hequals : '=' ∉ pair.1 := h.1.notMem (by decide)
  rw [readPair, hsemicolon, if_neg Bool.false_ne_true]
  rw [writtenPair, Text.takeWhile_ne_append_cons hequals, Text.dropWhile_ne_append_cons hequals,
    List.drop_one, List.tail_cons, readPart, readPart, unescapeQuery?_of_plain h.1,
    unescapeQuery?_of_plain h.2]
  rfl

/-- **Plain queries.** What is written as pairs of letters and digits is read as these pairs. -/
theorem Query.ofText_written {pairs : List (List Char × List Char)} (hne : pairs ≠ [])
    (h : ∀ pair ∈ pairs, PlainPair pair) :
    Query.ofText (Text.joinWith ['&'] (pairs.map writtenPair)) =
      ⟨pairs.map fun pair => (String.ofList pair.1, String.ofList pair.2), none⟩ := by
  have hparts : queryParts (Text.joinWith ['&'] (pairs.map writtenPair)) = pairs.map writtenPair := by
    rw [queryParts, Text.splitOn_joinWith (by simpa using hne), List.filter_eq_self]
    · intro part hpart
      obtain ⟨pair, -, rfl⟩ := List.mem_map.mp hpart
      simp [writtenPair]
    · intro part hpart
      obtain ⟨pair, hpair, rfl⟩ := List.mem_map.mp hpart
      exact (h pair hpair).notMem (by decide) (by decide)
  have hread : (pairs.map writtenPair).map readPair =
      pairs.map fun pair => .ok (String.ofList pair.1, String.ofList pair.2) := by
    rw [List.map_map]
    exact List.map_congr_left fun pair hpair => readPair_writtenPair (h pair hpair)
  rw [ofText, hparts, hread]
  congr 1
  · rw [List.filterMap_map]
    exact List.filterMap_eq_map.symm ▸ rfl
  · rw [List.findSome?_eq_none_iff]
    intro part hpart
    obtain ⟨pair, -, rfl⟩ := List.mem_map.mp hpart
    rfl

end Http

end JavaReview
