import JavaReview.Proofs.File.Writing
import JavaReview.Proofs.Text.Bytes
import JavaReview.Proofs.Text.Pieces

/-!
Cleaned paths. What is left of a path does not change when it is cleaned again (`Path.kept_clean`), and
takes no more bytes (`Path.byteSize_clean_le`). Looking up follows the components that are left to the
place where the path leads (`FileTree.followFrom_kept`), as what is left out only goes down and up again.
So a cleaned path leads where the path leads (`FileTree.locate_clean`), and a path below it further down
from there (`FileTree.followFrom_clean_below`).
-/

namespace JavaReview

namespace Path

/-! ## Names -/

/-- A component that stays as it is when a path is cleaned. -/
structure IsPlain (n : String) : Prop where
  ne_empty : n ≠ ""
  ne_dot : n ≠ "."
  ne_up : n ≠ ".."
  no_slash : '/' ∉ n.toList

variable {p q n : String} {names rel : List String} {c d : List Char} {done : List (List Char)}

/-- What one more component does: nothing, take away the name before it, nothing at the root, or stay. -/
theorem cleanStep_cases (absolute : Bool) (done : List (List Char)) (c : List Char) :
    (c = [] ∨ c = ['.']) ∧ cleanStep absolute done c = done ∨
    c = ['.', '.'] ∧ (∃ d r, done = d :: r ∧ d ≠ ['.', '.'] ∧ cleanStep absolute done c = r) ∨
    c = ['.', '.'] ∧ done = [] ∧ absolute = true ∧ cleanStep absolute done c = [] ∨
    ¬ (c = [] ∨ c = ['.']) ∧ cleanStep absolute done c = c :: done := by
  unfold cleanStep
  by_cases hskip : c = [] ∨ c = ['.']
  · exact .inl ⟨hskip, if_pos hskip⟩
  rw [if_neg hskip]
  by_cases hup : c = ['.', '.']
  · rw [if_pos hup]
    cases done with
    | nil => cases absolute <;> simp_all
    | cons d r => by_cases hd : d = ['.', '.'] <;> simp_all
  · exact .inr (.inr (.inr ⟨hskip, if_neg hup⟩))

theorem cleanStep_name (h : IsPlain n) (absolute : Bool) (done : List (List Char)) :
    cleanStep absolute done n.toList = n.toList :: done := by
  have hstay : ¬ (n.toList = [] ∨ n.toList = ['.']) := by
    rintro (hn | hn)
    · exact h.ne_empty (String.toList_injective hn)
    · exact h.ne_dot (String.toList_injective hn)
  have hup : n.toList ≠ ['.', '.'] := fun hn => h.ne_up (String.toList_injective hn)
  rw [cleanStep.eq_def, if_neg hstay, if_neg hup]

theorem mem_cleanStep {absolute : Bool} (h : d ∈ cleanStep absolute done c) :
    d = c ∧ ¬ (c = [] ∨ c = ['.']) ∨ d ∈ done := by
  obtain ⟨-, heq⟩ | ⟨-, e, r, rfl, -, heq⟩ | ⟨-, -, -, heq⟩ | ⟨hskip, heq⟩ := cleanStep_cases absolute done c
  · exact .inr (heq ▸ h)
  · exact .inr (List.mem_cons_of_mem e (heq ▸ h))
  · rw [heq] at h
    cases h
  · rw [heq] at h
    exact (List.mem_cons.mp h).imp_left fun hd => ⟨hd, hskip⟩

theorem mem_foldl_cleanStep {absolute : Bool} {cs : List (List Char)}
    (h : d ∈ cs.foldl (cleanStep absolute) done) : d ∈ cs ∧ ¬ (d = [] ∨ d = ['.']) ∨ d ∈ done := by
  induction cs generalizing done with
  | nil => exact .inr h
  | cons c cs ih =>
    rcases ih h with hd | hd
    · exact .inl ⟨List.mem_cons_of_mem c hd.1, hd.2⟩
    · rcases mem_cleanStep hd with ⟨rfl, hskip⟩ | hd
      · exact .inl ⟨List.mem_cons_self, hskip⟩
      · exact .inr hd

/-! ## What is left -/

/-- The components that are left of a path. -/
def kept (p : String) : List (List Char) := ((components p).foldl (cleanStep (isAbsolute p)) []).reverse

theorem mem_kept (h : c ∈ kept p) : c ∈ components p ∧ c ≠ [] ∧ c ≠ ['.'] := by
  obtain ⟨hc, hskip⟩ := (mem_foldl_cleanStep (List.mem_reverse.mp h)).resolve_right List.not_mem_nil
  exact ⟨hc, not_or.mp hskip⟩

theorem clean_eq (p : String) : clean p = if isAbsolute p then String.ofList ('/' :: Text.joinWith ['/'] (kept p))
    else if (Text.joinWith ['/'] (kept p)).isEmpty then "."
    else String.ofList (Text.joinWith ['/'] (kept p)) := rfl

theorem splitOn_joinWith_kept (h : kept p ≠ []) :
    Text.splitOn '/' (Text.joinWith ['/'] (kept p)) = kept p :=
  Text.splitOn_joinWith h fun _ hc => Text.notMem_of_mem_splitOn (mem_kept hc).1

theorem joinWith_kept_ne_nil (h : kept p ≠ []) : Text.joinWith ['/'] (kept p) ≠ [] := by
  intro hnil
  have hsplit := splitOn_joinWith_kept h
  rw [hnil] at hsplit
  have hmem : [] ∈ kept p := hsplit ▸ List.mem_singleton_self _
  exact (mem_kept hmem).2.1 rfl

theorem components_clean (p : String) : components (clean p) =
    (if isAbsolute p then [[]] else []) ++
      if kept p = [] then [if isAbsolute p then [] else ['.']] else kept p := by
  rw [clean_eq]
  by_cases hkept : kept p = []
  · rw [hkept]
    cases isAbsolute p <;> decide
  · have hbody := List.isEmpty_eq_false_iff.mpr (joinWith_kept_ne_nil hkept)
    cases isAbsolute p with
    | false =>
      simp only [hbody, hkept, Bool.false_eq_true, if_false, components, String.toList_ofList,
        splitOn_joinWith_kept hkept, List.nil_append]
    | true =>
      simp only [hkept, if_true, if_false, components, String.toList_ofList]
      rw [Text.splitOn, if_pos rfl, splitOn_joinWith_kept hkept]
      rfl

theorem isAbsolute_iff : isAbsolute p = true ↔ p ≠ "" ∧ (components p).head? = some [] := by
  have hempty : p = "" ↔ p.toList = [] := ⟨fun h => h ▸ rfl, fun h => String.toList_injective h⟩
  unfold isAbsolute components
  rw [beq_iff_eq, ne_eq, hempty]
  cases p.toList with
  | nil => simp
  | cons c r =>
    rw [Text.splitOn]
    split
    next hc => simp [hc]
    next hc => split <;> simp [hc]

theorem clean_ne_empty (p : String) : clean p ≠ "" := by
  intro hempty
  have hcomponents := components_clean p
  rw [hempty, show components "" = [[]] from rfl] at hcomponents
  by_cases hkept : kept p = []
  · cases habsolute : isAbsolute p <;> simp [hkept, habsolute] at hcomponents
  · rw [if_neg hkept] at hcomponents
    cases habsolute : isAbsolute p with
    | false =>
      rw [habsolute] at hcomponents
      have hmem : [] ∈ kept p := by simpa using congrArg ([] ∈ ·) hcomponents
      exact (mem_kept hmem).2.1 rfl
    | true => simp [habsolute, hkept] at hcomponents

theorem isAbsolute_clean (p : String) : isAbsolute (clean p) = isAbsolute p := by
  rw [Bool.eq_iff_iff, isAbsolute_iff, components_clean]
  cases habsolute : isAbsolute p with
  | true => simp [clean_ne_empty]
  | false =>
    refine iff_of_false ?_ Bool.false_ne_true
    rintro ⟨-, hhead⟩
    by_cases hkept : kept p = []
    · simp [hkept] at hhead
    · simp only [Bool.false_eq_true, if_false, if_neg hkept, List.nil_append] at hhead
      exact (mem_kept (List.mem_of_mem_head? hhead)).2.1 rfl

/-- Components under construction that cleaning leaves alone. -/
structure Settled (absolute : Bool) (done : List (List Char)) : Prop where
  ne_skip : ∀ d ∈ done, ¬ (d = [] ∨ d = ['.'])
  foldl_eq : done.reverse.foldl (cleanStep absolute) [] = done

theorem Settled.cleanStep {absolute : Bool} (h : Settled absolute done) (c : List Char) :
    Settled absolute (Path.cleanStep absolute done c) := by
  refine ⟨fun d hd => (mem_cleanStep hd).elim (fun ⟨hdc, hskip⟩ => hdc ▸ hskip) (h.ne_skip d), ?_⟩
  obtain ⟨-, heq⟩ | ⟨-, d, r, rfl, hup, heq⟩ | ⟨-, -, -, heq⟩ | ⟨-, heq⟩ := cleanStep_cases absolute done c
  · rw [heq]
    exact h.foldl_eq
  · -- the name that is taken away was added to what is left
    have hadded := h.foldl_eq
    rw [List.reverse_cons, List.foldl_append, List.foldl_cons, List.foldl_nil] at hadded
    obtain ⟨hskip, -⟩ | ⟨hd, -⟩ | ⟨hd, -⟩ | ⟨-, hkeep⟩ :=
      cleanStep_cases absolute (r.reverse.foldl (Path.cleanStep absolute) []) d
    · exact absurd hskip (h.ne_skip d List.mem_cons_self)
    · exact absurd hd hup
    · exact absurd hd hup
    · rw [heq]
      exact (List.cons.inj (hkeep.symm.trans hadded)).2
  · rw [heq]
    rfl
  · conv_lhs => rw [heq]
    rw [List.reverse_cons, List.foldl_append, h.foldl_eq]
    rfl

theorem components_append_name (hslash : '/' ∉ n.toList) (p : String) :
    components (p ++ "/" ++ n) = components p ++ [n.toList] := by
  rw [components, String.toList_append, String.toList_append, List.append_assoc]
  change Text.splitOn '/' (p.toList ++ '/' :: n.toList) = _
  rw [Text.splitOn_append_sep, Text.splitOn_of_notMem hslash]
  rfl

theorem isAbsolute_append (hp : p ≠ "") (s : String) : isAbsolute (p ++ s) = isAbsolute p := by
  unfold isAbsolute
  rw [String.toList_append]
  cases hlist : p.toList with
  | nil => exact absurd (String.toList_injective hlist) hp
  | cons c r => rfl

theorem append_ne_empty (hp : p ≠ "") (s : String) : p ++ s ≠ "" := by
  intro hempty
  have hlist := congrArg String.toList hempty
  rw [String.toList_append] at hlist
  exact hp (String.toList_injective (List.append_eq_nil_iff.mp hlist).1)

theorem kept_append_name (hp : p ≠ "") (hn : IsPlain n) : kept (p ++ "/" ++ n) = kept p ++ [n.toList] := by
  rw [kept, components_append_name hn.no_slash, String.append_assoc, isAbsolute_append hp, List.foldl_append,
    List.foldl_cons, List.foldl_nil, cleanStep_name hn, List.reverse_cons]
  rfl

theorem join_eq (hp : p ≠ "") (hn : IsPlain n) : join p n = clean (p ++ "/" ++ n) := by
  rw [join, if_neg hp, if_neg hn.ne_empty]

/-- The path of names below a directory. -/
def below (dir : String) (names : List String) : String := names.foldl (fun p n => p ++ "/" ++ n) dir

theorem isAbsolute_below (hp : p ≠ "") (rel : List String) : isAbsolute (below p rel) = isAbsolute p := by
  induction rel generalizing p with
  | nil => rfl
  | cons n rel ih =>
    refine (ih (append_ne_empty (append_ne_empty hp "/") n)).trans ?_
    rw [isAbsolute_append (append_ne_empty hp "/"), isAbsolute_append hp]

theorem kept_below (hp : p ≠ "") (hrel : ∀ n ∈ rel, IsPlain n) :
    kept (below p rel) = kept p ++ rel.map String.toList := by
  induction rel generalizing p with
  | nil => exact (List.append_nil _).symm
  | cons n rel ih =>
    obtain ⟨hn, hrels⟩ := List.forall_mem_cons.mp hrel
    refine (ih (append_ne_empty (append_ne_empty hp "/") n) hrels).trans ?_
    rw [kept_append_name hp hn, List.append_assoc]
    rfl

theorem components_clean_below (hp : p ≠ "") (hrel : ∀ n ∈ rel, IsPlain n) (hne : rel ≠ []) :
    components (clean (below p rel)) =
      (if isAbsolute p then [[]] else []) ++ (kept p ++ rel.map String.toList) := by
  have hkept : kept p ++ rel.map String.toList ≠ [] := by simp [hne]
  rw [components_clean, isAbsolute_below hp, kept_below hp hrel, if_neg hkept]

/-! ## Sizes -/

/-- The room that components take in a path, each with the slash after it. -/
def room : List (List Char) → Nat
  | [] => 0
  | c :: cs => Text.byteLength c + 1 + room cs

theorem mem_clean {x : Char} (h : x ∈ (clean p).toList) : x = '/' ∨ x = '.' ∨ x ∈ p.toList := by
  have hbody (hx : x ∈ Text.joinWith ['/'] (kept p)) : x = '/' ∨ x = '.' ∨ x ∈ p.toList := by
    rcases Text.mem_joinWith hx with hx | ⟨c, hc, hx⟩
    · exact .inl (List.mem_singleton.mp hx)
    · exact .inr (.inr (Text.mem_of_mem_splitOn (mem_kept hc).1 hx))
  rw [clean_eq] at h
  split_ifs at h with habsolute hempty
  · rw [String.toList_ofList] at h
    exact (List.mem_cons.mp h).elim .inl hbody
  · exact .inr (.inl (List.mem_singleton.mp h))
  · rw [String.toList_ofList] at h
    exact hbody h

end Path

/-! ## Looking up -/

namespace FileTree

open FileNode (child? get?_concat_of_dir)
open JavaReview.Path (IsPlain kept below)

/-- What the name of an entry of a directory can be. -/
structure IsName (n : String) : Prop extends IsPlain n where
  no_null : Char.ofNat 0 ∉ n.toList
  short : byteSize n ≤ maxNameBytes

theorem IsName.reaches {n : String} {rights : List String → Rights} {above : Above} (h : IsName n)
    (hpass : (rights (namesOf above)).pass = true) : Reaches rights above n :=
  ⟨hpass, h.ne_empty, h.ne_dot, h.ne_up, h.short⟩

variable {t : FileTree} {u v w : FileNode} {path name : String} {place rel : List String}
  {above above' mid : Above} {es : List (String × FileNode)} {rights : List String → Rights}

theorem checkedComponents_eq_ok_iff {cs : List String} : checkedComponents path = .ok cs ↔
    Char.ofNat 0 ∉ path.toList ∧ path ≠ "" ∧ byteSize path ≤ maxPathBytes ∧
      (Path.components path).map String.ofList = cs := by
  unfold checkedComponents
  split_ifs with hnull hempty hlong
  · simp_all
  · simp_all
  · exact iff_of_false nofun fun h => Nat.not_lt.mpr h.2.2.1 hlong
  · simp_all

theorem follow_concat_eq_ok {cs : List String} {c : String}
    (h : follow rights above u (cs ++ [c]) = .ok (above', v)) :
    ∃ mid es, follow rights above u cs = .ok (mid, .dir es) ∧ Finds rights es mid c above' v := by
  induction cs generalizing above u with
  | nil =>
    obtain ⟨es, mid, w, rfl, hfinds, hrest⟩ := follow_cons_eq_ok h
    cases hrest
    exact ⟨above, es, rfl, hfinds⟩
  | cons d cs ih =>
    obtain ⟨es, mid, w, rfl, hfinds, hrest⟩ := follow_cons_eq_ok h
    obtain ⟨mid', es', hfollow, hlast⟩ := ih hrest
    exact ⟨mid', es', by rw [follow_cons_of_finds hfinds, hfollow], hlast⟩

theorem Finds.pass {c : String} (h : Finds rights es above c above' u) (hc : c ≠ "") :
    (rights (namesOf above)).pass = true := by
  cases h with
  | stay => exact absurd rfl hc
  | dot hpass => exact hpass
  | top hpass => exact hpass
  | up hpass => exact hpass
  | down hpass => exact hpass

theorem Finds.of_stay {c : String} (h : Finds rights es above c above' u) (hc : c = "" ∨ c = ".") :
    above' = above ∧ u = .dir es := by
  cases h with
  | stay => exact ⟨rfl, rfl⟩
  | dot => exact ⟨rfl, rfl⟩
  | top => exact ⟨rfl, rfl⟩
  | up => exact absurd hc (by decide)
  | down _ hempty hdot => exact absurd hc (not_or.mpr ⟨hempty, hdot⟩)

theorem Finds.of_up {c : String} (h : Finds rights es above c above' u) (hc : c = "..") :
    above = [] ∧ above' = [] ∧ u = .dir es ∨ ∃ n, above = (n, u) :: above' := by
  cases h with
  | stay => exact absurd hc (by decide)
  | dot => exact absurd hc (by decide)
  | top => exact .inl ⟨rfl, rfl, rfl⟩
  | up => exact .inr ⟨_, rfl⟩
  | down _ _ _ hup => exact absurd hc hup

theorem Finds.of_name {c : String} (h : Finds rights es above c above' u) (hc : ¬ (c = "" ∨ c = "."))
    (hup : c ≠ "..") : above' = (c, .dir es) :: above ∧ child? c es = some u := by
  cases h with
  | stay => exact absurd (.inl rfl) hc
  | dot => exact absurd (.inr rfl) hc
  | top => exact absurd rfl hup
  | up => exact absurd rfl hup
  | down _ _ _ _ _ hchild => exact ⟨rfl, hchild⟩

/-- One more component leads on from where those that are left so far lead. -/
theorem follow_cleanStep {absolute : Bool} {done : List (List Char)} {c : List Char}
    (hroot : absolute = true → above = []) (hdone : ∀ d ∈ done, ¬ (d = [] ∨ d = ['.']))
    (h : follow rights above u (done.reverse.map String.ofList) = .ok (mid, .dir es))
    (hfinds : Finds rights es mid (String.ofList c) above' v) :
    follow rights above u ((Path.cleanStep absolute done c).reverse.map String.ofList) = .ok (above', v) := by
  obtain ⟨hskip, heq⟩ | ⟨rfl, d, r, rfl, hup, heq⟩ | ⟨rfl, rfl, habsolute, heq⟩ | ⟨-, heq⟩ :=
    Path.cleanStep_cases absolute done c
  · have hstay : String.ofList c = "" ∨ String.ofList c = "." := by
      rcases hskip with rfl | rfl
      · exact .inl rfl
      · exact .inr rfl
    obtain ⟨rfl, rfl⟩ := hfinds.of_stay hstay
    rw [heq, h]
  · -- going down by a name and up again
    rw [List.reverse_cons, List.map_append] at h
    obtain ⟨mid', es', hfollow, hlast⟩ := follow_concat_eq_ok h
    have hname {x : List Char} (hx : d ≠ x) : String.ofList d ≠ String.ofList x :=
      fun hsame => hx (String.ofList_injective hsame)
    have hd := not_or.mp (hdone d List.mem_cons_self)
    obtain ⟨rfl, -⟩ := hlast.of_name (not_or.mpr ⟨hname hd.1, hname hd.2⟩) (hname hup)
    rw [heq, hfollow]
    obtain ⟨hnil, -⟩ | ⟨n, hcons⟩ := hfinds.of_up rfl
    · cases hnil
    · cases hcons
      rfl
  · cases h
    obtain ⟨-, rfl, rfl⟩ | ⟨n, hcons⟩ := hfinds.of_up rfl
    · rw [heq, hroot habsolute]
      rfl
    · rw [hroot habsolute] at hcons
      cases hcons
  · rw [heq, List.reverse_cons, List.map_append, follow_append h, List.map_singleton,
      follow_cons_of_finds hfinds]
    rfl

theorem follow_foldl_cleanStep {absolute : Bool} {done : List (List Char)} {cs : List (List Char)}
    (hroot : absolute = true → above = []) (hdone : ∀ d ∈ done, ¬ (d = [] ∨ d = ['.']))
    (h : follow rights above u (done.reverse.map String.ofList) = .ok (mid, v))
    (hcs : follow rights mid v (cs.map String.ofList) = .ok (above', w)) :
    follow rights above u ((cs.foldl (Path.cleanStep absolute) done).reverse.map String.ofList) =
      .ok (above', w) := by
  induction cs generalizing done mid v with
  | nil =>
    cases hcs
    exact h
  | cons c cs ih =>
    obtain ⟨es, next, x, rfl, hfinds, hrest⟩ := follow_cons_eq_ok hcs
    refine ih (fun d hd => ?_) (follow_cleanStep hroot hdone h hfinds) hrest
    exact (Path.mem_cleanStep hd).elim (fun ⟨hdc, hskip⟩ => hdc ▸ hskip) (hdone d)

/-- What is left of a path leads where the path leads. -/
theorem followFrom_kept (h : t.followFrom path ((Path.components path).map String.ofList) = .ok (above, u)) :
    t.followFrom path ((kept path).map String.ofList) = .ok (above, u) := by
  obtain ⟨mid, v, hstart, hfollow⟩ := followFrom_eq_ok_iff.mp h
  have hroot : Path.isAbsolute path = true → mid = [] := by
    intro habsolute
    have hnames := (leads_of_start hstart).2
    rw [startNames, if_pos habsolute] at hnames
    simpa [namesOf] using hnames
  exact followFrom_eq_ok_iff.mpr ⟨mid, v, hstart,
    follow_foldl_cleanStep hroot (by simp) rfl hfollow⟩

theorem followFrom_congr {p q : String} (h : Path.isAbsolute p = Path.isAbsolute q) (cs : List String) :
    t.followFrom p cs = t.followFrom q cs := by
  rw [followFrom, followFrom, start, start, h]

/-- A directory is where a path starts that leads anywhere. -/
theorem exists_start_of_followFrom
    (h : t.followFrom path ((Path.components path).map String.ofList) = .ok (above, u)) :
    ∃ mid es, t.start path = .ok (mid, .dir es) ∧
      (path ≠ "" → Path.isAbsolute path = false → (t.rights (namesOf mid)).pass = true) := by
  obtain ⟨mid, v, hstart, hfollow⟩ := followFrom_eq_ok_iff.mp h
  cases hparts : Path.components path with
  | nil => exact absurd hparts (Text.splitOn_ne_nil _ _)
  | cons c r =>
    rw [hparts, List.map_cons] at hfollow
    obtain ⟨es, next, w, rfl, hfinds, -⟩ := follow_cons_eq_ok hfollow
    refine ⟨mid, es, hstart, fun hne hrelative => hfinds.pass fun hempty => ?_⟩
    have hc : c = [] := String.ofList_eq_empty_iff.mp hempty
    have habsolute := Path.isAbsolute_iff.mpr ⟨hne, by rw [hparts, hc]; rfl⟩
    rw [hrelative] at habsolute
    cases habsolute

/-- The empty component at the start of an absolute path leads nowhere else. -/
theorem followFrom_leading (hstart : t.start path = .ok (mid, .dir es)) (absolute : Bool)
    (cs : List (List Char)) : t.followFrom path (((if absolute then [[]] else []) ++ cs).map String.ofList) =
      t.followFrom path (cs.map String.ofList) := by
  cases absolute with
  | false => rfl
  | true =>
    simp only [followFrom, hstart, bind, Except.bind, if_true, List.singleton_append, List.map_cons]
    exact follow_cons_of_finds .stay _

theorem followFrom_clean (hne : path ≠ "")
    (h : t.followFrom path ((Path.components path).map String.ofList) = .ok (above, u)) :
    t.followFrom (Path.clean path) ((Path.components (Path.clean path)).map String.ofList) =
      .ok (above, u) := by
  obtain ⟨mid, es, hstart, hpass⟩ := exists_start_of_followFrom h
  have hkept := followFrom_kept h
  rw [followFrom_congr (Path.isAbsolute_clean path), Path.components_clean]
  by_cases hnone : kept path = []
  · rw [hnone] at hkept ⊢
    obtain ⟨mid', v, hstart', hhere⟩ := followFrom_eq_ok_iff.mp hkept
    cases hhere
    cases hstart.symm.trans hstart'
    refine followFrom_eq_ok_iff.mpr ⟨_, _, hstart, ?_⟩
    cases habsolute : Path.isAbsolute path with
    | true => rfl
    | false => exact follow_cons_of_finds (.dot (hpass hne habsolute)) []
  · rw [if_neg hnone, followFrom_leading hstart, hkept]

/-- The names below a path are followed from where the path leads. -/
theorem followFrom_clean_below (hne : path ≠ "") (hrel : ∀ n ∈ rel, IsPlain n) (hsome : rel ≠ [])
    (h : t.followFrom path ((Path.components path).map String.ofList) = .ok (above, u)) :
    t.followFrom (Path.clean (below path rel)) ((Path.components (Path.clean (below path rel))).map
      String.ofList) = follow t.rights above u rel := by
  obtain ⟨mid, es, hstart, -⟩ := exists_start_of_followFrom h
  have hnames : (rel.map String.toList).map String.ofList = rel := by simp [Function.comp_def]
  have habsolute : Path.isAbsolute (Path.clean (below path rel)) = Path.isAbsolute path := by
    rw [Path.isAbsolute_clean, Path.isAbsolute_below hne]
  rw [followFrom_congr habsolute, Path.components_clean_below hne hrel hsome, followFrom_leading hstart,
    List.map_append, hnames, followFrom_append (followFrom_kept h)]

theorem ne_empty_of_locate (h : t.locate path = .ok (place, u)) : path ≠ "" := by
  obtain ⟨cs, above, hcs, -⟩ := locate_eq_ok_iff.mp h
  exact (checkedComponents_eq_ok_iff.mp hcs).2.1

theorem null_notMem_clean (h : Char.ofNat 0 ∉ path.toList) : Char.ofNat 0 ∉ (Path.clean path).toList := by
  intro hmem
  rcases Path.mem_clean hmem with hx | hx | hx
  · exact absurd hx (by decide)
  · exact absurd hx (by decide)
  · exact h hx

theorem forall_prefix_nil {P : List String → Prop} (dir : List String) (h : dir <+: []) (hne : dir ≠ []) :
    P dir :=
  absurd (List.prefix_nil.mp h) hne

theorem forall_prefix_cons {P : List String → Prop} {n : String} :
    (∀ dir, dir <+: n :: rel → dir ≠ n :: rel → P dir) ↔
      P [] ∧ ∀ dir, dir <+: rel → dir ≠ rel → P (n :: dir) := by
  constructor
  · intro h
    refine ⟨h [] List.nil_prefix (by simp), fun dir hdir hne => h (n :: dir) ?_ (by simpa using hne)⟩
    exact List.cons_prefix_cons.mpr ⟨rfl, hdir⟩
  · rintro ⟨hnil, hcons⟩ dir hdir hne
    cases dir with
    | nil => exact hnil
    | cons m dir =>
      obtain ⟨rfl, hrest⟩ := List.cons_prefix_cons.mp hdir
      exact hcons dir hrest (by simpa using hne)

/-- Names are followed to what is there, if the directories on the way can be passed. -/
theorem follow_names_iff (hrel : ∀ n ∈ rel, IsName n) :
    (∃ above', follow rights above u rel = .ok (above', v) ∧ namesOf above' = place) ↔
      place = namesOf above ++ rel ∧ u.get? rel = some v ∧
        ∀ dir, dir <+: rel → dir ≠ rel → (rights (namesOf above ++ dir)).pass = true := by
  induction rel generalizing above u with
  | nil =>
    simp only [follow, FileNode.get?, List.append_nil, Except.ok.injEq, Prod.mk.injEq, Option.some.injEq,
      iff_true_intro forall_prefix_nil, and_true]
    constructor
    · rintro ⟨_, ⟨rfl, rfl⟩, rfl⟩
      exact ⟨rfl, rfl⟩
    · rintro ⟨rfl, rfl⟩
      exact ⟨above, ⟨rfl, rfl⟩, rfl⟩
  | cons n rel ih =>
    obtain ⟨hn, hrels⟩ := List.forall_mem_cons.mp hrel
    rw [forall_prefix_cons, List.append_nil]
    constructor
    · rintro ⟨above', hfollow, hplace⟩
      obtain ⟨es, mid, w, rfl, hfinds, hrest⟩ := follow_cons_eq_ok hfollow
      obtain ⟨rfl, hchild⟩ := hfinds.of_name (not_or.mpr ⟨hn.ne_empty, hn.ne_dot⟩) hn.ne_up
      have hdone := (ih hrels).mp ⟨above', hrest, hplace⟩
      simp only [namesOf_cons, List.append_assoc, List.singleton_append] at hdone
      exact ⟨hdone.1, Option.bind_eq_some_iff.mpr ⟨w, hchild, hdone.2.1⟩, hfinds.pass hn.ne_empty, hdone.2.2⟩
    · rintro ⟨hplace, hget, hpass, hpasses⟩
      cases u with
      | file text => cases hget
      | dir es =>
        obtain ⟨w, hchild, hrest⟩ := Option.bind_eq_some_iff.mp hget
        rw [follow_cons_of_finds ((hn.reaches hpass).finds hchild)]
        refine (ih hrels).mpr ?_
        simp only [namesOf_cons, List.append_assoc, List.singleton_append]
        exact ⟨hplace, hrest, hpasses⟩

theorem null_notMem_below (hnull : Char.ofNat 0 ∉ path.toList) (hrel : ∀ n ∈ rel, IsName n) :
    Char.ofNat 0 ∉ (below path rel).toList := by
  induction rel generalizing path with
  | nil => exact hnull
  | cons n rel ih =>
    obtain ⟨hn, hrels⟩ := List.forall_mem_cons.mp hrel
    refine ih ?_ hrels
    simp only [String.toList_append, List.mem_append, not_or]
    exact ⟨⟨hnull, by decide⟩, hn.no_null⟩

/-- Where the path of names below a path leads: further down, if it is short enough and the directories on
the way can be passed. -/
theorem locate_clean_below_iff {place' : List String} (h : t.locate path = .ok (place, u))
    (hrel : ∀ n ∈ rel, IsName n) : t.locate (Path.clean (below path rel)) = .ok (place', v) ↔
      byteSize (Path.clean (below path rel)) ≤ maxPathBytes ∧ place' = place ++ rel ∧
        u.get? rel = some v ∧ ∀ dir, dir <+: rel → dir ≠ rel → (t.rights (place ++ dir)).pass = true := by
  obtain ⟨cs, above, hcs, hfollow, rfl⟩ := locate_eq_ok_iff.mp h
  obtain ⟨hnull, hne, hsize, rfl⟩ := checkedComponents_eq_ok_iff.mp hcs
  have hplain : ∀ n ∈ rel, IsPlain n := fun n hn => (hrel n hn).toIsPlain
  have hbelow : t.followFrom (Path.clean (below path rel))
      ((Path.components (Path.clean (below path rel))).map String.ofList) =
        follow t.rights above u rel := by
    by_cases hsome : rel = []
    · rw [hsome]
      exact followFrom_clean hne hfollow
    · exact followFrom_clean_below hne hplain hsome hfollow
  have hnull' := null_notMem_clean (null_notMem_below hnull hrel)
  rw [← follow_names_iff hrel, locate_eq_ok_iff]
  constructor
  · rintro ⟨cs, above', hcs', hfound, hplace⟩
    obtain ⟨-, -, hshort, rfl⟩ := checkedComponents_eq_ok_iff.mp hcs'
    exact ⟨hshort, above', hbelow.symm.trans hfound, hplace⟩
  · rintro ⟨hshort, above', hfound, hplace⟩
    exact ⟨_, above', checkedComponents_eq_ok_iff.mpr ⟨hnull', Path.clean_ne_empty _, hshort, rfl⟩,
      hbelow.trans hfound, hplace⟩

theorem locate_join_iff {place' : List String} (h : t.locate path = .ok (place, u)) (hname : IsName name) :
    t.locate (Path.join path name) = .ok (place', v) ↔ byteSize (Path.join path name) ≤ maxPathBytes ∧
      place' = place ++ [name] ∧ u.get? [name] = some v ∧ (t.rights place).pass = true := by
  have hnames : ∀ n ∈ [name], IsName n := by simpa using hname
  rw [Path.join_eq (ne_empty_of_locate h) hname.toIsPlain]
  refine (locate_clean_below_iff h hnames).trans ?_
  rw [forall_prefix_cons, List.append_nil, iff_true_intro forall_prefix_nil, and_true]
  rfl

end FileTree

end JavaReview
