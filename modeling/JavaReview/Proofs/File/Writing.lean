import JavaReview.File.Tree
import Mathlib.Data.List.Basic

/-!
What writing leaves of a tree of files. Putting a node where no directory is keeps all directories and
all other files (`FileNode.keeps_put`), so making directories keeps every file
(`FileTree.keeps_makeDirs`) and writing a file every other one (`FileTree.keeps_write`). A path leads to
the same place as long as the directories are kept (`FileTree.locate_of_write`).
-/

namespace JavaReview

namespace FileNode

variable {t t' t'' : FileNode} {es : List (String × FileNode)} {n m : String}

/-! ## Nodes by names -/

theorem child?_putChild_self (n : String) (u : FileNode) (es : List (String × FileNode)) :
    child? n (putChild n u es) = some u := by
  induction es with
  | nil => simp [putChild, child?]
  | cons e es ih =>
    obtain ⟨m, v⟩ := e
    by_cases h : m = n <;> simp [putChild, child?, h, ih]

theorem child?_putChild_of_ne (h : m ≠ n) (u : FileNode) (es : List (String × FileNode)) :
    child? m (putChild n u es) = child? m es := by
  induction es with
  | nil => simp [putChild, child?, h.symm]
  | cons e es ih =>
    obtain ⟨k, v⟩ := e
    by_cases hk : k = n
    · subst hk
      simp [putChild, child?, h.symm]
    · simp [putChild, child?, hk, ih]

theorem get?_put_cons_self {u : FileNode} (h : child? n es = some u) (p q : List String) (node : FileNode) :
    ((dir es).put (n :: p) node).get? (n :: q) = (u.put p node).get? q := by
  rw [put, get?, child?_putChild_self, h]
  rfl

theorem get?_put_cons_of_ne (h : m ≠ n) (p q : List String) (node : FileNode) :
    ((dir es).put (n :: p) node).get? (m :: q) = (dir es).get? (m :: q) := by
  rw [put, get?, child?_putChild_of_ne h]
  rfl

theorem get?_append (t : FileNode) (p q : List String) :
    t.get? (p ++ q) = (t.get? p).bind (·.get? q) := by
  induction p generalizing t with
  | nil => rfl
  | cons n p ih =>
    cases t with
    | file text => rfl
    | dir es =>
      rw [List.cons_append, get?, get?]
      cases child? n es with
      | none => rfl
      | some u => exact ih u

theorem get?_concat_of_dir {p : List String} (h : t.get? p = some (.dir es)) (n : String) :
    t.get? (p ++ [n]) = child? n es := by
  rw [get?_append, h, Option.bind_some, get?]
  cases child? n es <;> rfl

theorem get?_put_concat {p : List String} (h : t.get? p = some (.dir es)) (n : String)
    (node : FileNode) : (t.put (p ++ [n]) node).get? (p ++ [n]) = some node := by
  induction p generalizing t with
  | nil =>
    cases h
    simp [put, get?, child?_putChild_self]
  | cons m p ih =>
    cases t with
    | file text => cases h
    | dir fs =>
      rw [get?] at h
      obtain ⟨u, hu, h⟩ := Option.bind_eq_some_iff.mp h
      rw [List.cons_append, get?_put_cons_self hu]
      exact ih h

/-! ## What is kept -/

/-- All directories are kept, and all files that are not at the places that were written. -/
structure Keeps (written : List (List String)) (t t' : FileNode) : Prop where
  dirs : ∀ p es, t.get? p = some (.dir es) → ∃ es', t'.get? p = some (.dir es')
  files : ∀ p text, p ∉ written → t.get? p = some (.file text) → t'.get? p = some (.file text)

/-- A node that is put where no directory is. -/
theorem keeps_put {p : List String} (h : ∀ es, t.get? p ≠ some (.dir es)) (node : FileNode) :
    Keeps [p] t (t.put p node) := by
  induction p generalizing t with
  | nil =>
    cases t with
    | dir es => exact absurd rfl (h es)
    | file text =>
      constructor
      · intro q es hq
        cases q <;> cases hq
      · intro q text hne hq
        cases q with
        | nil => exact absurd (List.mem_singleton.mpr rfl) hne
        | cons => cases hq
  | cons n p ih =>
    cases t with
    | file text => exact ⟨fun _ es h => ⟨es, h⟩, fun _ _ _ h => h⟩
    | dir es =>
      -- below another name nothing changes, and below this one the entry was there
      have hchild {q : List String} {v : FileNode} (hq : (FileNode.dir es).get? (n :: q) = some v) :
          ∃ u, child? n es = some u ∧ u.get? q = some v ∧ Keeps [p] u (u.put p node) := by
        obtain ⟨u, hu, hq⟩ := Option.bind_eq_some_iff.mp hq
        refine ⟨u, hu, hq, ih fun fs hfs => h fs ?_⟩
        rw [get?, hu]
        exact hfs
      constructor
      · intro q fs hq
        cases q with
        | nil => exact ⟨_, rfl⟩
        | cons m q =>
          by_cases hm : m = n
          · subst hm
            obtain ⟨u, hu, hq, hkeeps⟩ := hchild hq
            rw [get?_put_cons_self hu]
            exact hkeeps.dirs q fs hq
          · rw [get?_put_cons_of_ne hm]
            exact ⟨fs, hq⟩
      · intro q text hne hq
        cases q with
        | nil => cases hq
        | cons m q =>
          by_cases hm : m = n
          · subst hm
            obtain ⟨u, hu, hq, hkeeps⟩ := hchild hq
            rw [get?_put_cons_self hu]
            exact hkeeps.files q text (fun hmem => hne (by simpa using hmem)) hq
          · rw [get?_put_cons_of_ne hm]
            exact hq

end FileNode

namespace FileTree

open FileNode (child? get?_concat_of_dir get?_put_concat)

variable {t t' t'' : FileTree} {u v : FileNode} {es : List (String × FileNode)}

/-- All directories are kept, with what may be done there, and all files that are not at the places that
were written. -/
structure Keeps (written : List (List String)) (t t' : FileTree) : Prop
    extends FileNode.Keeps written t.root t'.root where
  workingDir_eq : t'.workingDir = t.workingDir
  rights_eq : ∀ p es, t.root.get? p = some (.dir es) → t'.rights p = t.rights p

theorem Keeps.refl (t : FileTree) : Keeps [] t t :=
  ⟨⟨fun _ es h => ⟨es, h⟩, fun _ _ _ h => h⟩, rfl, fun _ _ _ => rfl⟩

theorem Keeps.trans {written written' : List (List String)} (h : Keeps written t t')
    (h' : Keeps written' t' t'') : Keeps (written ++ written') t t'' where
  dirs p es hp := by
    obtain ⟨es', hp'⟩ := h.dirs p es hp
    exact h'.dirs p es' hp'
  files p text hne hp := by
    rw [List.mem_append, not_or] at hne
    exact h'.files p text hne.2 (h.files p text hne.1 hp)
  workingDir_eq := h'.workingDir_eq.trans h.workingDir_eq
  rights_eq p es hp := by
    obtain ⟨es', hp'⟩ := h.dirs p es hp
    rw [h'.rights_eq p es' hp', h.rights_eq p es hp]

/-- A file that is written where a file was. -/
theorem keeps_put {p : List String} (h : ∀ es, t.root.get? p ≠ some (.dir es)) (node : FileNode) :
    Keeps [p] t (t.put p node) :=
  ⟨FileNode.keeps_put h node, rfl, fun _ _ _ => rfl⟩

/-- A node that is made where nothing was. -/
theorem keeps_make {p : List String} (h : t.root.get? p = none) (node : FileNode) :
    Keeps [] t (t.make p node) := by
  have hkeeps := FileNode.keeps_put (t := t.root) (p := p) (by simp [h]) node
  refine ⟨⟨hkeeps.dirs, fun q text _ hq => hkeeps.files q text ?_ hq⟩, rfl, fun q es hq => ?_⟩
  · rw [List.mem_singleton]
    rintro rfl
    rw [h] at hq
    cases hq
  · refine if_neg ?_
    rintro rfl
    rw [h] at hq
    cases hq

/-! ## Following a path -/

/-- The nodes above a node, as they are found on the way there from the top. -/
inductive Leads (top : FileNode) : Above → FileNode → Prop
  | top : Leads top [] top
  | child {above : Above} {es : List (String × FileNode)} {n : String} {t : FileNode} :
      Leads top above (.dir es) → child? n es = some t → Leads top ((n, .dir es) :: above) t

variable {top : FileNode} {above above' : Above} {rights : List String → Rights}

theorem namesOf_cons (e : String × FileNode) (above : Above) :
    namesOf (e :: above) = namesOf above ++ [e.1] := by
  simp [namesOf]

theorem Leads.get?_namesOf (h : Leads top above u) : top.get? (namesOf above) = some u := by
  induction h with
  | top => rfl
  | child _ hchild ih => rw [namesOf_cons, get?_concat_of_dir ih, hchild]

theorem Leads.up {e : String × FileNode} (h : Leads top (e :: above) u) : Leads top above e.2 := by
  cases h with
  | child habove => exact habove

theorem Leads.descend {names : List String} (h : Leads top above u)
    (hdescend : FileTree.descend above u names = some (above', v)) :
    Leads top above' v ∧ namesOf above' = namesOf above ++ names := by
  induction names generalizing above u with
  | nil =>
    cases hdescend
    exact ⟨h, (List.append_nil _).symm⟩
  | cons n names ih =>
    cases u with
    | file text => cases hdescend
    | dir es =>
      obtain ⟨w, hchild, hrest⟩ := Option.bind_eq_some_iff.mp hdescend
      have hdone := ih (h.child hchild) hrest
      rwa [namesOf_cons, List.append_assoc] at hdone

theorem exists_descend {names : List String} (h : u.get? names = some v) (above : Above) :
    ∃ above', descend above u names = some (above', v) := by
  induction names generalizing above u with
  | nil =>
    cases h
    exact ⟨above, rfl⟩
  | cons n names ih =>
    cases u with
    | file text => cases h
    | dir es =>
      obtain ⟨w, hchild, hrest⟩ := Option.bind_eq_some_iff.mp h
      obtain ⟨above', hdescend⟩ := ih hrest ((n, .dir es) :: above)
      exact ⟨above', Option.bind_eq_some_iff.mpr ⟨w, hchild, hdescend⟩⟩

/-- What looking up a component in a directory can do: stay there, go up if there is anything above, or
go down to an entry. All but the empty component need the right to pass. -/
inductive Finds (rights : List String → Rights) (es : List (String × FileNode)) :
    Above → String → Above → FileNode → Prop
  | stay {above : Above} : Finds rights es above "" above (.dir es)
  | dot {above : Above} : (rights (namesOf above)).pass = true → Finds rights es above "." above (.dir es)
  | top : (rights []).pass = true → Finds rights es [] ".." [] (.dir es)
  | up {above : Above} {n : String} {t : FileNode} : (rights (namesOf ((n, t) :: above))).pass = true →
      Finds rights es ((n, t) :: above) ".." above t
  | down {above : Above} {c : String} {t : FileNode} : (rights (namesOf above)).pass = true →
      c ≠ "" → c ≠ "." → c ≠ ".." → byteSize c ≤ maxNameBytes → child? c es = some t →
      Finds rights es above c ((c, .dir es) :: above) t

theorem Finds.lookup_eq {c : String} (h : Finds rights es above c above' u) :
    lookup rights c above (.dir es) = .ok (above', u) := by
  cases h with
  | stay => rfl
  | dot hpass => simp [lookup, hpass]
  | top hpass => simp [lookup, namesOf, hpass]
  | up hpass => simp [lookup, hpass]
  | down hpass hempty hdot hup hshort hchild =>
    simp [lookup, hpass, hempty, hdot, hup, Nat.not_lt.mpr hshort, hchild]

theorem finds_of_lookup {c : String} (h : lookup rights c above u = .ok (above', v)) :
    ∃ es, u = .dir es ∧ Finds rights es above c above' v := by
  cases u with
  | file text => cases h
  | dir es =>
    refine ⟨es, rfl, ?_⟩
    simp only [lookup, Bool.not_eq_true'] at h
    split_ifs at h with hempty hclosed hdot hup hlong
    · cases h
      subst hempty
      exact .stay
    all_goals have hpass := eq_true_of_ne_false hclosed
    · cases h
      subst hdot
      exact .dot hpass
    · subst hup
      cases above with
      | nil =>
        cases h
        exact .top hpass
      | cons e rest =>
        cases h
        exact .up hpass
    · cases hchild : child? c es with
      | none =>
        rw [hchild] at h
        cases h
      | some w =>
        rw [hchild] at h
        cases h
        exact .down hpass hempty hdot hup (Nat.le_of_not_lt hlong) hchild

theorem Leads.finds {c : String} (h : Leads top above (.dir es))
    (hfinds : Finds rights es above c above' v) : Leads top above' v := by
  cases hfinds with
  | stay => exact h
  | dot => exact h
  | top => exact h
  | up => exact h.up
  | down _ _ _ _ _ hchild => exact .child h hchild

theorem follow_cons_eq_ok {c : String} {cs : List String}
    (h : follow rights above u (c :: cs) = .ok (above', v)) : ∃ es mid w, u = .dir es ∧
      Finds rights es above c mid w ∧ follow rights mid w cs = .ok (above', v) := by
  rw [follow] at h
  split at h
  · cases h
  · next mid w hlookup =>
    obtain ⟨es, hes, hfinds⟩ := finds_of_lookup hlookup
    exact ⟨es, mid, w, hes, hfinds, h⟩

theorem follow_cons_of_finds {c : String} (h : Finds rights es above c above' u) (cs : List String) :
    follow rights above (.dir es) (c :: cs) = follow rights above' u cs := by
  rw [follow, h.lookup_eq]

theorem Leads.follow {cs : List String} (h : Leads top above u)
    (hfollow : FileTree.follow rights above u cs = .ok (above', v)) : Leads top above' v := by
  induction cs generalizing above u with
  | nil =>
    cases hfollow
    exact h
  | cons c cs ih =>
    obtain ⟨es, mid, w, rfl, hfinds, hrest⟩ := follow_cons_eq_ok hfollow
    exact ih (h.finds hfinds) hrest

theorem follow_append {cs : List String} (h : follow rights above u cs = .ok (above', v))
    (ds : List String) : follow rights above u (cs ++ ds) = follow rights above' v ds := by
  induction cs generalizing above u with
  | nil =>
    cases h
    rfl
  | cons d cs ih =>
    obtain ⟨es, mid, w, rfl, hfinds, hrest⟩ := follow_cons_eq_ok h
    rw [List.cons_append, follow_cons_of_finds hfinds]
    exact ih hrest

theorem follow_replicate_empty (rights : List String → Rights) (above : Above)
    (es : List (String × FileNode)) (k : Nat) :
    follow rights above (.dir es) (List.replicate k "") = .ok (above, .dir es) := by
  induction k with
  | zero => rfl
  | succ k ih => rw [List.replicate_succ, follow_cons_of_finds .stay, ih]

theorem isDir_of_follow {cs : List String} (h : follow rights above u cs = .ok (above', .dir es)) :
    ∃ es', u = .dir es' := by
  cases cs with
  | nil =>
    cases h
    exact ⟨es, rfl⟩
  | cons c cs =>
    obtain ⟨es', _, _, rfl, -⟩ := follow_cons_eq_ok h
    exact ⟨es', rfl⟩

theorem Keeps.isDir {written : List (List String)} (hkeeps : Keeps written t t')
    {below : Above} (h : Leads t.root above (.dir es)) (h' : Leads t'.root below u)
    (hnames : namesOf below = namesOf above) : ∃ es', u = .dir es' := by
  obtain ⟨es', hdir⟩ := hkeeps.dirs _ es h.get?_namesOf
  rw [← hnames, h'.get?_namesOf] at hdir
  exact ⟨es', Option.some.inj hdir⟩

/-- A path to a directory leads to the same place in a tree that keeps the directories. -/
theorem Keeps.follow {written : List (List String)} (hkeeps : Keeps written t t') {cs : List String}
    {below : Above} (h : Leads t.root above u) (h' : Leads t'.root below v)
    (hnames : namesOf below = namesOf above)
    (hfollow : FileTree.follow t.rights above u cs = .ok (above', .dir es)) :
    ∃ below' es', FileTree.follow t'.rights below v cs = .ok (below', .dir es') ∧
      namesOf below' = namesOf above' := by
  induction cs generalizing above u below v with
  | nil =>
    cases hfollow
    obtain ⟨es', rfl⟩ := hkeeps.isDir h h' hnames
    exact ⟨below, es', rfl, hnames⟩
  | cons c cs ih =>
    obtain ⟨fs, mid, w, rfl, hfinds, hrest⟩ := follow_cons_eq_ok hfollow
    obtain ⟨fs', rfl⟩ := hkeeps.isDir h h' hnames
    have hrights : t'.rights (namesOf below) = t.rights (namesOf above) := by
      rw [hnames, hkeeps.rights_eq _ fs h.get?_namesOf]
    cases hfinds with
    | stay =>
      rw [follow_cons_of_finds .stay]
      exact ih h h' hnames hrest
    | dot hpass =>
      rw [← hrights] at hpass
      rw [follow_cons_of_finds (.dot hpass)]
      exact ih h h' hnames hrest
    | top hpass =>
      cases below with
      | nil =>
        change (t.rights (namesOf [])).pass = true at hpass
        rw [← hrights] at hpass
        rw [follow_cons_of_finds (.top hpass)]
        exact ih h h' hnames hrest
      | cons e below =>
        rw [namesOf_cons] at hnames
        exact absurd hnames (by simp [namesOf])
    | up hpass =>
      cases below with
      | nil =>
        rw [namesOf_cons] at hnames
        exact absurd hnames.symm (by simp [namesOf])
      | cons e below =>
        rw [← hrights] at hpass
        rw [namesOf_cons, namesOf_cons] at hnames
        rw [follow_cons_of_finds (.up hpass)]
        exact ih h.up h'.up (List.append_inj_left' hnames rfl) hrest
    | down hpass hempty hdot hup hshort hchild =>
      rw [← hrights] at hpass
      obtain ⟨gs, rfl⟩ := isDir_of_follow hrest
      have hmid : Leads t.root ((c, .dir fs) :: above) (.dir gs) := h.child hchild
      obtain ⟨gs', hdir⟩ := hkeeps.dirs _ gs hmid.get?_namesOf
      rw [namesOf_cons, ← hnames, get?_concat_of_dir h'.get?_namesOf] at hdir
      rw [follow_cons_of_finds (.down hpass hempty hdot hup hshort hdir)]
      exact ih hmid (h'.child hdir) (by rw [namesOf_cons, namesOf_cons, hnames]) hrest

/-! ## Where a path starts -/

/-- The names that lead to where looking up a path starts. -/
def startNames (t : FileTree) (path : String) : List String :=
  if Path.isAbsolute path then [] else t.workingDir

theorem leads_of_start {path : String} (h : t.start path = .ok (above, u)) :
    Leads t.root above u ∧ namesOf above = t.startNames path := by
  unfold start at h
  split at h
  · cases h
  · next s hdescend =>
    cases h
    exact Leads.top.descend hdescend

theorem exists_start {path : String} (h : t.root.get? (t.startNames path) = some u) :
    ∃ above, t.start path = .ok (above, u) := by
  obtain ⟨above, hdescend⟩ := exists_descend h []
  rw [startNames] at hdescend
  exact ⟨above, by rw [start, hdescend]⟩

theorem followFrom_eq_ok_iff {path : String} {cs : List String} :
    t.followFrom path cs = .ok (above', v) ↔
      ∃ above u, t.start path = .ok (above, u) ∧ follow t.rights above u cs = .ok (above', v) := by
  unfold followFrom
  cases hstart : t.start path with
  | error e => simp [bind, Except.bind]
  | ok s =>
    obtain ⟨mid, w⟩ := s
    simp [bind, Except.bind]

theorem leads_of_followFrom {path : String} {cs : List String}
    (h : t.followFrom path cs = .ok (above, u)) : Leads t.root above u := by
  obtain ⟨mid, w, hstart, hfollow⟩ := followFrom_eq_ok_iff.mp h
  exact (leads_of_start hstart).1.follow hfollow

theorem followFrom_append {path : String} {cs : List String} (h : t.followFrom path cs = .ok (above, u))
    (ds : List String) : t.followFrom path (cs ++ ds) = follow t.rights above u ds := by
  obtain ⟨mid, w, hstart, hfollow⟩ := followFrom_eq_ok_iff.mp h
  simp only [followFrom, hstart, bind, Except.bind]
  exact follow_append hfollow ds

theorem Keeps.followFrom {written : List (List String)} (hkeeps : Keeps written t t') {path : String}
    {cs : List String} (h : t.followFrom path cs = .ok (above, .dir es)) :
    ∃ above' es', t'.followFrom path cs = .ok (above', .dir es') ∧ namesOf above' = namesOf above := by
  obtain ⟨mid, w, hstart, hfollow⟩ := followFrom_eq_ok_iff.mp h
  obtain ⟨hleads, hnames⟩ := leads_of_start hstart
  obtain ⟨fs, rfl⟩ := isDir_of_follow hfollow
  have hsame : t'.startNames path = t.startNames path := by rw [startNames, startNames, hkeeps.workingDir_eq]
  -- the directory where the path starts is kept
  obtain ⟨fs', hdir⟩ := hkeeps.dirs _ fs hleads.get?_namesOf
  rw [hnames, ← hsame] at hdir
  obtain ⟨mid', hstart'⟩ := exists_start hdir
  obtain ⟨hleads', hnames'⟩ := leads_of_start hstart'
  obtain ⟨above', es', hfollow', hplace⟩ := hkeeps.follow hleads hleads'
    (hnames'.trans (hsame.trans hnames.symm)) hfollow
  exact ⟨above', es', followFrom_eq_ok_iff.mpr ⟨mid', _, hstart', hfollow'⟩, hplace⟩

/-! ## Writing -/

theorem locate_eq_ok_iff {path : String} {place : List String} : t.locate path = .ok (place, u) ↔
    ∃ cs above, checkedComponents path = .ok cs ∧ t.followFrom path cs = .ok (above, u) ∧
      namesOf above = place := by
  unfold locate
  cases hcs : checkedComponents path with
  | error e => simp [bind, Except.bind]
  | ok cs =>
    simp only [bind, Except.bind]
    cases hfollow : t.followFrom path cs with
    | error e => simp [hfollow]
    | ok result =>
      obtain ⟨above, node⟩ := result
      simp [hfollow, pure, Except.pure, and_comm]

theorem parentOf_eq_ok {path name : String} (h : t.parentOf path = .ok (above, u, name)) :
    ∃ init, checkedComponents path = .ok (init ++ [name]) ∧ t.followFrom path init = .ok (above, u) := by
  unfold parentOf at h
  cases hcs : checkedComponents path with
  | error e =>
    rw [hcs] at h
    cases h
  | ok cs =>
    cases hreverse : cs.reverse with
    | nil =>
      simp only [hcs, bind, Except.bind, hreverse] at h
      cases h
    | cons last init =>
      cases hfollow : t.followFrom path init.reverse with
      | error e =>
        simp only [hcs, bind, Except.bind, hreverse, hfollow] at h
        cases h
      | ok result =>
        simp only [hcs, bind, Except.bind, hreverse, hfollow] at h
        cases h
        refine ⟨init.reverse, ?_, hfollow⟩
        rw [← List.reverse_reverse cs, hreverse, List.reverse_cons]

/-- A name that an entry of a directory can be given or found under. -/
structure Reaches (rights : List String → Rights) (above : Above) (name : String) : Prop where
  pass : (rights (namesOf above)).pass = true
  ne_empty : name ≠ ""
  ne_dot : name ≠ "."
  ne_up : name ≠ ".."
  short : byteSize name ≤ maxNameBytes

theorem Reaches.finds {name : String} (h : Reaches rights above name) (hchild : child? name es = some u) :
    Finds rights es above name ((name, .dir es) :: above) u :=
  .down h.pass h.ne_empty h.ne_dot h.ne_up h.short hchild

theorem Reaches.entry_eq {name : String} (h : Reaches rights above name) :
    entry rights above (.dir es) name = .ok (child? name es) := by
  cases hchild : child? name es with
  | none =>
    simp [entry, lookup, h.pass, h.ne_empty, h.ne_dot, h.ne_up, Nat.not_lt.mpr h.short, hchild]
  | some u => rw [entry, (h.finds hchild).lookup_eq]

/-- What is no directory is reached by a name of its own. -/
theorem Leads.reaches_of_entry {name : String} {o : Option FileNode} (h : Leads top above u)
    (hentry : entry rights above u name = .ok o) (ho : ∀ fs, o ≠ some (.dir fs)) :
    ∃ es, u = .dir es ∧ Reaches rights above name ∧ child? name es = o := by
  unfold entry at hentry
  split at hentry
  · next mid w hlookup =>
    cases hentry
    obtain ⟨es, rfl, hfinds⟩ := finds_of_lookup hlookup
    cases hfinds with
    | stay => exact absurd rfl (ho es)
    | dot => exact absurd rfl (ho es)
    | top => exact absurd rfl (ho es)
    | up =>
      cases h with
      | child habove => exact absurd rfl (ho _)
    | down hpass hempty hdot hup hshort hchild => exact ⟨es, rfl, ⟨hpass, hempty, hdot, hup, hshort⟩, hchild⟩
  · next hlookup =>
    cases hentry
    cases u with
    | file text => cases hlookup
    | dir es =>
      simp only [lookup, Bool.not_eq_true'] at hlookup
      split_ifs at hlookup with hempty hclosed hdot hup hlong
      · cases hlookup
      · split at hlookup <;> cases hlookup
      · cases hlookup
      · cases hchild : child? name es with
        | none =>
          exact ⟨es, rfl, ⟨eq_true_of_ne_false hclosed, hempty, hdot, hup, Nat.le_of_not_lt hlong⟩, hchild⟩
        | some w =>
          rw [hchild] at hlookup
          cases hlookup
  · cases hentry

theorem Leads.get?_placeBelow (h : Leads top above (.dir es)) (name : String) :
    top.get? (placeBelow above name) = child? name es :=
  get?_concat_of_dir h.get?_namesOf name

/-- How a file is written: its path leads to a directory where it replaces a file that can be read, or has
a name that is free. -/
theorem write_eq_ok {path text : String} {place : List String} (h : t.write path text = .ok (t', place)) :
    ∃ init name above es, checkedComponents path = .ok (init ++ [name]) ∧
      t.followFrom path init = .ok (above, .dir es) ∧ Reaches t.rights above name ∧
      place = placeBelow above name ∧
      ((∃ old, child? name es = some (.file old)) ∧ t' = t.put place (.file text) ∨
        child? name es = none ∧ t' = t.make place (.file text)) := by
  unfold write at h
  cases hparent : t.parentOf path with
  | error e =>
    rw [hparent] at h
    cases h
  | ok result =>
    obtain ⟨above, parent, name⟩ := result
    obtain ⟨init, hcs, hfollow⟩ := parentOf_eq_ok hparent
    have hleads := leads_of_followFrom hfollow
    rw [hparent] at h
    simp only at h
    split at h
    · cases h
    · cases h
    · next old hentry =>
      split at h
      · cases h
        obtain ⟨es, rfl, hreaches, hchild⟩ := hleads.reaches_of_entry hentry nofun
        exact ⟨init, name, above, es, hcs, hfollow, hreaches, rfl, .inl ⟨⟨old, hchild⟩, rfl⟩⟩
      · cases h
    · next hentry =>
      cases h
      obtain ⟨es, rfl, hreaches, hchild⟩ := hleads.reaches_of_entry hentry nofun
      exact ⟨init, name, above, es, hcs, hfollow, hreaches, rfl, .inr ⟨hchild, rfl⟩⟩

theorem keeps_write {path text : String} {place : List String} (h : t.write path text = .ok (t', place)) :
    Keeps [place] t t' ∧ t'.root.get? place = some (.file text) := by
  obtain ⟨init, name, above, es, -, hfollow, -, rfl, ⟨⟨old, hchild⟩, rfl⟩ | ⟨hfree, rfl⟩⟩ := write_eq_ok h
  all_goals
    have hleads := leads_of_followFrom hfollow
    refine ⟨?_, get?_put_concat hleads.get?_namesOf name _⟩
  · exact keeps_put (by simp [hleads.get?_placeBelow, hchild]) _
  · have hkeeps := keeps_make (t := t) ((hleads.get?_placeBelow name).trans hfree) (.file text)
    exact ⟨⟨hkeeps.dirs, fun p s _ => hkeeps.files p s (by simp)⟩, hkeeps.workingDir_eq, hkeeps.rights_eq⟩

/-- A name that was free in a directory, or that a file had, leads to what has it now, as long as the
directories are kept. -/
theorem Keeps.followFrom_concat {written : List (List String)} (hkeeps : Keeps written t t')
    {path name : String} {init : List String} (hfollow : t.followFrom path init = .ok (above, .dir es))
    (hreaches : Reaches t.rights above name) (hnode : t'.root.get? (placeBelow above name) = some u) :
    ∃ above', t'.followFrom path (init ++ [name]) = .ok (above', u) ∧
      namesOf above' = placeBelow above name := by
  obtain ⟨below, fs, hbelow, hnames⟩ := hkeeps.followFrom hfollow
  have hrights := hkeeps.rights_eq _ es (leads_of_followFrom hfollow).get?_namesOf
  rw [placeBelow, ← hnames, get?_concat_of_dir (leads_of_followFrom hbelow).get?_namesOf] at hnode
  rw [← hnames] at hrights
  have hreaches' : Reaches t'.rights below name := by
    refine ⟨?_, hreaches.ne_empty, hreaches.ne_dot, hreaches.ne_up, hreaches.short⟩
    rw [hrights, hnames]
    exact hreaches.pass
  refine ⟨(name, .dir fs) :: below, ?_, ?_⟩
  · rw [followFrom_append hbelow, follow_cons_of_finds (hreaches'.finds hnode)]
    rfl
  · rw [namesOf_cons, placeBelow, hnames]

/-- A path leads to the place where its file was written, as long as the directories are kept. -/
theorem locate_of_write {path text : String} {place : List String} (h : t.write path text = .ok (t', place))
    {written : List (List String)} (hkeeps : Keeps written t' t'') (hnode : t''.root.get? place = some u) :
    t''.locate path = .ok (place, u) := by
  have hdirs := (keeps_write h).1.trans hkeeps
  obtain ⟨init, name, above, es, hcs, hfollow, hreaches, rfl, -⟩ := write_eq_ok h
  obtain ⟨above', hfound, hnames⟩ := hdirs.followFrom_concat hfollow hreaches hnode
  exact locate_eq_ok_iff.mpr ⟨_, above', hcs, hfound, hnames⟩

theorem exists_lookup_of_entry {name : String} (h : entry rights above u name = .ok (some v)) :
    ∃ above', lookup rights name above u = .ok (above', v) := by
  unfold entry at h
  split at h
  · next above' w hlookup =>
    cases h
    exact ⟨above', hlookup⟩
  · cases h
  · cases h

/-- How a directory is made: it is there, or its path leads to a directory where its name is free. -/
theorem makeDir_eq_ok {path : String} (h : t.makeDir path = .ok t') :
    ∃ cs init name above, checkedComponents path = .ok cs ∧
      checkedComponents (dropSlashes path) = .ok (init ++ [name]) ∧
      ((∃ es, t.followFrom (dropSlashes path) (init ++ [name]) = .ok (above, .dir es) ∧ t' = t) ∨
        ∃ es, t.followFrom (dropSlashes path) init = .ok (above, .dir es) ∧ Reaches t.rights above name ∧
          child? name es = none ∧ t' = t.make (placeBelow above name) .empty) := by
  unfold makeDir at h
  cases hcs : checkedComponents path with
  | error e =>
    rw [hcs] at h
    cases h
  | ok cs =>
    rw [hcs] at h
    simp only [Except.bind] at h
    split at h
    · cases h
    · next above parent name hparent =>
      obtain ⟨init, hinit, hfollow⟩ := parentOf_eq_ok hparent
      split at h
      · next fs hentry =>
        cases h
        obtain ⟨above', hfound⟩ := exists_lookup_of_entry hentry
        refine ⟨cs, init, name, above', rfl, hinit, .inl ⟨fs, ?_, rfl⟩⟩
        rw [followFrom_append hfollow, FileTree.follow, hfound]
        rfl
      · cases h
      · next hentry =>
        cases h
        obtain ⟨es, rfl, hreaches, hfree⟩ := (leads_of_followFrom hfollow).reaches_of_entry hentry nofun
        exact ⟨cs, init, name, above, rfl, hinit, .inr ⟨es, hfollow, hreaches, hfree, rfl⟩⟩
      · cases h

theorem keeps_makeDir {path : String} (h : t.makeDir path = .ok t') : Keeps [] t t' := by
  obtain ⟨-, init, name, above, -, -, ⟨-, -, rfl⟩ | ⟨es, hfollow, -, hfree, rfl⟩⟩ := makeDir_eq_ok h
  · exact .refl _
  · exact keeps_make (((leads_of_followFrom hfollow).get?_placeBelow name).trans hfree) _

theorem keeps_makeDirsFrom (t : FileTree) (paths : List String) : Keeps [] t (t.makeDirsFrom paths).1 := by
  fun_induction makeDirsFrom t paths with
  | case1 => exact .refl t
  | case2 => exact .refl t
  | case3 => exact .refl t
  | case4 path above _ _ made e hmade ih => rwa [hmade] at ih
  | case5 path above _ _ made hmade last hlast ih =>
    rw [hmade] at ih
    exact ih.trans (keeps_makeDir hlast)
  | case6 path above _ _ made hmade e hlast ih => rwa [hmade] at ih

/-- Making directories keeps all files, whether it succeeds or not. -/
theorem keeps_makeDirs {path : String} {fault : Option FileError} (h : t.makeDirs path = (t', fault)) :
    Keeps [] t t' := by
  have hkeeps := keeps_makeDirsFrom t (pathsUp (path.length + 1) path.toList)
  rwa [← makeDirs, h] at hkeeps

end FileTree

end JavaReview
