/-
# A file that was written is found again

Paths are followed through directories, so putting a file somewhere or taking one away
changes nothing about where paths lead, as long as no directory is touched: `Keeps` is what
such a step preserves.  `Holds` says what a path leads to.  A text that was written to a path
is held there, and moving the file takes it along.  A directory that is there is found, too, and
not made again.
-/
import Mathlib.Data.List.Basic
import AsmView.Disk.Tree

namespace AsmView.Tree

variable {t u v : Tree} {p q : Place} {n : Node} {path : String}

/-! ## What stands where -/

theorem lookup_filter (f : Place → Bool) (nodes : List (Place × Node)) (q : Place) :
    (nodes.filter fun e => f e.1).lookup q = if f q then nodes.lookup q else none := by
  induction nodes with
  | nil => simp
  | cons entry nodes ih =>
      obtain ⟨r, n⟩ := entry
      by_cases hq : q = r
      · subst hq
        cases hf : f q <;> simp [hf, ih]
      · have other : (q == r) = false := beq_eq_false_iff_ne.mpr hq
        cases hf : f r <;> simp [hf, List.lookup_cons, other, ih]

theorem node?_erase (hp : p ≠ []) (q : Place) :
    (t.erase p).node? q = if q = p then none else t.node? q := by
  by_cases root : q = []
  · subst root
    simp [node?, Ne.symm hp]
  · have inner : q.isEmpty = false := by simpa using root
    have filtered := lookup_filter (fun r => decide (r ≠ p)) t.nodes q
    simp only [node?, inner, erase]
    by_cases hq : q = p
    · simpa [hq] using filtered
    · simpa [hq] using filtered

theorem node?_insert (hp : p ≠ []) (n : Node) (q : Place) :
    (t.insert p n).node? q = if q = p then some n else t.node? q := by
  by_cases root : q = []
  · subst root
    simp [node?, Ne.symm hp]
  · have inner : q.isEmpty = false := by simpa using root
    by_cases hq : q = p
    · simp [node?, insert, hq, hp]
    · have erased := node?_erase (t := t) hp q
      have other : (q == p) = false := beq_eq_false_iff_ne.mpr hq
      simp only [node?, inner] at erased ⊢
      simpa [insert, List.lookup_cons, other, hq] using erased

/-- Only a place below the root can hold something else than a directory. -/
theorem ne_root (h : t.node? p ≠ some .directory) : p ≠ [] := by
  rintro rfl
  exact h rfl

/-! ## Steps that keep every directory -/

/-- Paths start where they did, and every directory is still one. -/
structure Keeps (t u : Tree) : Prop where
  here : u.here = t.here
  directory : ∀ p, t.node? p = some .directory → u.node? p = some .directory

theorem Keeps.trans (h : t.Keeps u) (h' : u.Keeps v) : t.Keeps v where
  here := h'.here.trans h.here
  directory := fun p hp => h'.directory p (h.directory p hp)

theorem keeps_insert (free : t.node? p ≠ some .directory) (n : Node) : t.Keeps (t.insert p n) where
  here := rfl
  directory := by
    intro q hq
    rw [node?_insert (ne_root free), if_neg]
    · exact hq
    · rintro rfl
      exact free hq

theorem keeps_erase (free : t.node? p ≠ some .directory) : t.Keeps (t.erase p) where
  here := rfl
  directory := by
    intro q hq
    rw [node?_erase (ne_root free), if_neg]
    · exact hq
    · rintro rfl
      exact free hq

theorem directory_eq_ok : t.directory p = .ok q ↔ p = q ∧ t.node? p = some .directory := by
  unfold directory
  split
  · rename_i h
    simp [h]
  · rename_i h
    simp [h]
  · rename_i h
    simp [h]

theorem Keeps.directory_ok (h : t.Keeps u) (found : t.directory p = .ok q) :
    u.directory p = .ok q := by
  obtain ⟨same, node⟩ := directory_eq_ok.mp found
  exact directory_eq_ok.mpr ⟨same, h.directory p node⟩

theorem bind_eq_ok {ε α β : Type} {x : Except ε α} {f : α → Except ε β} {b : β} :
    (x >>= f) = .ok b ↔ ∃ a, x = .ok a ∧ f a = .ok b := by
  cases x with
  | error e => exact ⟨nofun, nofun⟩
  | ok a =>
      refine ⟨fun h => ⟨a, rfl, h⟩, ?_⟩
      rintro ⟨a', same, h⟩
      obtain rfl := Except.ok.inj same
      exact h

/-- One name followed from a place. -/
def enter (t : Tree) (p : Place) (name : String) : Except IoFault Place := do
  let dir ← t.directory p
  if name = "." then .ok dir
  else if name = ".." then .ok dir.dropLast
  else inside dir name

/-- Names are followed one after the other. -/
theorem follow_eq_foldlM (t : Tree) (p : Place) (names : List String) :
    t.follow p names = names.foldlM t.enter p := by
  induction names generalizing p with
  | nil => rfl
  | cons name names ih =>
      rw [List.foldlM_cons, Tree.follow, enter]
      cases t.directory p with
      | error e => rfl
      | ok dir =>
          show (if name = "." then t.follow dir names
            else if name = ".." then t.follow dir.dropLast names
            else inside dir name >>= fun p => t.follow p names) =
              (if name = "." then Except.ok dir
                else if name = ".." then .ok dir.dropLast
                else inside dir name) >>= fun p => names.foldlM t.enter p
          simp only [ih]
          split
          · rfl
          · split <;> rfl

theorem Keeps.enter (h : t.Keeps u) {name : String} (found : t.enter p name = .ok q) :
    u.enter p name = .ok q := by
  obtain ⟨dir, through, inner⟩ := bind_eq_ok.mp found
  exact bind_eq_ok.mpr ⟨dir, h.directory_ok through, inner⟩

theorem Keeps.follow (h : t.Keeps u) {names : List String} (found : t.follow p names = .ok q) :
    u.follow p names = .ok q := by
  rw [follow_eq_foldlM] at found ⊢
  induction names generalizing p with
  | nil => exact found
  | cons name names ih =>
      rw [List.foldlM_cons] at found ⊢
      obtain ⟨r, entered, further⟩ := bind_eq_ok.mp found
      exact bind_eq_ok.mpr ⟨r, h.enter entered, ih further⟩

theorem Keeps.course (h : t.Keeps u) : u.course path = t.course path := by
  rw [Tree.course, h.here]
  rfl

theorem Keeps.place (h : t.Keeps u) (found : t.place path = .ok p) : u.place path = .ok p := by
  obtain ⟨c, parts, found⟩ := bind_eq_ok.mp found
  obtain ⟨q, through, found⟩ := bind_eq_ok.mp found
  refine bind_eq_ok.mpr ⟨c, h.course.trans parts, bind_eq_ok.mpr ⟨q, h.follow through, ?_⟩⟩
  by_cases slashed : c.slashed = true
  · rw [if_pos slashed] at found ⊢
    exact h.directory_ok found
  · rw [if_neg slashed] at found ⊢
    exact found

theorem Keeps.site (h : t.Keeps u) {s : Place × Option String × Bool}
    (found : t.site path = .ok s) : u.site path = .ok s := by
  obtain ⟨c, parts, found⟩ := bind_eq_ok.mp found
  obtain ⟨dir, through, found⟩ := bind_eq_ok.mp found
  obtain ⟨q, followed, hdir⟩ := bind_eq_ok.mp through
  have through' : (u.follow c.start c.names.dropLast).bind u.directory = .ok dir :=
    bind_eq_ok.mpr ⟨q, h.follow followed, h.directory_ok hdir⟩
  exact bind_eq_ok.mpr ⟨c, h.course.trans parts, bind_eq_ok.mpr ⟨dir, through', found⟩⟩

/-! ## Where a file is put -/

/-- A path that leads into a directory and ends in a name leads to that name there. -/
theorem place_of_site {dir : Place} {name : String}
    (h : t.site path = .ok (dir, some name, false)) : t.place path = inside dir name := by
  obtain ⟨c, parts, h⟩ := bind_eq_ok.mp h
  obtain ⟨d, through, h⟩ := bind_eq_ok.mp h
  obtain ⟨q, followed, hdir⟩ := bind_eq_ok.mp through
  obtain ⟨rfl, last, slashed⟩ : d = dir ∧
      (c.names.getLast?.filter fun n => n ≠ "." && n ≠ "..") = some name ∧ c.slashed = false := by
    simpa using h
  obtain ⟨last, ordinary⟩ := Option.filter_eq_some_iff.mp last
  have names : c.names.dropLast ++ [name] = c.names := List.dropLast_append_getLast? name last
  have entered : t.enter q name = inside d name := by
    simp only [Bool.and_eq_true, decide_eq_true_eq] at ordinary
    rw [enter, hdir]
    show (if name = "." then Except.ok d else if name = ".." then .ok d.dropLast
      else inside d name) = _
    rw [if_neg ordinary.1, if_neg ordinary.2]
  have reached : t.follow c.start c.names = inside d name := by
    rw [follow_eq_foldlM, ← names, List.foldlM_append, ← follow_eq_foldlM, followed]
    show List.foldlM t.enter q [name] = _
    rw [List.foldlM_cons, entered]
    cases inside d name <;> rfl
  rw [place, parts]
  show (t.follow c.start c.names >>= fun p => if c.slashed then t.directory p else .ok p) = _
  rw [reached, slashed]
  cases inside d name <;> rfl

/-- A file can be put where a path leads into a directory and ends in a name that no directory
has there. -/
theorem filePlace_eq_ok_iff : t.filePlace path = .ok p ↔
    ∃ dir name, t.site path = .ok (dir, some name, false) ∧ inside dir name = .ok p ∧
      t.node? p ≠ some .directory := by
  constructor
  · intro h
    obtain ⟨⟨dir, name?, slashed⟩, site, h⟩ := bind_eq_ok.mp h
    cases name? with
    | none => exact nomatch h
    | some name =>
        cases slashed with
        | true => exact nomatch h
        | false =>
            obtain ⟨q, there, h⟩ := bind_eq_ok.mp h
            split at h
            · exact nomatch h
            · rename_i free
              obtain rfl := Except.ok.inj h
              exact ⟨dir, name, site, there, free⟩
  · rintro ⟨dir, name, site, there, free⟩
    refine bind_eq_ok.mpr ⟨_, site, bind_eq_ok.mpr ⟨p, there, ?_⟩⟩
    split
    · rename_i directory
      exact absurd directory free
    · rfl

theorem Keeps.filePlace (h : t.Keeps u) (found : t.filePlace path = .ok p)
    (free : u.node? p ≠ some .directory) : u.filePlace path = .ok p := by
  obtain ⟨dir, name, site, there, -⟩ := filePlace_eq_ok_iff.mp found
  exact filePlace_eq_ok_iff.mpr ⟨dir, name, h.site site, there, free⟩

theorem filePlace_eq_ok (h : t.filePlace path = .ok p) :
    t.place path = .ok p ∧ t.node? p ≠ some .directory := by
  obtain ⟨dir, name, site, there, free⟩ := filePlace_eq_ok_iff.mp h
  exact ⟨(place_of_site site).trans there, free⟩

/-- The path leads to a file with these bytes. -/
def Holds (t : Tree) (path : String) (bytes : ByteArray) : Prop :=
  ∃ p, t.place path = .ok p ∧ t.node? p = some (.file bytes)

theorem read_of_holds {bytes : ByteArray} (h : t.Holds path bytes) : t.read path = .ok bytes := by
  obtain ⟨p, place, node⟩ := h
  refine bind_eq_ok.mpr ⟨p, place, ?_⟩
  rw [node]

theorem holds_write {text : String} (h : t.write path text = .ok u) :
    u.Holds path text.toUTF8 := by
  obtain ⟨p, there, h⟩ := bind_eq_ok.mp h
  obtain rfl := Except.ok.inj h
  obtain ⟨place, free⟩ := filePlace_eq_ok there
  refine ⟨p, (keeps_insert free _).place place, ?_⟩
  rw [node?_insert (ne_root free), if_pos rfl]

/-- A file that is moved goes where the target's path leads, unless that is a directory. -/
theorem rename_eq_ok {target : String} {bytes : ByteArray} (leads : t.place path = .ok p)
    (node : t.node? p = some (.file bytes)) (h : t.rename path target = .ok u) :
    ∃ q, t.place target = .ok q ∧ t.node? q ≠ some .directory ∧
      (t.erase p).insert q (.file bytes) = u := by
  obtain ⟨p', same, h⟩ := bind_eq_ok.mp h
  obtain rfl : p = p' := Except.ok.inj (leads.symm.trans same)
  obtain ⟨⟨dir, name?, slashed⟩, site, h⟩ := bind_eq_ok.mp h
  cases name? with
  | none => exact nomatch h
  | some name =>
      simp only [node] at h
      obtain ⟨q, there, h⟩ := bind_eq_ok.mp h
      cases slashed with
      | true => exact nomatch h
      | false =>
          split at h
          · contradiction
          split at h
          · exact nomatch h
          rename_i free
          exact ⟨q, (place_of_site site).trans there, free, Except.ok.inj h⟩

/-- A file that is moved is found at its new path. -/
theorem holds_rename {target : String} {bytes : ByteArray} (held : t.Holds path bytes)
    (h : t.rename path target = .ok u) : u.Holds target bytes := by
  obtain ⟨p, place, node⟩ := held
  obtain ⟨q, leads, free, rfl⟩ := rename_eq_ok place node h
  have file : t.node? p ≠ some .directory := by simp [node]
  -- the file is taken from its old place first, which may be the new one
  have free' : (t.erase p).node? q ≠ some .directory := by
    rw [node?_erase (ne_root file)]
    split
    · exact nofun
    · exact free
  have kept := (keeps_erase file).trans (keeps_insert free' (.file bytes))
  refine ⟨q, kept.place leads, ?_⟩
  rw [node?_insert (ne_root free'), if_pos rfl]

/-! ## Where a directory is made -/

theorem isDirectory_iff : t.isDirectory path = true ↔
    ∃ p, t.place path = .ok p ∧ t.node? p = some .directory := by
  have found : t.isDirectory path = true ↔ ∃ d, (t.place path >>= t.directory) = .ok d := by
    unfold isDirectory
    cases answer : (t.place path).bind t.directory with
    | error e =>
        rw [show (t.place path >>= t.directory) = _ from answer]
        exact ⟨nofun, nofun⟩
    | ok d => exact iff_of_true rfl ⟨d, answer⟩
  simp only [found, bind_eq_ok, directory_eq_ok]
  constructor
  · rintro ⟨d, p, place, -, node⟩
    exact ⟨p, place, node⟩
  · rintro ⟨p, place, node⟩
    exact ⟨p, p, place, rfl, node⟩

/-- A path to a directory leads into one, and its last name, unless that is a dot or two, is the
name of the directory there. -/
theorem exists_site (place : t.place path = .ok p) (node : t.node? p = some .directory) :
    ∃ dir name? slashed, t.site path = .ok (dir, name?, slashed) ∧
      ∀ name, name? = some name → inside dir name = .ok p := by
  obtain ⟨c, parts, place⟩ := bind_eq_ok.mp place
  obtain ⟨q, followed, last⟩ := bind_eq_ok.mp place
  obtain rfl : q = p := by
    split at last
    · exact (directory_eq_ok.mp last).1
    · exact Except.ok.inj last
  have site {dir : Place}
      (through : (t.follow c.start c.names.dropLast >>= t.directory) = .ok dir) : t.site path =
        .ok (dir, c.names.getLast?.filter fun n => n ≠ "." && n ≠ "..", c.slashed) :=
    bind_eq_ok.mpr ⟨c, parts, bind_eq_ok.mpr ⟨dir, through, rfl⟩⟩
  rcases List.eq_nil_or_concat' c.names with none | ⟨front, name, names⟩
  · rw [none] at followed site
    obtain rfl : c.start = q := Except.ok.inj followed
    exact ⟨_, _, _, site (bind_eq_ok.mpr ⟨_, rfl, directory_eq_ok.mpr ⟨rfl, node⟩⟩), nofun⟩
  · rw [names, follow_eq_foldlM, List.foldlM_append] at followed
    rw [names, List.dropLast_concat, List.getLast?_concat, follow_eq_foldlM] at site
    obtain ⟨r, reached, entered⟩ := bind_eq_ok.mp followed
    have entered : t.enter r name = .ok q := by simpa using entered
    obtain ⟨dir, hdir, inner⟩ := bind_eq_ok.mp entered
    refine ⟨_, _, _, site (bind_eq_ok.mpr ⟨r, reached, hdir⟩), fun name' named => ?_⟩
    obtain ⟨same, ordinary⟩ := Option.filter_eq_some_iff.mp named
    obtain rfl := Option.some.inj same
    simp only [Bool.and_eq_true, decide_eq_true_eq] at ordinary
    rwa [if_neg ordinary.1, if_neg ordinary.2] at inner

/-- A directory that is there is not made again. -/
theorem makeDirectory_of_isDirectory (h : t.isDirectory path = true) :
    t.makeDirectory path = .error .alreadyExists := by
  obtain ⟨p, place, node⟩ := isDirectory_iff.mp h
  obtain ⟨dir, name?, slashed, site, leads⟩ := exists_site place node
  rw [makeDirectory, site]
  cases name? with
  | none => rfl
  | some name =>
      show (inside dir name >>= fun p =>
        if (t.node? p).isSome then Except.error .alreadyExists else .ok (t.insert p .directory)) = _
      rw [leads name rfl]
      exact if_pos (by rw [node]; rfl)

end AsmView.Tree
