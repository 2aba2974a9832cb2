/-
# What a save that fails leaves behind

A save writes its text to a new file beside the target and moves that file to the target's path.
`Scratch` says that a tree is another with such a file in it, and each step of the save starts
from one.  When the file cannot be moved it is removed again, and nothing has changed; when it
cannot be written, or does not get to the medium, it stays.
-/
import AsmView.Proofs.Image.Store

namespace AsmView

/-! ## Steps that fail -/

/-- Started on a disk, the step fails and leaves another disk. -/
def Tree.Fails {ε α : Type} (x : ExceptT ε (StateM Tree) α) (t : Tree) (e : ε) (u : Tree) : Prop :=
  x.run.run t = (.error e, u)

namespace Tree

section Steps

variable {ε α β : Type} {t s u : Tree} {x : ExceptT ε (StateM Tree) α} {a : α} {b : β} {e e' : ε}

theorem Fails.bind (h : Fails x t e u) (f : α → ExceptT ε (StateM Tree) β) :
    Fails (x >>= f) t e u := by
  unfold Fails
  rw [ExceptT.run_bind, StateT.run_bind, show StateT.run x.run t = _ from h]
  rfl

theorem Succeeds.bind_fails {f : α → ExceptT ε (StateM Tree) β} (h : Succeeds x t a s)
    (further : Fails (f a) s e u) : Fails (x >>= f) t e u :=
  (h.run_bind f).trans further

theorem Succeeds.bind {f : α → ExceptT ε (StateM Tree) β} (h : Succeeds x t a s)
    (further : Succeeds (f a) s b u) : Succeeds (x >>= f) t b u :=
  (h.run_bind f).trans further

theorem Succeeds.onDisk {x : ExceptT IoFault (StateM Tree) α} (path : String)
    (h : Succeeds x t a u) : Succeeds (Image.onDisk path x) t a u :=
  succeeds_onDisk.mpr h

theorem Fails.onDisk {x : ExceptT IoFault (StateM Tree) α} {e : IoFault} (path : String)
    (h : Fails x t e u) : Fails (Image.onDisk path x) t (.io path e) u := by
  unfold Fails
  rw [run_onDisk, h]
  rfl

theorem Succeeds.tryCatch (h : Succeeds x t a u) (f : ε → ExceptT ε (StateM Tree) α) :
    Succeeds (tryCatch x f) t a u := by
  unfold Succeeds
  rw [run_tryCatch, h]

/-- What is done about a failure may succeed. -/
theorem Fails.tryCatch_succeeds {f : ε → ExceptT ε (StateM Tree) α} (h : Fails x t e s)
    (handled : Succeeds (f e) s a u) : Succeeds (tryCatch x f) t a u := by
  unfold Succeeds
  rw [run_tryCatch, h]
  exact handled

theorem Fails.tryCatch_fails {f : ε → ExceptT ε (StateM Tree) α} (h : Fails x t e s)
    (handled : Fails (f e) s e' u) : Fails (tryCatch x f) t e' u := by
  unfold Fails
  rw [run_tryCatch, h]
  exact handled

theorem succeeds_ask {f : Tree → Except IoFault α} (h : f t = .ok a) :
    Succeeds (ask f) t a t := by
  unfold Succeeds
  rw [run_ask, h]

theorem fails_ask {f : Tree → Except IoFault α} {e : IoFault} (h : f t = .error e) :
    Fails (ask f) t e t := by
  unfold Fails
  rw [run_ask, h]

theorem succeeds_change {f : Tree → Except IoFault Tree} (h : f t = .ok u) :
    Succeeds (change f) t () u :=
  (succeeds_ask h).bind rfl

theorem fails_change {f : Tree → Except IoFault Tree} {e : IoFault} (h : f t = .error e) :
    Fails (change f) t e t :=
  (fails_ask h).bind _

theorem succeeds_attempt {step : WriteStep} (calm : t.trouble.lookup step = none) :
    Succeeds (attempt step) t () t :=
  succeeds_ask (by rw [calm])

theorem fails_attempt {step : WriteStep} (told : t.trouble.lookup step ≠ none) :
    ∃ e, Fails (attempt step) t e t := by
  obtain ⟨e, told⟩ := Option.ne_none_iff_exists'.mp told
  exact ⟨e, fails_ask (by rw [told])⟩

/-- A step that was not told to fail does what it is for. -/
theorem succeeds_attempt_change {step : WriteStep} {f : Tree → Except IoFault Tree}
    (calm : t.trouble.lookup step = none) (h : f t = .ok u) :
    Succeeds (do attempt step; change f) t () u :=
  (succeeds_attempt calm).bind (succeeds_change h)

/-- A step that was told to fail, or that cannot be done, leaves the tree as it was. -/
theorem fails_attempt_change {step : WriteStep} {f : Tree → Except IoFault Tree}
    (h : t.trouble.lookup step = none → ∀ u, f t ≠ .ok u) :
    ∃ e, Fails (do attempt step; change f) t e t := by
  by_cases calm : t.trouble.lookup step = none
  · cases answer : f t with
    | error e => exact ⟨e, (succeeds_attempt calm).bind_fails (fails_change answer)⟩
    | ok u => exact absurd answer (h calm u)
  · obtain ⟨e, told⟩ := fails_attempt calm
    exact ⟨e, told.bind _⟩

end Steps

/-! ## A new file beside the target -/

variable {t u v : Tree} {p q : Place} {path target text : String} {bytes : ByteArray}

/-- A place holds a file with these bytes, and every other place what it did. -/
def Puts (t u : Tree) (p : Place) (bytes : ByteArray) : Prop :=
  ∀ q, u.node? q = if q = p then some (.file bytes) else t.node? q

/-- Every place holds what it did. -/
def Same (t u : Tree) : Prop :=
  ∀ q, u.node? q = t.node? q

/-- One tree is another with a new file that a path leads to. -/
structure Scratch (t u : Tree) (path : String) (p : Place) (bytes : ByteArray) : Prop where
  trouble : u.trouble = t.trouble
  here : u.here = t.here
  leads : u.filePlace path = .ok p
  free : t.node? p = none
  puts : t.Puts u p bytes

theorem puts_insert (hp : p ≠ []) (bytes : ByteArray) : t.Puts (t.insert p (.file bytes)) p bytes :=
  node?_insert hp (.file bytes)

theorem createNew_eq_ok_iff : t.createNew path = .ok u ↔
    ∃ p, t.filePlace path = .ok p ∧ t.node? p = none ∧ t.insert p (.file .empty) = u := by
  unfold createNew
  rw [bind_eq_ok]
  refine exists_congr fun p => and_congr_right fun _ => ?_
  cases t.node? p <;> simp

/-- A file can be created where nothing is. -/
theorem scratch_createNew (leads : t.filePlace path = .ok p) (free : t.node? p = none) :
    ∃ u, t.createNew path = .ok u ∧ t.Scratch u path p .empty := by
  have hdir : t.node? p ≠ some .directory := by simp [free]
  have puts := puts_insert (t := t) (ne_root hdir) .empty
  refine ⟨_, createNew_eq_ok_iff.mpr ⟨p, leads, free, rfl⟩, rfl, rfl, ?_, free, puts⟩
  refine (keeps_insert hdir _).filePlace leads ?_
  rw [puts p, if_pos rfl]
  exact nofun

theorem Scratch.node? (h : t.Scratch u path p bytes) : u.node? p = some (.file bytes) := by
  rw [h.puts, if_pos rfl]

theorem Scratch.not_directory (h : t.Scratch u path p bytes) : u.node? p ≠ some .directory := by
  simp [h.node?]

/-- Directories are where they were. -/
theorem Scratch.keeps (h : t.Scratch u path p bytes) : u.Keeps t where
  here := h.here.symm
  directory := by
    intro q node
    rw [h.puts] at node
    split at node
    · cases node
    · exact node

/-- A text that is written to the new file stands there. -/
theorem Scratch.write (h : t.Scratch u path p bytes) (text : String) :
    ∃ v, u.write path text = .ok v ∧ t.Scratch v path p text.toUTF8 := by
  have puts := puts_insert (t := u) (ne_root h.not_directory) text.toUTF8
  refine ⟨_, bind_eq_ok.mpr ⟨p, h.leads, rfl⟩, h.trouble, h.here, ?_, h.free, fun q => ?_⟩
  · refine (keeps_insert h.not_directory _).filePlace h.leads ?_
    rw [puts p, if_pos rfl]
    exact nofun
  · rw [puts, h.puts]
    split <;> rfl

/-- When the new file is removed, nothing has changed. -/
theorem Scratch.remove (h : t.Scratch u path p bytes) :
    ∃ v, u.remove path = .ok v ∧ t.Same v := by
  refine ⟨u.erase p, bind_eq_ok.mpr ⟨p, (filePlace_eq_ok h.leads).1, ?_⟩, fun q => ?_⟩
  · rw [h.node?]
  · rw [node?_erase (ne_root h.not_directory), h.puts]
    split
    · rename_i same
      rw [same, h.free]
    · rfl

/-- When the new file is moved to the target, nothing else has changed. -/
theorem Scratch.rename (h : t.Scratch u path p bytes) (moved : u.rename path target = .ok v) :
    ∃ q, t.place target = .ok q ∧ t.Puts v q bytes := by
  have file := h.not_directory
  obtain ⟨q, leads, free, rfl⟩ := rename_eq_ok (filePlace_eq_ok h.leads).1 h.node? moved
  have below : q ≠ [] := ne_root free
  refine ⟨q, h.keeps.place leads, fun r => ?_⟩
  rw [node?_insert below, node?_erase (ne_root file), h.puts]
  split
  · rfl
  · split
    · rename_i same
      rw [same, h.free]
    · rfl

end Tree

namespace Image

open AsmView.Tree

variable {t u : Tree} {scratch path : String} {p : Place} {bytes : ByteArray}

/-! ## Putting a text in place of a file -/

/-- A directory that is there needs nothing. -/
theorem makeDirectories_of_isDirectory {path : List Char} (above : List (List Char))
    (h : t.isDirectory (String.ofList path) = true) :
    Succeeds (makeDirectories (path :: above)) t () t := by
  have failed : Fails (Disk.makeDirectory (String.ofList path)) t .alreadyExists t :=
    fails_change (makeDirectory_of_isDirectory h)
  by_cases empty : path.isEmpty = true
  · rw [makeDirectories, if_pos empty]
    rfl
  · rw [makeDirectories, if_neg empty]
    refine failed.tryCatch_succeeds ?_
    have asked : Succeeds (liftM (Disk.isDirectory (String.ofList path) : StateM Tree Bool) :
        ExceptT IoFault (StateM Tree) Bool) t true t := by
      unfold Succeeds
      rw [← h]
      rfl
    exact asked.bind rfl

/-- If the new file cannot be created, nothing changes. -/
theorem replaceFile_uncreated (target text : String) (h : t.trouble.lookup .create = none →
      ∀ p, t.filePlace scratch = .ok p → t.node? p ≠ none) :
    ∃ f, Fails (replaceFile scratch target text) t f t := by
  obtain ⟨e, failed⟩ := fails_attempt_change (f := (·.createNew scratch)) fun calm u created => by
    obtain ⟨p, leads, free, -⟩ := createNew_eq_ok_iff.mp created
    exact h calm p leads free
  exact ⟨_, (Fails.onDisk scratch failed).bind _⟩

/-- If it is created and cannot be written, or not brought to the medium, it is still there. -/
theorem replaceFile_stranded (target text : String) (leads : t.filePlace scratch = .ok p)
    (free : t.node? p = none) (calm : t.trouble.lookup .create = none)
    (stuck : t.trouble.lookup .write ≠ none ∨ t.trouble.lookup .sync ≠ none) :
    ∃ f v bytes, Fails (replaceFile scratch target text) t f v ∧ t.Puts v p bytes := by
  obtain ⟨u, created, new⟩ := scratch_createNew leads free
  have first : Succeeds (onDisk scratch (Disk.createNew scratch)) t () u :=
    .onDisk scratch (succeeds_attempt_change (f := (·.createNew scratch)) calm created)
  rw [← new.trouble] at stuck
  by_cases writes : u.trouble.lookup .write = none
  · obtain ⟨v, written, kept⟩ := new.write text
    have second : Succeeds (onDisk scratch (Disk.write scratch text)) u () v :=
      .onDisk scratch (succeeds_attempt_change (f := (·.write scratch text)) writes written)
    have told : v.trouble.lookup .sync ≠ none := by
      rw [kept.trouble, ← new.trouble]
      exact stuck.resolve_left (not_not_intro writes)
    obtain ⟨e, failed⟩ := fails_attempt told
    have third : Fails (onDisk scratch (Disk.sync scratch)) v (.io scratch e) v :=
      .onDisk scratch failed
    exact ⟨_, v, _, first.bind_fails (second.bind_fails (third.bind _)), kept.puts⟩
  · obtain ⟨e, failed⟩ :=
      fails_attempt_change (f := (·.write scratch text)) fun calm => absurd calm writes
    have second : Fails (onDisk scratch (Disk.write scratch text)) u (.io scratch e) u :=
      .onDisk scratch failed
    exact ⟨_, u, _, first.bind_fails (second.bind _), new.puts⟩

/-- Otherwise the target holds the text, or nothing has changed. -/
theorem replaceFile_settled (target text : String) (leads : t.filePlace scratch = .ok p)
    (free : t.node? p = none) (calm : t.trouble.lookup .create = none)
    (writes : t.trouble.lookup .write = none) (syncs : t.trouble.lookup .sync = none) :
    (∃ v q, Succeeds (replaceFile scratch target text) t () v ∧ t.place target = .ok q ∧
      t.Puts v q text.toUTF8) ∨
    ∃ f v, Fails (replaceFile scratch target text) t f v ∧ t.Same v := by
  obtain ⟨u, created, new⟩ := scratch_createNew leads free
  have first : Succeeds (onDisk scratch (Disk.createNew scratch)) t () u :=
    .onDisk scratch (succeeds_attempt_change (f := (·.createNew scratch)) calm created)
  obtain ⟨v, written, kept⟩ := new.write text
  have second : Succeeds (onDisk scratch (Disk.write scratch text)) u () v :=
    .onDisk scratch (succeeds_attempt_change (f := (·.write scratch text))
      (by rw [new.trouble, writes]) written)
  have third : Succeeds (onDisk scratch (Disk.sync scratch)) v () v :=
    .onDisk scratch (succeeds_attempt (by rw [kept.trouble, syncs]))
  by_cases moves : v.trouble.lookup .rename = none ∧ ∃ w, v.rename scratch target = .ok w
  · obtain ⟨calm, w, moved⟩ := moves
    obtain ⟨q, leads, puts⟩ := kept.rename moved
    have fourth : Succeeds (onDisk target (Disk.rename scratch target)) v () w :=
      .onDisk target (succeeds_attempt_change (f := (·.rename scratch target)) calm moved)
    exact .inl ⟨w, q, first.bind (second.bind (third.bind (fourth.tryCatch _))), leads, puts⟩
  · obtain ⟨e, failed⟩ := fails_attempt_change (t := v) (f := (·.rename scratch target))
      fun calm w moved => moves ⟨calm, w, moved⟩
    have fourth : Fails (onDisk target (Disk.rename scratch target)) v (.io target e) v :=
      .onDisk target failed
    obtain ⟨w, removed, same⟩ := kept.remove
    have fifth : Succeeds (onDisk scratch (Disk.remove scratch)) v () w :=
      .onDisk scratch (succeeds_change (f := (·.remove scratch)) removed)
    have handled : Fails (do
        tryCatch (onDisk scratch (Disk.remove scratch)) fun _ => pure ()
        throw (.io target e) : ExceptT StoreFault (StateM Tree) Unit) v (.io target e) w :=
      (fifth.tryCatch _).bind_fails rfl
    exact .inr ⟨_, w, first.bind_fails (second.bind_fails (third.bind_fails
      (fourth.tryCatch_fails handled))), same⟩

/-! ## Saving -/

/-- The path of the file that is written before it takes the place of a target. -/
def scratchPath? (t : Tree) (path : String) : Option String :=
  (Route.fileName? path.toList).map fun name =>
    joinPath (String.ofList (directoryOf path)) (scratchName name t.clock)

/-- A save to the path can create its new file, at a place where nothing is, and then cannot write
it or not bring it to the medium. -/
structure Strands (t : Tree) (path : String) (p : Place) : Prop where
  leads : ∃ scratch, scratchPath? t path = some scratch ∧ t.filePlace scratch = .ok p
  free : t.node? p = none
  creates : t.trouble.lookup .create = none
  stuck : t.trouble.lookup .write ≠ none ∨ t.trouble.lookup .sync ≠ none

/-- A save in a directory that is there comes down to putting its text in place of a file. -/
theorem run_saveText (text : String)
    (parent : t.isDirectory (String.ofList (directoryOf path)) = true) :
    (saveText path text : ExceptT StoreFault (StateM Tree) Unit).run.run t =
      match scratchPath? t path with
      | none => (.error (.io path .noFileName), t)
      | some scratch =>
        (replaceFile scratch path text : ExceptT StoreFault (StateM Tree) Unit).run.run
          { t with clock := t.clock + 1 } := by
  have first := (makeDirectories_of_isDirectory (Route.above (directoryOf path)) parent).onDisk
    (String.ofList (directoryOf path))
  rw [saveText, first.run_bind, scratchPath?]
  cases Route.fileName? path.toList <;> rfl

/-- Where paths lead has nothing to do with the next stamp. -/
theorem filePlace_clock (clock : Nat) :
    { t with clock }.filePlace path = .ok p ↔ t.filePlace path = .ok p := by
  constructor
  · intro leads
    have keeps : Keeps { t with clock } t := ⟨rfl, fun _ node => node⟩
    exact keeps.filePlace leads (filePlace_eq_ok leads).2
  · intro leads
    have keeps : Keeps t { t with clock } := ⟨rfl, fun _ node => node⟩
    exact keeps.filePlace leads (filePlace_eq_ok leads).2

theorem saveText_stranded (text : String)
    (parent : t.isDirectory (String.ofList (directoryOf path)) = true) (h : Strands t path p) :
    ∃ f u bytes, Fails (saveText path text) t f u ∧ t.Puts u p bytes := by
  obtain ⟨scratch, named, leads⟩ := h.leads
  obtain ⟨f, u, bytes, failed, puts⟩ := replaceFile_stranded path text
    ((filePlace_clock (t.clock + 1)).mpr leads) h.free h.creates h.stuck
  refine ⟨f, u, bytes, ?_, puts⟩
  unfold Fails
  rw [run_saveText text parent, named]
  exact failed

theorem saveText_settled (text : String)
    (parent : t.isDirectory (String.ofList (directoryOf path)) = true)
    (h : ∀ p, ¬ Strands t path p) :
    (∃ u p, Succeeds (saveText path text) t () u ∧ t.place path = .ok p ∧
      t.Puts u p text.toUTF8) ∨
    ∃ f u, Fails (saveText path text) t f u ∧ t.Same u := by
  unfold Succeeds Fails
  rw [run_saveText text parent]
  cases named : scratchPath? t path with
  | none => exact .inr ⟨_, t, rfl, fun _ => rfl⟩
  | some scratch =>
      let later : Tree := { t with clock := t.clock + 1 }
      by_cases new : t.trouble.lookup .create = none ∧
          ∃ p, t.filePlace scratch = .ok p ∧ t.node? p = none
      · obtain ⟨creates, p, leads, free⟩ := new
        have flows : ¬ (t.trouble.lookup .write ≠ none ∨ t.trouble.lookup .sync ≠ none) :=
          fun stuck => h p ⟨⟨scratch, named, leads⟩, free, creates, stuck⟩
        obtain ⟨writes, syncs⟩ := not_or.mp flows
        rcases replaceFile_settled (t := later) path text
          ((filePlace_clock _).mpr leads) free creates (not_not.mp writes) (not_not.mp syncs) with
          ⟨u, q, saved, there, puts⟩ | ⟨f, u, failed, same⟩
        · have keeps : later.Keeps t := ⟨rfl, fun _ node => node⟩
          exact .inl ⟨u, q, saved, keeps.place there, puts⟩
        · exact .inr ⟨f, u, failed, same⟩
      · obtain ⟨f, failed⟩ := replaceFile_uncreated (t := later) path text
          fun creates p leads free => new ⟨creates, p, (filePlace_clock _).mp leads, free⟩
        exact .inr ⟨f, later, failed, fun _ => rfl⟩

/-- A save in a directory that is there leaves no trace when it fails, unless its new file is
stranded: it puts the whole text where the target's path leads and changes nothing else, or fails
and changes nothing.  If the new file is stranded the save fails, and that file stays, new among
all that was there before. -/
theorem save_leaves (img : Image)
    (parent : t.isDirectory (String.ofList (directoryOf path)) = true) :
    ∃ r u, (save path img : ExceptT StoreFault (StateM Tree) Unit).run.run t = (r, u) ∧
      ((∀ p, ¬ Strands t path p) →
        (r = .ok () ∧ u.Holds path img.fileText.toUTF8 ∧
          ∃ p, t.place path = .ok p ∧ t.Puts u p img.fileText.toUTF8) ∨
        (∃ f, r = .error f) ∧ t.Same u) ∧
      ∀ p, Strands t path p → (∃ f, r = .error f) ∧ ∃ bytes, t.Puts u p bytes := by
  by_cases stuck : ∃ p, Strands t path p
  · obtain ⟨p, stranded⟩ := stuck
    obtain ⟨f, u, bytes, failed, puts⟩ := saveText_stranded img.fileText parent stranded
    refine ⟨_, u, failed, fun none => absurd stranded (none p), fun q stranded' => ?_⟩
    obtain ⟨scratch, named, leads⟩ := stranded.leads
    obtain ⟨scratch', named', leads'⟩ := stranded'.leads
    obtain rfl : scratch = scratch' := Option.some.inj (named.symm.trans named')
    obtain rfl : p = q := Except.ok.inj (leads.symm.trans leads')
    exact ⟨⟨f, rfl⟩, bytes, puts⟩
  · rw [not_exists] at stuck
    rcases saveText_settled img.fileText parent stuck with
      ⟨u, p, saved, there, puts⟩ | ⟨f, u, failed, same⟩
    · have held := saveText_holds saved
      exact ⟨_, u, saved, fun _ => .inl ⟨rfl, held, p, there, puts⟩, fun q h => absurd h (stuck q)⟩
    · exact ⟨_, u, failed, fun _ => .inr ⟨⟨f, rfl⟩, same⟩, fun q h => absurd h (stuck q)⟩

/-- A disk on which files can be created, but not written any more. -/
def full : Tree where
  trouble := [(.write, .full)]

/-- The place of the file that a save to `image.json` writes first. -/
def fullScratch : Place :=
  [".disview.tmp.image.json.1000000000000000000"]

theorem save_leaves_full :
    full.isDirectory (String.ofList (directoryOf "image.json")) = true ∧
      Strands full "image.json" fullScratch ∧
      ∃ r u, (save "image.json" awkward : ExceptT StoreFault (StateM Tree) Unit).run.run full =
        (r, u) ∧ (∃ f, r = .error f) ∧ ∃ bytes, full.Puts u fullScratch bytes := by
  have parent : full.isDirectory (String.ofList (directoryOf "image.json")) = true := rfl
  have stranded : Strands full "image.json" fullScratch :=
    ⟨⟨_, rfl, rfl⟩, rfl, rfl, .inl nofun⟩
  obtain ⟨r, u, ran, -, left⟩ := save_leaves awkward parent
  exact ⟨parent, stranded, r, u, ran, left fullScratch stranded⟩

/-- The file that could not be written is there when the save has failed. -/
theorem save_strands_scratch :
    let run := (save "image.json" awkward : ExceptT StoreFault (StateM Tree) Unit).run.run full
    full.isDirectory (String.ofList (directoryOf "image.json")) = true ∧
      run.1 = .error (.io "./.disview.tmp.image.json.1000000000000000000" .full) ∧
      full.node? fullScratch = none ∧ run.2.node? fullScratch = some (.file .empty) :=
  ⟨rfl, rfl, rfl, rfl⟩

end Image

end AsmView
