/-
# An image that was saved is loaded again

The text of an image denotes the image, whatever its strings and numbers are, so loading
comes to what the image law says of it: the image itself, or its breach.  On a disk in
memory, where steps can be told to fail, a save that succeeds leaves this text at the path.
-/
import AsmView.Image.Store
import AsmView.Proofs.Disk.Tree
import AsmView.Proofs.Image.Codec

namespace AsmView

/-! ## Steps that succeed -/

/-- Started on a disk, the step comes to a value and leaves another disk. -/
def Tree.Succeeds {ε α : Type} (x : ExceptT ε (StateM Tree) α) (t : Tree) (a : α) (u : Tree) :
    Prop :=
  x.run.run t = (.ok a, u)

namespace Tree

variable {ε α β : Type} {t u : Tree} {x : ExceptT ε (StateM Tree) α} {a : α} {b : β}

theorem succeeds_bind {f : α → ExceptT ε (StateM Tree) β} (h : Succeeds (x >>= f) t b u) :
    ∃ a s, Succeeds x t a s ∧ Succeeds (f a) s b u := by
  unfold Succeeds at h
  rw [ExceptT.run_bind, StateT.run_bind] at h
  cases first : x.run.run t with
  | mk answer s =>
      rw [show StateT.run x.run t = _ from first] at h
      cases answer with
      | ok a => exact ⟨a, s, first, h⟩
      | error e => exact nomatch congrArg Prod.fst h

theorem Succeeds.run_bind {s : Tree} (h : Succeeds x t a s) (f : α → ExceptT ε (StateM Tree) β) :
    (x >>= f).run.run t = (f a).run.run s := by
  rw [ExceptT.run_bind, StateT.run_bind, show StateT.run x.run t = _ from h]
  rfl

theorem run_onDisk (path : String) (x : ExceptT IoFault (StateM Tree) α) (t : Tree) :
    (Image.onDisk path x).run.run t = ((x.run.run t).1.mapError (.io path), (x.run.run t).2) :=
  rfl

/-- A failure that concerns a path is a failure. -/
theorem succeeds_onDisk {path : String} {x : ExceptT IoFault (StateM Tree) α} :
    Succeeds (Image.onDisk path x) t a u ↔ Succeeds x t a u := by
  unfold Succeeds
  rw [run_onDisk]
  generalize x.run.run t = answer
  obtain ⟨result, s⟩ := answer
  cases result with
  | error e => exact ⟨fun h => (nomatch congrArg Prod.fst h), fun h => (nomatch congrArg Prod.fst h)⟩
  | ok b =>
      show ((Except.ok b : Except StoreFault α), s) = (.ok a, u) ↔
        ((Except.ok b : Except IoFault α), s) = (.ok a, u)
      simp

theorem run_ask (f : Tree → Except IoFault α) (t : Tree) : (ask f).run.run t = (f t, t) := by
  have ran : (ask f).run.run t = (liftM (f t) : ExceptT IoFault (StateM Tree) α).run.run t := rfl
  rw [ran]
  cases f t <;> rfl

theorem Succeeds.ask {f : Tree → Except IoFault α} (h : Succeeds (ask f) t a u) :
    f t = .ok a ∧ u = t := by
  unfold Succeeds at h
  rw [run_ask] at h
  obtain ⟨found, same⟩ := Prod.mk.inj h
  exact ⟨found, same.symm⟩

theorem Succeeds.attempt {step : WriteStep} (h : Succeeds (attempt step) t () u) : u = t :=
  (Succeeds.ask h).2

theorem Succeeds.change {f : Tree → Except IoFault Tree} (h : Succeeds (change f) t () u) :
    f t = .ok u := by
  obtain ⟨v, s, asked, left⟩ := succeeds_bind h
  obtain rfl : v = u := congrArg Prod.snd left
  exact asked.ask.1

/-- A step that is told to fail does not succeed, and any other changes the tree. -/
theorem Succeeds.attempt_change {step : WriteStep} {f : Tree → Except IoFault Tree}
    (h : Succeeds (do Tree.attempt step; Tree.change f) t () u) : f t = .ok u := by
  obtain ⟨_, s, tried, changed⟩ := succeeds_bind h
  obtain rfl : s = t := tried.attempt
  exact changed.change

/-- What is done about a failure starts from the disk that the failure left. -/
theorem run_tryCatch (x : ExceptT ε (StateM Tree) α) (f : ε → ExceptT ε (StateM Tree) α)
    (t : Tree) : (tryCatch x f).run.run t = match x.run.run t with
      | (.ok a, s) => (.ok a, s)
      | (.error e, s) => (f e).run.run s := by
  show StateT.run (ExceptT.run (ExceptT.tryCatch x f)) t = _
  rw [ExceptT.tryCatch, ExceptT.run_mk, StateT.run_bind]
  rw [show StateT.run x t = StateT.run x.run t from rfl]
  generalize StateT.run x.run t = answer
  obtain ⟨result, s⟩ := answer
  cases result <;> rfl

/-- What is tried and then fails whatever is done about it succeeds only by itself. -/
theorem Succeeds.of_tryCatch {f : ε → ExceptT ε (StateM Tree) α}
    (h : Succeeds (tryCatch x f) t a u) (fails : ∀ e s, ¬ Succeeds (f e) s a u) :
    Succeeds x t a u := by
  unfold Succeeds at h ⊢
  rw [run_tryCatch] at h
  cases answer : x.run.run t with
  | mk result s =>
      rw [answer] at h
      cases result with
      | ok b => exact h
      | error e => exact absurd h (fails e s)

end Tree

namespace Image

open AsmView.Tree

variable {t u : Tree}

/-- A text that was put in place of a file is held at the file's path. -/
theorem replaceFile_holds {scratch target text : String}
    (h : Succeeds (replaceFile scratch target text) t () u) : u.Holds target text.toUTF8 := by
  obtain ⟨_, t₁, -, h₁⟩ := succeeds_bind h
  obtain ⟨_, t₂, written, h₂⟩ := succeeds_bind h₁
  obtain ⟨_, t₃, synced, h₃⟩ := succeeds_bind h₂
  have renamed : Succeeds (onDisk target (Disk.rename scratch target)) t₃ () u := by
    refine h₃.of_tryCatch fun f s h => ?_
    obtain ⟨_, _, _, thrown⟩ := succeeds_bind h
    exact nomatch congrArg Prod.fst thrown
  have text : t₂.Holds scratch text.toUTF8 := holds_write (succeeds_onDisk.mp written).attempt_change
  obtain rfl : t₃ = t₂ := (succeeds_onDisk.mp synced).attempt
  exact holds_rename text (succeeds_onDisk.mp renamed).attempt_change

theorem saveText_holds {path text : String}
    (h : Succeeds (saveText path text) t () u) : u.Holds path text.toUTF8 := by
  obtain ⟨_, t₁, -, h₁⟩ := succeeds_bind h
  split at h₁
  · exact nomatch congrArg Prod.fst h₁
  · obtain ⟨stamp, t₂, -, h₂⟩ := succeeds_bind h₁
    exact replaceFile_holds h₂

/-- What a text that is held leads to when it is loaded. -/
theorem load_of_holds {path text : String} (h : u.Holds path text.toUTF8) :
    (load path : ExceptT StoreFault (StateM Tree) Image).run.run u = (ofText path text, u) := by
  have found : Succeeds (Disk.read path : ExceptT IoFault (StateM Tree) ByteArray) u
      text.toUTF8 u := by
    show (Tree.ask (·.read path)).run.run u = _
    rw [run_ask, read_of_holds h]
  have decoded : String.fromUTF8? text.toUTF8 = some text :=
    dif_pos text.isValidUTF8
  have read : Succeeds (onDisk path (Disk.readText path)) u text u := by
    refine succeeds_onDisk.mpr ?_
    rw [Succeeds, Disk.readText, found.run_bind, decoded]
    rfl
  rw [load, read.run_bind]
  cases ofText path text <;> rfl

/-- What the image law says of an image found at a path: the image, or its breach. -/
def judged (path : String) (img : Image) : Except StoreFault Image :=
  match img.breach? with
  | some b => .error (.invalid path b)
  | none => .ok img

theorem ofText_fileText (path : String) (img : Image) :
    ofText path img.fileText = judged path img := by
  cases found : img.breach? with
  | none => simp only [ofText, parse_fileText, judged, found]
  | some b => simp only [ofText, parse_fileText, judged, found]

/-- The text of an image denotes exactly that image, whatever its strings and numbers and
however many parts it has.  So what is found in this text, and what is loaded from a path
where the image was saved, is the image if it keeps the image law, and its breach if not. -/
theorem load_save (img : Image) :
    parse img.fileText = .ok img ∧
      (∀ path, ofText path img.fileText = judged path img) ∧
      ∀ (path : String) (t u : Tree),
        (save path img : ExceptT StoreFault (StateM Tree) Unit).run.run t = (.ok (), u) →
        (load path : ExceptT StoreFault (StateM Tree) Image).run.run u = (judged path img, u) := by
  refine ⟨img.parse_fileText, fun path => ofText_fileText path img, fun path t u saved => ?_⟩
  rw [load_of_holds (saveText_holds saved), ofText_fileText]

/-- An image with quotes, a backslash and control characters in its name, and a section of
the largest size. -/
def awkward : Image where
  name := "\"\\\n\x01"
  sections := [⟨"", ⟨0⟩, 0xffffffffffffffff, "rwx"⟩]
  routines := []

/-- It is saved in a directory that is not there yet, and loaded again. -/
theorem load_save_awkward :
    let save : ExceptT StoreFault (StateM Tree) Unit := save "nested/image.json" awkward
    let load : ExceptT StoreFault (StateM Tree) Image := load "nested/image.json"
    parse awkward.fileText = .ok awkward ∧ (save.run.run {}).1 = .ok () ∧
      load.run.run (save.run.run {}).2 = (.ok awkward, (save.run.run {}).2) := by
  intro save load
  have saved : (save.run.run {}).1 = .ok () := by
    rfl
  have sound : judged "nested/image.json" awkward = .ok awkward := by
    simp [judged, awkward, breach?, sortedSpans, spans, overlappingSpans?, strayEntryBreach?]
  obtain ⟨parsed, -, loaded⟩ := load_save awkward
  have loaded := loaded "nested/image.json" {} (save.run.run {}).2 (Prod.ext saved rfl)
  rw [sound] at loaded
  exact ⟨parsed, saved, loaded⟩

end Image

end AsmView
