/-
# Images on a disk

An image is kept as the text of its JSON form.  Loading checks the image law.  Saving
writes a new file beside the target and gives it the target's path at the end, so the
target never holds half a text.
-/
import AsmView.Disk.Route
import AsmView.Image.Check
import AsmView.Image.Codec
import AsmView.Template

namespace AsmView

open Text

/-- Why an image cannot be loaded or saved. -/
inductive StoreFault where
  | io (path : String) (fault : IoFault)
  | json (path message : String)
  | invalid (path : String) (breach : Image.Breach)
deriving DecidableEq, Repr

def StoreFault.message : StoreFault → String
  | .io p f => s!"io error at {quoted p}: {f.message}"
  | .json p m => s!"json error at {quoted p}: {m}"
  | .invalid p b => s!"invalid program image {quoted p}: {b.message}"

namespace Image

variable {m : Type → Type} [Monad m] [Disk m]

/-- A step on a disk whose failure concerns a path. -/
def onDisk {m : Type → Type} [Monad m] {α : Type} (path : String)
    (step : ExceptT IoFault m α) : ExceptT StoreFault m α :=
  ExceptT.adapt (.io path) step

/-- The image in a text that was found at a path. -/
def ofText (path text : String) : Except StoreFault Image :=
  match parse text with
  | .error f => .error (.json path (f.message text.toList))
  | .ok img =>
    match img.breach? with
    | some b => .error (.invalid path b)
    | none => .ok img

def load (path : String) : ExceptT StoreFault m Image := do
  ofText path (← onDisk path (Disk.readText path))

/-- Creates the first of some directories, and before it those it stands in, as far as they
are missing; the paths are given from the inside to the outside. -/
def makeDirectories : List (List Char) → ExceptT IoFault m Unit
  | [] => throw (.other "failed to create whole tree")
  | path :: above => do
    let p := String.ofList path
    if path.isEmpty then pure ()
    else
      let settle (f : IoFault) : ExceptT IoFault m Unit := do
        if ← liftM (Disk.isDirectory p : m Bool) then pure () else throw f
      tryCatch (Disk.makeDirectory p) fun f =>
        if f = .notFound then do
          makeDirectories above
          tryCatch (Disk.makeDirectory p) settle
        else settle f

/-- The directory that a file at a path stands in. -/
def directoryOf (path : String) : List Char :=
  match Route.parent? path.toList with
  | some p => if p.isEmpty then ['.'] else p
  | none => ['.']

/-- The name of the file that is written before it takes the place of a target. -/
def scratchName (name : List Char) (stamp : Nat) : String :=
  s!".disview.tmp.{String.ofList name}.{stamp}"

/-- Writes a text to a new file and gives it the target's path.  A file that cannot be
moved there is removed again. -/
def replaceFile (scratch target text : String) : ExceptT StoreFault m Unit := do
  onDisk scratch (Disk.createNew scratch)
  onDisk scratch (Disk.write scratch text)
  onDisk scratch (Disk.sync scratch)
  tryCatch (onDisk target (Disk.rename scratch target)) fun f => do
    tryCatch (onDisk scratch (Disk.remove scratch)) fun _ => pure ()
    throw f

/-- Puts a text at a path. -/
def saveText (path text : String) : ExceptT StoreFault m Unit := do
  let directory := directoryOf path
  let dir := String.ofList directory
  onDisk dir (makeDirectories (directory :: Route.above directory))
  match Route.fileName? path.toList with
  | none => throw (.io path .noFileName)
  | some name => do
    let stamp ← liftM (Disk.stamp : m Nat)
    replaceFile (joinPath dir (scratchName name stamp)) path text

def save (path : String) (img : Image) : ExceptT StoreFault m Unit :=
  saveText path img.fileText

end Image

end AsmView
