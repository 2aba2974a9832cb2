/-
# Disks

What the program needs of a file system, whatever that is: the real one, or a tree in
memory.  Every step may fail, and says why.
-/

namespace AsmView

/-- Why a step on a disk failed. -/
inductive IoFault where
  | notFound
  | denied
  | busy
  | alreadyExists
  | notDirectory
  | isDirectory
  | full
  | nameTooLong
  /-- A zero character stands in the path. -/
  | zeroInPath
  /-- The path ends in no name of a file. -/
  | noFileName
  /-- The bytes are not text. -/
  | notText
  | other (message : String)
deriving DecidableEq, Repr

def IoFault.message : IoFault → String
  | .notFound => "No such file or directory (os error 2)"
  | .denied => "Permission denied (os error 13)"
  | .busy => "Device or resource busy (os error 16)"
  | .alreadyExists => "File exists (os error 17)"
  | .notDirectory => "Not a directory (os error 20)"
  | .isDirectory => "Is a directory (os error 21)"
  | .full => "No space left on device (os error 28)"
  | .nameTooLong => "File name too long (os error 36)"
  | .zeroInPath => "file name contained an unexpected NUL byte"
  | .noFileName => "path has no file name"
  | .notText => "stream did not contain valid UTF-8"
  | .other m => m

class Disk (m : Type → Type) where
  /-- The bytes of a file. -/
  read (path : String) : ExceptT IoFault m ByteArray
  /-- Makes a file empty, creating it if there is none. -/
  create (path : String) : ExceptT IoFault m Unit
  /-- Creates an empty file where there is nothing. -/
  createNew (path : String) : ExceptT IoFault m Unit
  /-- Puts a text into an empty file. -/
  write (path text : String) : ExceptT IoFault m Unit
  /-- Waits until a file is on the medium. -/
  sync (path : String) : ExceptT IoFault m Unit
  /-- Gives a file another path, replacing a file there. -/
  rename (path target : String) : ExceptT IoFault m Unit
  /-- Removes a file. -/
  remove (path : String) : ExceptT IoFault m Unit
  /-- Creates a directory in one that exists. -/
  makeDirectory (path : String) : ExceptT IoFault m Unit
  /-- There is a directory at the path. -/
  isDirectory (path : String) : m Bool
  /-- A number that was not given before. -/
  stamp : m Nat

def Disk.readText {m : Type → Type} [Monad m] [Disk m] (path : String) :
    ExceptT IoFault m String := do
  match String.fromUTF8? (← Disk.read path) with
  | some text => pure text
  | none => throw .notText

end AsmView
