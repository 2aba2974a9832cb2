/-
# Paths

A path is names with slashes between them.  Repeated slashes, a slash at the end, and
dots that stand for the directory they are in do not count as names, except for a dot at
the very start.
-/
import AsmView.Text.Lines

namespace AsmView.Route

open Text

def isAbsolute (path : List Char) : Bool :=
  path.head? = some '/'

/-- Pieces between slashes, each with the number of characters up to its end; the first of
them starts behind `start` characters. -/
def placed : Nat → List (List Char) → List (List Char × Nat)
  | _, [] => []
  | start, s :: ss => (s, start + s.length) :: placed (start + s.length + 1) ss

/-- The names of a path, each with the number of characters up to its end. -/
def names (path : List Char) : List (List Char × Nat) :=
  match placed 0 (splitAt '/' path) with
  | [] => []
  | first :: rest =>
    (if first.1.isEmpty then [] else [first]) ++
      rest.filter fun (s, _) => !s.isEmpty && s ≠ ['.']

/-- Where a path starts when it has no names. -/
def root (path : List Char) : List Char :=
  if isAbsolute path then ['/'] else []

/-- The paths of the directories that a path goes through, nearest first. -/
def above (path : List Char) : List (List Char) :=
  match (names path).reverse with
  | [] => []
  | _ :: others => others.map (fun (_, stop) => path.take stop) ++ [root path]

/-- The path of the directory that holds what a path leads to. -/
def parent? (path : List Char) : Option (List Char) :=
  (above path).head?

/-- The last name of a path, unless it is a dot or two. -/
def fileName? (path : List Char) : Option (List Char) :=
  match (names path).getLast? with
  | some (name, _) => if name = ['.'] || name = ['.', '.'] then none else some name
  | none => none

end AsmView.Route
