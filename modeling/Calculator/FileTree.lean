import Calculator.Application

/-!
# File trees

A tree of files is a list of absolute places with the texts found there, and a working directory.
Reading a path walks its names one by one, and fails as a file system does: where a name is
missing, where a file stands in the place of a directory, and where a directory is read as a file.
-/

namespace Calculator

/-- A place is given by the names on the way to it from the top. -/
abbrev Place := List String

/-- The files that can be read, and the directory from which relative paths start. -/
structure FileTree where
  workingDirectory : Place
  files : List (Place × String)
  deriving Repr, DecidableEq

namespace FileTree

/-- Cut a path into names at its slashes. -/
def namesOf (path : String) : List String :=
  (Text.splitAt (· == '/') path.toList).map String.ofList

def placeOf (path : String) : Place :=
  (namesOf path).filter (· != "")

/-- The place of the null device, which always exists and is empty. -/
def nullDevice : Place := ["dev", "null"]

/-- The tree that holds files with given paths in its working directory. -/
def ofFiles (workingDirectory : String) (files : List (String × String)) : FileTree :=
  let directory := placeOf workingDirectory
  { workingDirectory := directory
    files := (nullDevice, "") :: files.map fun file => (directory ++ namesOf file.1, file.2) }

/-- Decide whether there is a directory at a place. -/
def isDirectory (tree : FileTree) (place : Place) : Bool :=
  place.isPrefixOf tree.workingDirectory ||
    tree.files.any fun file => place.isPrefixOf file.1 && place != file.1

/-- Walk names from a place that is a directory.  An empty name and a dot stay where they are, and
two dots go up, except at the top. -/
def walk (tree : FileTree) (place : Place) : List String → FileContent
  | [] => .error .isDirectory
  | name :: rest =>
    if name = "" ∨ name = "." then tree.walk place rest
    else if name = ".." then tree.walk place.dropLast rest
    else
      let next := place ++ [name]
      if tree.isDirectory next then tree.walk next rest
      else
        match tree.files.lookup next with
        | none => .error .notFound
        | some text => if rest.isEmpty then .ok text else .error .notDirectory

/-- What is found at a path.  A path that begins with a slash starts at the top. -/
def read (tree : FileTree) (path : String) : FileContent :=
  tree.walk (if path.toList.head? = some '/' then [] else tree.workingDirectory) (namesOf path)

end FileTree

end Calculator
