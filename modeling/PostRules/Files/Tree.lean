import PostRules.Files.Failure
import PostRules.Files.Path

/-!
# A tree of files

A tree holds files by absolute path, as lists of names from the root; the root, the folders
above each file and the folders named as present are its directories.

Reading a path walks it name by name, as an operating system does: `.` stays, `..` goes up (and
stays at the root), empty names are skipped. Every name but the last must be a directory; a file
there means the path is not a directory, and a missing name that it is not found. The last name
must be a file; a directory cannot be read, and a file named with a trailing `/` is not a
directory.
-/

namespace PostRules.Files

/-- Files by absolute path, and directories that exist without files in them. -/
structure FileTree where
  files : List (List String × String) := []
  folders : List (List String) := []
  deriving Inhabited

namespace FileTree

/-- Whether a path names a directory: the root, a folder named as present, or a folder above a
file. -/
def isDirectory (t : FileTree) (p : List String) : Bool :=
  p.isEmpty || t.folders.contains p ||
    t.files.any fun (f, _) => p.length < f.length && p.isPrefixOf f

/-- The contents of the file at a path, if a file is there. -/
def fileAt (t : FileTree) (p : List String) : Option String :=
  t.files.lookup p

/-- Walks the names of a path from a directory. `trailing` tells whether the path ended in `/`. -/
def walk (t : FileTree) (trailing : Bool) : List String → List String → Except ReadFailure String
  | here, [] => if t.isDirectory here then .error .isDirectory else .error .notFound
  | here, [name] =>
    let target := if name == "." then here else if name == ".." then here.dropLast else here ++ [name]
    match t.fileAt target with
    | some contents => if trailing then .error .notDirectory else .ok contents
    | none => if t.isDirectory target then .error .isDirectory else .error .notFound
  | here, name :: rest =>
    if name == "." then t.walk trailing here rest
    else if name == ".." then t.walk trailing here.dropLast rest
    else
      let next := here ++ [name]
      if t.isDirectory next then t.walk trailing next rest
      else if (t.fileAt next).isSome then .error .notDirectory
      else .error .notFound

/-- Reads the file at an absolute path. -/
def read (t : FileTree) (path : String) : Except ReadFailure String :=
  let names := (path.splitOn "/").filter (· != "")
  t.walk (path.endsWith "/" && path != "/") [] names

/-- A tree with the folder `home` and its parents, and files written under it by relative
paths. -/
def under (home : List String) (entries : List (String × String)) : FileTree :=
  { folders := (List.range (home.length + 1)).map home.take
    files := entries.map fun (rel, contents) =>
      (home ++ ((rel.splitOn "/").filter (fun n => n != "" && n != ".")), contents) }

end FileTree

end PostRules.Files
