/-!
# File trees

Files held in memory and found by path. A path is walked from the root of the tree, name by name:
every name but the last has to lead to a directory that exists, a point stays where it is, and two
points go up. The directories are those that the paths of the files pass through.
-/

namespace DiagnosticRelay

/-- Files with their contents, and directories, each under the names that lead to it from the root
without going up. -/
structure FileTree where
  directories : List (List String)
  files : List (List String × ByteArray)

namespace FileTree

/-- The names of a path, without empty ones and points. -/
def names (path : String) : List String :=
  (path.splitOn "/").filter fun name => name != "" && name != "."

/-- The place that a name leads to. -/
def enter (place : List String) (name : String) : List String :=
  if name = ".." then place.dropLast else place ++ [name]

/-- The places that names pass through, the last one included. -/
def trail (place : List String) : List String → List (List String)
  | [] => [place]
  | name :: rest => place :: trail (enter place name) rest

/-- The tree of files that are given by relative paths. -/
def ofPaths (files : List (String × ByteArray)) : FileTree where
  directories := files.flatMap fun (path, _) => trail [] (names path).dropLast
  files := files.map fun (path, content) => ((names path).foldl enter [], content)

/-- Whether there is a directory at a place. The root is always one. -/
def hasDirectory (tree : FileTree) (place : List String) : Bool :=
  place.isEmpty || tree.directories.contains place

/-- Walk the names of a path from a place. A path above the root leads nowhere. -/
def walk (tree : FileTree) (place : List String) : List String → Option (List String)
  | [] => some place
  | name :: rest =>
    if !tree.hasDirectory place || (name = ".." && place.isEmpty) then none
    else walk tree (enter place name) rest

/-- The contents of the file that a relative path leads to. A path that ends in a slash leads to a
directory. -/
def read? (tree : FileTree) (path : String) : Option ByteArray :=
  if path.startsWith "/" || path.endsWith "/" || path.endsWith "/." then none
  else (walk tree [] (names path)).bind fun place => tree.files.lookup place

end FileTree

end DiagnosticRelay
