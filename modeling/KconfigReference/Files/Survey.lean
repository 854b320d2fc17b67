import KconfigReference.Files.Tree

/-!
Surveys: trees that hold what the system has shown of its files so far, path by path. Paths that
have not been asked for name nothing.
-/

namespace KconfigReference

/-- What the system showed at a path. -/
inductive Finding where
  | content (bytes : Bytes)
  | refused (e : SystemError)
deriving Repr, DecidableEq

namespace FileTree

/-- A tree without files, whose home lies below directories that no path names. -/
def unsurveyed : FileTree :=
  let home : List Text := List.replicate 64 ['/']
  ⟨Node.put (.directory []) home (.directory []), home⟩

/-- The tree with a directory at a location, unless there is something already. -/
def ensureDirectory (tree : FileTree) (location : List Text) : FileTree :=
  if (tree.root.at? location).isSome then tree
  else { tree with root := Node.put (.directory []) location tree.root }

/-- One name further from a location, through a directory that is made if it is missing. -/
def makeWay (state : FileTree × List Text) (name : Text) : FileTree × List Text :=
  let (tree, here) := state
  if name = [] || name = ['.'] then (tree, here)
  else if name = ['.', '.'] then (tree, here.dropLast)
  else (tree.ensureDirectory (here ++ [name]), here ++ [name])

/-- The tree with a node at the end of a path, and with the directories that lead there. -/
def plant (tree : FileTree) (path : Text) (node : Node) : FileTree :=
  let components := Path.components path
  let (tree, parent) := components.dropLast.foldl makeWay (tree, tree.start path)
  let (_, location) := makeWay (tree, parent) (components.getLastD [])
  { tree with root := Node.put node location tree.root }

/-- The tree once the system has shown something at a path. -/
def record (tree : FileTree) (path : Text) (finding : Finding) : FileTree :=
  match finding with
  | .content bytes => tree.plant path (.file bytes)
  | .refused .isDirectory => tree.plant path (.directory [])
  | .refused .notDirectory => tree.plant (Path.directory path) (.file [])
  | .refused .notFound => tree
  | .refused .nameTooLong => tree
  | .refused .notPermitted => tree

example : ((unsurveyed.record "a/b" (.content [1])).read "./a//../a/b").toOption = some [1] := by
  decide +kernel
example : ((unsurveyed.record "a/b" (.content [1])).read "a/x/../b").toOption = none := by
  decide +kernel
example : ((unsurveyed.record "a/x/../b" (.content [1])).read "a/b").toOption = some [1] := by
  decide +kernel

end FileTree

end KconfigReference
