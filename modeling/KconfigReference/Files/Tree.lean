import KconfigReference.Text.Basic
import KconfigReference.Text.Utf8

/-!
Paths, and trees of files in which they mean something. As a text a path is names between slashes. A
run of slashes separates like a single one, and the name `.` says nothing; both are left out of the
normal form, while `..` stays.

In a tree a path is followed name by name from the home directory: every name but the last must be a
directory, `..` is the directory above, and no path reaches above the root.
-/

namespace KconfigReference

namespace Path

/-- The texts between the slashes, empty ones included. -/
def components (path : Text) : List Text := Text.pieces (· = '/') path

/-- The names of a path, without those that say nothing. -/
def names (path : Text) : List Text := (components path).filter fun c => c ≠ [] && c ≠ ['.']

/-- What stands before the first name: exactly two leading slashes are kept as they are, any other
number of them is one slash. -/
def root (path : Text) : Text :=
  match path with
  | '/' :: '/' :: '/' :: _ => ['/']
  | '/' :: '/' :: _ => ['/', '/']
  | '/' :: _ => ['/']
  | _ => []

/-- The normal form; the path without root and names is `.`. -/
def normal (path : Text) : Text :=
  match root path ++ Text.join ['/'] (names path) with
  | [] => ['.']
  | text => text

/-- The last name. -/
def name (path : Text) : Text := (names path).getLastD []

/-- The last name's part from its last period on; none when nothing stands before or after that
period. -/
def suffix (path : Text) : Text :=
  let last := name path
  let stem := (last.reverse.dropWhile (· ≠ '.')).drop 1
  let ending := last.reverse.takeWhile (· ≠ '.')
  if ending ≠ [] && stem ≠ [] then '.' :: ending.reverse else []

/-- The part of a path before its last slash, without the slashes at its end unless it consists of
slashes only. -/
def directory (path : Text) : Text :=
  let head := Text.dropTrailing (· ≠ '/') path
  if head.all (· = '/') then head else Text.dropTrailing (· = '/') head

end Path

/-- Why the system refuses a path. -/
inductive SystemError where
  | notFound
  | isDirectory
  | notDirectory
  | nameTooLong
  | notPermitted
deriving Repr, DecidableEq

def SystemError.reason : SystemError → Text
  | .notFound => "No such file or directory"
  | .isDirectory => "Is a directory"
  | .notDirectory => "Not a directory"
  | .nameTooLong => "File name too long"
  | .notPermitted => "Permission denied"

/-- A file with its bytes, or a directory with its entries. -/
inductive Node where
  | file (content : Bytes)
  | directory (entries : List (Text × Node))

namespace Node

def child? (name : Text) : List (Text × Node) → Option Node
  | [] => none
  | (n, node) :: rest => if n = name then some node else child? name rest

/-- Puts a node at a name: in the name's place if it has one, else at the end. -/
def putEntry (name : Text) (node : Node) : List (Text × Node) → List (Text × Node)
  | [] => [(name, node)]
  | (n, old) :: rest =>
      if n = name then (n, node) :: rest else (n, old) :: putEntry name node rest

def dropEntry (name : Text) (entries : List (Text × Node)) : List (Text × Node) :=
  entries.filter fun (n, _) => n ≠ name

/-- The node at the end of a list of names. -/
def at? (node : Node) : List Text → Option Node
  | [] => some node
  | name :: rest =>
      match node with
      | .file _ => none
      | .directory entries =>
          match child? name entries with
          | none => none
          | some child => child.at? rest

/-- The tree with another node at the end of a list of names; directories that are missing on the
way are made, and a file on the way stops the change. -/
def put (new : Node) : List Text → Node → Node
  | [], _ => new
  | _ :: _, .file content => .file content
  | name :: rest, .directory entries =>
      let child := (child? name entries).getD (.directory [])
      .directory (putEntry name (put new rest child) entries)

/-- The tree without the node at the end of a list of names. -/
def drop : List Text → Node → Node
  | [], node => node
  | _ :: _, .file content => .file content
  | [name], .directory entries => .directory (dropEntry name entries)
  | name :: rest, .directory entries =>
      match child? name entries with
      | none => .directory entries
      | some child => .directory (putEntry name (drop rest child) entries)

mutual

/-- All files below a node, with the names that lead to them. -/
def files (names : List Text) : Node → List (List Text × Bytes)
  | .file content => [(names, content)]
  | .directory entries => filesOf names entries

def filesOf (names : List Text) : List (Text × Node) → List (List Text × Bytes)
  | [] => []
  | (name, node) :: rest => node.files (names ++ [name]) ++ filesOf names rest

end

end Node

/-- Files below a root, and the directory from which paths start. -/
structure FileTree where
  root : Node
  home : List Text

namespace FileTree

/-- The greatest number of bytes in a name. -/
def nameLimit : Nat := 255

/-- The number of bytes that no path reaches. -/
def pathLimit : Nat := 4096

/-- One name further from a location. -/
def enter (tree : FileTree) (here : List Text) (name : Text) : Except SystemError (List Text) :=
  match tree.root.at? here with
  | none => .error .notFound
  | some (.file _) => .error .notDirectory
  | some (.directory entries) =>
      if name = [] || name = ['.'] then .ok here
      else if name = ['.', '.'] then .ok here.dropLast
      else if nameLimit < Utf8.size name then .error .nameTooLong
      else if (Node.child? name entries).isSome then .ok (here ++ [name])
      else .error .notFound

/-- Where a path starts: at the root if it begins with a slash. -/
def start (tree : FileTree) (path : Text) : List Text :=
  if path.head? = some '/' then [] else tree.home

/-- The location of what a path names. -/
def locate (tree : FileTree) (path : Text) : Except SystemError (List Text) :=
  if path = [] then .error .notFound
  else if pathLimit ≤ Utf8.size path then .error .nameTooLong
  else (Path.components path).foldlM tree.enter (tree.start path)

/-- The bytes of the file that a path names. -/
def read (tree : FileTree) (path : Text) : Except SystemError Bytes :=
  match tree.locate path with
  | .error e => .error e
  | .ok location =>
      match tree.root.at? location with
      | some (.file content) => .ok content
      | some (.directory _) => .error .isDirectory
      | none => .error .notFound

/-- The location where a path opened for writing puts its file. A path that ends in a slash names
a directory. -/
def target (tree : FileTree) (path : Text) : Except SystemError (List Text) :=
  if path = [] then .error .notFound
  else if pathLimit ≤ Utf8.size path then .error .nameTooLong
  else
    let closed := path.getLast? = some '/'
    let components := Path.components (Text.dropTrailing (· = '/') path)
    let last := components.getLastD []
    match components.dropLast.foldlM tree.enter (tree.start path) with
    | .error e => .error e
    | .ok parent =>
        match tree.root.at? parent with
        | none => .error .notFound
        | some (.file _) => .error .notDirectory
        | some (.directory entries) =>
            if closed || last = [] || last = ['.'] || last = ['.', '.'] then .error .isDirectory
            else if nameLimit < Utf8.size last then .error .nameTooLong
            else
              match Node.child? last entries with
              | some (.directory _) => .error .isDirectory
              | _ => .ok (parent ++ [last])

/-- The tree after the file that a path names has been given new bytes; a file that does not exist
is made. -/
def write (tree : FileTree) (path : Text) (content : Bytes) : Except SystemError FileTree :=
  (tree.target path).map fun location =>
    { tree with root := Node.put (.file content) location tree.root }

/-- Whether a path names something; reasons other than an absent or unreachable name are errors. -/
def exists? (tree : FileTree) (path : Text) : Except SystemError Bool :=
  match tree.locate path with
  | .ok _ => .ok true
  | .error .notFound => .ok false
  | .error .notDirectory => .ok false
  | .error e => .error e

/-- The tree without the file that a path names. The system may refuse to remove it. -/
def remove (tree : FileTree) (path : Text) (refusal : Option SystemError) :
    Except SystemError FileTree :=
  match tree.locate path with
  | .error e => .error e
  | .ok location =>
      match tree.root.at? location, refusal with
      | some (.directory _), _ => .error .isDirectory
      | _, some e => .error e
      | _, none => .ok { tree with root := tree.root.drop location }

/-- All files, with the names that lead to them from the root. -/
def allFiles (tree : FileTree) : List (List Text × Bytes) := tree.root.files []

end FileTree

end KconfigReference
