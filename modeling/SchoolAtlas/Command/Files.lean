/-!
# Files

What a command finds under the paths that it looks at.

A command reads files and never writes one, so to a command the files are a
function from paths to what is there. A path may lead nowhere, and it may lead to
something that is there and yet cannot be read, such as a directory. The two are
told apart, because a table that is missing may be missing on purpose.

A `FileTree` is a small such world: some files below one directory, which paths
start from.

## Main definitions

* `Entry`: What is found under a path.
* `Files`: What is found under every path.
* `FileTree`: Some files below a directory.
* `FileTree.ofFiles`: The tree of some files.
* `FileTree.files`: What paths lead to in a tree.
-/

namespace SchoolAtlas

/-- What is found under a path. -/
inductive Entry where
  | missing
  /-- Something without contents, such as a directory. -/
  | unreadable
  | file (contents : ByteArray)
deriving Inhabited

namespace Entry

/-- Whether anything is there. -/
def isPresent : Entry → Bool
  | missing => false
  | unreadable | file _ => true

/-- The contents of a file. -/
def contents? : Entry → Option ByteArray
  | file contents => some contents
  | missing | unreadable => none

/-- The contents of a file that is a text. -/
def text? (e : Entry) : Option String := e.contents?.bind String.fromUTF8?

end Entry

/-- What is found under every path. -/
abbrev Files := String → Entry

namespace Path

/-- The path of an entry of a directory. -/
def child (directory name : String) : String :=
  if directory.endsWith "/" then directory ++ name else directory ++ "/" ++ name

/-- The names that a path consists of. -/
def parts (path : String) : List String :=
  (path.toList.splitOn '/').map String.ofList

end Path

/-- Some files below a directory, each under the names on the way to it. -/
structure FileTree where
  contents : List (List String × ByteArray)

namespace FileTree

/-- Whether a name of a path stays in the directory that it is looked up in. -/
def staysPut (name : String) : Bool := name = "" || name = "."

/-- The tree of some files under their paths. -/
def ofFiles (files : List (String × ByteArray)) : FileTree where
  contents := files.map fun (path, contents) =>
    ((Path.parts path).filter fun name => !staysPut name, contents)

/-- What is found at the end of a way from the directory. Every way to a file
    leads through directories. -/
def entry (t : FileTree) (way : List String) : Entry :=
  match t.contents.find? (fun f => f.1 = way) with
  | some (_, contents) => .file contents
  | none =>
    if way.isEmpty || t.contents.any (fun f => way.isPrefixOf f.1) then .unreadable else .missing

/-- Follows a path from a directory, which is given by the way to it with the last
    name first. Nothing is known of what lies above the tree. -/
def follow (t : FileTree) : List String → List String → Entry
  | way, [] => t.entry way.reverse
  | way, name :: rest =>
    -- Only a directory can be gone through.
    match t.entry way.reverse with
    | .unreadable =>
      if staysPut name then follow t way rest
      else if name = ".." then
        match way with
        | [] => .missing
        | _ :: way => follow t way rest
      else follow t (name :: way) rest
    | .missing | .file _ => .missing

/-- What paths lead to in a tree. Absolute paths lead out of it. -/
def files (t : FileTree) : Files := fun path =>
  if path = "" || path.startsWith "/" then .missing else t.follow [] (Path.parts path)

end FileTree

end SchoolAtlas
