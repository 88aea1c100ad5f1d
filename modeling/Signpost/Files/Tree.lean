import Signpost.Text.Pieces

/-!
# File trees

A file system is a tree of directories and files.  A path leads from its root to a place in it:
every part but the last leads from a directory, `..` to the directory before it, and an empty part
or `.` nowhere else.
-/

namespace Signpost.Files

/-- A directory with what is in it, or a file. -/
inductive Tree
  /-- A file with its content. -/
  | file (content : ByteArray)
  /-- A directory. -/
  | dir (entries : List (String × Tree))
  deriving Inhabited

/-- The parts of a path from the root. -/
abbrev FilePath := List String

/-- Go on from a path by a text.  One that begins with a slash begins again at the root. -/
def FilePath.push (path : FilePath) (text : String) : FilePath :=
  match Text.after? "/" text with
  | some rest => Text.pieces '/' rest
  | none => path ++ Text.pieces '/' text

namespace Tree

/-- What is in a directory under a name. -/
def child? : Tree → String → Option Tree
  | .file _, _ => none
  | .dir entries, name => entries.lookup name

/-- Whether this is a directory. -/
def isDir : Tree → Bool
  | .file _ => false
  | .dir _ => true

/-- Follow the parts of a path, given the directories on the way to the place, nearest first. -/
def follow (above : List Tree) (place : Tree) : FilePath → Option Tree
  | [] => some place
  | part :: rest =>
    if !place.isDir then none
    else if part = "" ∨ part = "." then follow above place rest
    else if part = ".." then
      match above with
      | [] => follow [] place rest
      | parent :: above => follow above parent rest
    else
      match place.child? part with
      | some next => follow (place :: above) next rest
      | none => none

/-- What a path from the root leads to. -/
def locate (root : Tree) (path : FilePath) : Option Tree := root.follow [] path

/-- Put a tree at the place that some names lead to, making the directories on the way.  What
stands in its way is replaced. -/
def place (tree : Tree) : List String → Tree → Tree
  | [], _ => tree
  | name :: names, root =>
    let entries := match root with
      | .dir entries => entries
      | .file _ => []
    let old := (entries.lookup name).getD (.dir [])
    .dir (entries.filter (·.1 != name) ++ [(name, tree.place names old)])

end Tree

end Signpost.Files
