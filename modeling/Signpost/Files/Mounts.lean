import Signpost.Route.Tree

/-!
# Mounts

A mount is a place at which files are served.  Mounts are tried from the deepest to the root.  A
path belongs to the first one whose text it begins with, and what follows is the remainder.
-/

namespace Signpost.Files

universe u

/-- A place at which files are served. -/
structure Mount (α : Type u) where
  /-- Its path. -/
  base : String
  /-- The number of its segments. -/
  depth : Nat
  /-- What answers there. -/
  value : α

/-- Whether a mount may be tried before another: by depth, then by path. -/
def Mount.goesBefore {α : Type u} (a b : Mount α) : Bool :=
  if a.depth = b.depth then a.base ≤ b.base else b.depth < a.depth

/-- Mounts in the order in which they are tried. -/
structure Mounts (α : Type u) where
  /-- The mounts, each of which may be tried before those after it. -/
  toList : List (Mount α) := []

namespace Mounts

variable {α : Type u}

/-- The mounts in a tree. -/
def ofTree (tree : Route.Tree α) : Mounts α :=
  ⟨(tree.entries.map fun entry => ⟨Path.render entry.1, entry.1.length, entry.2⟩).mergeSort
    Mount.goesBefore⟩

/-- What answers a path, and the remainder of the path. -/
def resolve? (mounts : Mounts α) (path : String) : Option (α × String) :=
  mounts.toList.findSome? fun mount => (Text.after? mount.base path).map (mount.value, ·)

end Mounts

end Signpost.Files
