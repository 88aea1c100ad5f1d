import Signpost.Text.Pieces

/-!
# Paths

A declared path is joined to the path it is declared under the way directories are: empty parts
and `.` are dropped and `..` leaves the part before it.  The result is canonical, a single `/`
before every part.  A request path is only split, never resolved.
-/

namespace Signpost.Path

/-- Follow one part of a path from the place the parts so far lead to. -/
def follow (parts : List String) (part : String) : List String :=
  if part = "" ∨ part = "." then parts
  else if part = ".." then parts.dropLast
  else parts ++ [part]

/-- Where the parts of a path lead. -/
def resolve (parts : List String) : List String := parts.foldl follow []

/-- The canonical text of a list of parts. -/
def render (parts : List String) : String := "/" ++ "/".intercalate parts

/-- The path declared as `path` under `base`, in canonical form. -/
def join (base path : String) : String :=
  render (resolve (Text.pieces '/' base ++ Text.pieces '/' path))

/-- The segments of a path.  Slashes at its ends do not count, so `/` has none. -/
def segments (path : String) : List String :=
  let inner := Text.dropTrailing '/' (Text.dropLeading '/' path)
  if inner = "" then [] else Text.pieces '/' inner

@[simp] theorem follow_empty (parts : List String) : follow parts "" = parts := by simp [follow]

@[simp] theorem follow_dot (parts : List String) : follow parts "." = parts := by simp [follow]

/-- Two dots drop the last part, if there is one. -/
@[simp] theorem follow_dotdot (parts : List String) : follow parts ".." = parts.dropLast := by
  simp [follow]

end Signpost.Path
