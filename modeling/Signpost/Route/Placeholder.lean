import Signpost.Text.Pieces

/-!
# Placeholders

A segment in braces is a placeholder: `{id}` stands for one segment of a request and binds it to
the name `id`, `{id?}` may also be missing, and `{}` binds nothing.
-/

namespace Signpost.Route

/-- A segment that stands for any text. -/
structure Placeholder where
  /-- The name it is bound to; an empty name binds nothing. -/
  name : String
  /-- Whether it may be missing. -/
  isOptional : Bool
  deriving DecidableEq, Repr

namespace Placeholder

/-- How a placeholder is written. -/
def render (p : Placeholder) : String :=
  "\x7b" ++ p.name ++ (if p.isOptional then "?" else "") ++ "\x7d"

/-- The placeholder with the given text between its braces. -/
def ofInner (inner : List Char) : Placeholder :=
  if inner.getLast? = some '?' then ⟨String.ofList inner.dropLast, true⟩
  else ⟨String.ofList inner, false⟩

/-- Read a segment as a placeholder. -/
def parse? (segment : String) : Option Placeholder :=
  (Text.between? '\x7b' '\x7d' segment).map ofInner

end Placeholder

end Signpost.Route
