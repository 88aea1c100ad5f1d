import Signpost.Path
import Signpost.Route.Pattern
import Signpost.Route.Placeholder

/-!
# Segments

The segments of a declared path: literal text, variables, and variables whose text has to match a
pattern.  A variable that may be missing can only be the last segment.
-/

namespace Signpost.Route

/-- A segment of a declared path. -/
inductive Segment
  /-- The very text. -/
  | literal (text : String)
  /-- Any text, bound to a name. -/
  | variable (name : String) (isOptional : Bool)
  /-- A text that the pattern accepts, bound to a name. -/
  | constrained (name : String) (pattern : Pattern) (isOptional : Bool)

namespace Segment

/-- Whether the segment may be missing. -/
def isOptional : Segment → Bool
  | .literal _ => false
  | .variable _ isOptional => isOptional
  | .constrained _ _ isOptional => isOptional

/-- The name that the segment's text is bound to. -/
def param? : Segment → Option String
  | .literal _ => none
  | .variable name _ => some name
  | .constrained name _ _ => some name

/-- How a segment is written; the text of a pattern follows the name. -/
def render : Segment → String
  | .literal text => text
  | .variable name isOptional => Placeholder.render ⟨name, isOptional⟩
  | .constrained name pattern isOptional =>
    "\x7b" ++ name ++ (if isOptional then "?" else "") ++ ":" ++ pattern.text ++ "\x7d"

/-- What a placeholder stands for if its parameter has the given pattern.  One without a name is
never constrained. -/
def ofPlaceholder (p : Placeholder) : Option Pattern → Segment
  | some pattern =>
    if p.name = "" then .variable p.name p.isOptional
    else .constrained p.name pattern p.isOptional
  | none => .variable p.name p.isOptional

/-- What a written segment stands for, `last` saying whether it is the last one. -/
def classify (patternOf : String → Option Pattern) (last : Bool) (segment : String) :
    Except RouteFault Segment :=
  match Placeholder.parse? segment with
  | none => .ok (.literal segment)
  | some p =>
    if p.isOptional && !last then .error .optionalNotLast
    else .ok (ofPlaceholder p (patternOf p.name))

/-- What the written segments stand for. -/
def classifyAll (patternOf : String → Option Pattern) :
    List String → Except RouteFault (List Segment)
  | [] => .ok []
  | segment :: rest => do
    let first ← classify patternOf rest.isEmpty segment
    return first :: (← classifyAll patternOf rest)

/-- The segments of a declared path.  A parameter's own constraint goes before its default. -/
def ofPath (path : String) (constraints defaults : Patterns) : Except Error (List Segment) :=
  (classifyAll (fun name => constraints.get? name <|> defaults.get? name)
    (Path.segments path)).mapError (.malformedRoute path)

end Segment

end Signpost.Route
