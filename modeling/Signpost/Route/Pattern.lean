import Signpost.Dict
import Signpost.Error
import Signpost.Regex.Parser
import Signpost.Regex.Search

/-!
# Patterns

A pattern is a regular expression that a parameter has to match from its first to its last
character.  Patterns can be kept as defaults under the names of parameters.
-/

namespace Signpost.Route

/-- A compiled pattern. -/
structure Pattern where
  /-- Its text, with the anchors. -/
  text : String
  /-- The expression that the text stands for. -/
  expr : Regex.Expr

namespace Pattern

/-- An expression tied to the beginning and the end of a text. -/
def anchored (source : String) : String := "^(?:" ++ source ++ ")$"

/-- Whether a pattern accepts a text. -/
def accepts (pattern : Pattern) (text : String) : Bool := pattern.expr.occursIn text

/-- The pattern of a parameter. -/
def compile [Regex.Engine] (param source : String) : Except Error Pattern :=
  match Regex.parse (anchored source) with
  | .ok expr => .ok ⟨anchored source, expr⟩
  | .error cause => .error (.invalidPattern param cause)

end Pattern

/-- Patterns by the names of the parameters they are for. -/
abbrev Patterns := Dict String Pattern

/-- Compile a pattern and put it in the place of the one its parameter had. -/
def Patterns.declare (patterns : Patterns) (param source : String) : Except Error Patterns := do
  return patterns.insert param (← Pattern.compile param source)

/-- Declare patterns one after the other. -/
def Patterns.declareAll (patterns : Patterns) (sources : List (String × String)) :
    Except Error Patterns :=
  sources.foldlM (fun patterns source => patterns.declare source.1 source.2) patterns

end Signpost.Route
