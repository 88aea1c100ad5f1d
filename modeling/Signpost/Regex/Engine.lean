import Signpost.Regex.Expr
import Signpost.Regex.Property

/-!
# Engines

What an expression stands for depends on its text and on two things that an engine adds: which
characters have a property, and whether an expression fits into the room that its program is given.
Nothing about reading and matching depends on either.  The standard engine knows the properties of
Unicode by their tables and goes by an estimate of the room.
-/

namespace Signpost.Regex

namespace Expr

/-- Whether an expression takes no characters wherever it matches. -/
def isWidthless : Expr → Bool
  | .empty => true
  | .chars _ => false
  | .look _ => true
  | .seq first second => isWidthless first && isWidthless second
  | .alt left right => isWidthless left && isWidthless right
  | .times body _ most => isWidthless body || most == some 0

/-- An estimate of the room, in bytes, that an expression takes once its repetitions are unfolded.
What takes no characters is not repeated more than once. -/
def weight : Expr → Nat
  | .empty => 32
  | .chars set => 32 + set.room
  | .look _ => 32
  | .seq first second => weight first + weight second
  | .alt left right => 40 + weight left + weight right
  | .times body least most =>
    if most == some 0 then 32
    else if isWidthless body then 40 + weight body
    else
      match most with
      | none => 40 + max least 1 * weight body
      | some most => 32 + least * weight body + (most - least) * (40 + weight body)

end Expr

/-- How much room the program of an expression may take, in bytes. -/
def maxWeight : Nat := 10 * 1024 * 1024

/-- What an engine adds to the text of an expression. -/
class Engine where
  /-- The characters that have a property, if the engine knows it. -/
  property? : Property → Option CharSet
  /-- Whether the expression that a text was read as fits into the room there is. -/
  fits : String → Expr → Bool

/-- The engine that runs. -/
instance Engine.standard : Engine where
  property? := Property.set?
  fits _ expr := expr.weight ≤ maxWeight

end Signpost.Regex
