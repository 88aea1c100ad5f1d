import Signpost.Regex.Expr

/-!
# Searching

A set of positions of a text is a natural number, bit `i` standing for position `i`.  Locating an
expression in a text replaces its character sets and conditions by the positions where they hold;
after that the positions reached from a set of positions are found without looking at the text.
An expression occurs in a text if some position is reached from some position.
-/

namespace Signpost.Regex

/-- An expression whose sets and conditions are given by the positions where they hold. -/
inductive Located
  /-- Nothing. -/
  | empty
  /-- One step forward from one of the given positions. -/
  | step (places : Nat)
  /-- No step, at one of the given positions. -/
  | stay (places : Nat)
  /-- One after the other. -/
  | seq (first second : Located)
  /-- Either. -/
  | alt (left right : Located)
  /-- At least `least` times, and at most `most` times if there is a bound. -/
  | times (body : Located) (least : Nat) (most : Option Nat)

namespace Located

/-- The set reached from `s` after exactly `n` steps of `f`; a set that no longer changes is
reached after any number of further steps. -/
def after (f : Nat → Nat) : Nat → Nat → Nat
  | 0, s => s
  | n + 1, s => if f s = s then s else after f n (f s)

/-- The set reached from `s` after at most `n` steps of `f`. -/
def within (f : Nat → Nat) : Nat → Nat → Nat
  | 0, s => s
  | n + 1, s => if s ||| f s = s then s else within f n (s ||| f s)

/-- The positions reached from a set of positions in a text of the given length.  An unbounded
number of repetitions reaches no more than one for every position. -/
def reach (length : Nat) : Located → Nat → Nat
  | .empty, s => s
  | .step places, s => (s &&& places) <<< 1
  | .stay places, s => s &&& places
  | .seq first second, s => reach length second (reach length first s)
  | .alt left right, s => reach length left s ||| reach length right s
  | .times body least most, s =>
    within (reach length body) ((most.map (· - least)).getD (length + 1))
      (after (reach length body) least s)

end Located

/-- The positions `i < n` at which `p i` holds. -/
def places (p : Nat → Bool) : Nat → Nat
  | 0 => 0
  | n + 1 => places p n ||| (if p n then 1 <<< n else 0)

namespace Expr

/-- The positions at which an expression's sets and conditions hold. -/
def locate (text : Array Char) : Expr → Located
  | .empty => .empty
  | .chars set => .step (places (fun i => text[i]?.any set.contains) text.size)
  | .look condition =>
    .stay (places (fun i => condition.holds (if i = 0 then none else text[i - 1]?) text[i]?)
      (text.size + 1))
  | .seq first second => .seq (locate text first) (locate text second)
  | .alt left right => .alt (locate text left) (locate text right)
  | .times body least most => .times (locate text body) least most

/-- Whether the expression matches some part of a text. -/
def occursIn (e : Expr) (text : String) : Bool :=
  let chars := text.toList.toArray
  (e.locate chars).reach chars.size (1 <<< (chars.size + 1) - 1) != 0

end Expr

end Signpost.Regex
