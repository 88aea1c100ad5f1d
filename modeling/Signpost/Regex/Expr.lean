import Signpost.Regex.CharSet

/-!
# Regular expressions

An expression says between which positions of a text it matches.  A position lies before a
character or at the end of the text.  `Expr.Spans` is that relation; how it is decided is in
`Signpost.Regex.Search`.
-/

namespace Signpost.Regex

/-- A condition on a position that takes no character. -/
inductive Look
  /-- The beginning of the text. -/
  | start
  /-- The end of the text. -/
  | finish
  /-- The beginning of a line; with `crlf` lines end with a carriage return, a line feed or both. -/
  | lineStart (crlf : Bool)
  /-- The end of a line. -/
  | lineFinish (crlf : Bool)
  /-- The side of a word: `before` and `after` say whether a word character must stand there. -/
  | edge (before after : Option Bool) (ascii : Bool)
  /-- Between a word character and none. -/
  | boundary (ascii : Bool)
  /-- Between two word characters, or between none. -/
  | inside (ascii : Bool)
  deriving DecidableEq, Repr

namespace Look

/-- The characters that words are made of. -/
def words (ascii : Bool) : CharSet := if ascii then asciiWordChars else wordChars

/-- Whether the condition holds between the characters `before` and `after`; at an end of the text
there is none. -/
def holds (look : Look) (before after : Option Char) : Bool :=
  match look with
  | .start => before.isNone
  | .finish => after.isNone
  | .lineStart false => before.all (· == '\n')
  | .lineFinish false => after.all (· == '\n')
  | .lineStart true => before.all fun c => c == '\n' || (c == '\r' && after != some '\n')
  | .lineFinish true => after.all fun c => c == '\r' || (c == '\n' && before != some '\r')
  | .edge left right ascii =>
    left.all (· == before.any (words ascii).contains) &&
      right.all (· == after.any (words ascii).contains)
  | .boundary ascii => before.any (words ascii).contains != after.any (words ascii).contains
  | .inside ascii => before.any (words ascii).contains == after.any (words ascii).contains

end Look

/-- A regular expression. -/
inductive Expr
  /-- Nothing. -/
  | empty
  /-- One character of a set. -/
  | chars (set : CharSet)
  /-- A condition on the position. -/
  | look (condition : Look)
  /-- One expression, then another. -/
  | seq (first second : Expr)
  /-- Either expression. -/
  | alt (left right : Expr)
  /-- At least `least` times, and at most `most` times if there is a bound. -/
  | times (body : Expr) (least : Nat) (most : Option Nat)

namespace Expr

/-- The expression that matches nowhere. -/
def fail : Expr := .chars .empty

/-- One of the given characters. -/
def char (c : Char) : Expr := .chars (.single c)

/-- The given expressions one after the other. -/
def concat (items : List Expr) : Expr := items.foldr .seq .empty

/-- One of the given expressions. -/
def oneOf : List Expr → Expr
  | [] => .fail
  | [only] => only
  | first :: rest => .alt first (oneOf rest)

/-- The position pairs related by exactly `n` steps of a relation. -/
def Steps (step : Nat → Nat → Prop) : Nat → Nat → Nat → Prop
  | 0, i, j => i = j
  | n + 1, i, j => ∃ k, step i k ∧ Steps step n k j

/-- `e.Spans text i j` says that `e` matches what stands between the positions `i` and `j`. -/
def Spans (text : List Char) : Expr → Nat → Nat → Prop
  | .empty, i, j => i = j
  | .chars set, i, j => j = i + 1 ∧ ∃ c, text[i]? = some c ∧ set.contains c
  | .look condition, i, j =>
    i = j ∧ i ≤ text.length ∧
      condition.holds (if i = 0 then none else text[i - 1]?) text[i]? = true
  | .seq first second, i, j => ∃ k, Spans text first i k ∧ Spans text second k j
  | .alt left right, i, j => Spans text left i j ∨ Spans text right i j
  | .times body least most, i, j =>
    ∃ n, least ≤ n ∧ (∀ m, most = some m → n ≤ m) ∧ Steps (Spans text body) n i j

end Expr

end Signpost.Regex
