import Signpost.Regex.Escape

/-!
# Bracketed sets

A set in brackets is a union of characters, ranges, classes and further sets in brackets, and
unions can be combined by `&&`, `--` and `~~`, which bind equally and to the left.
-/

namespace Signpost.Regex

/-- The ways to combine two sets. -/
inductive SetOp
  /-- Members of both. -/
  | inter
  /-- Members of the first only. -/
  | diff
  /-- Members of one of them only. -/
  | symmDiff
  deriving DecidableEq, Repr

/-- Combine two sets. -/
def SetOp.apply : SetOp → CharSet → CharSet → CharSet
  | .inter => .inter
  | .diff => .diff
  | .symmDiff => .symmDiff

/-- A set and how deeply it is nested. -/
structure NestedSet where
  /-- The members. -/
  members : CharSet
  /-- The depth of nesting. -/
  depth : Nat

/-- A bracket that is not closed yet. -/
structure Bracket where
  /-- Whether the complement is asked for. -/
  negated : Bool
  /-- The set to the left, and the operation that waits for the one to the right. -/
  pending : Option (SetOp × NestedSet)
  /-- The members of the union so far, last first. -/
  items : List NestedSet

namespace Bracket

/-- The union of the members so far. -/
def union (bracket : Bracket) : NestedSet :=
  match bracket.items with
  | [] => ⟨.empty, 0⟩
  | [only] => only
  | items =>
    ⟨items.foldr (fun item set => set.union item.members) .empty,
      1 + items.foldl (fun depth item => max depth item.depth) 0⟩

/-- The union so far, after the operation that waits for it. -/
def value (flags : Flags) (bracket : Bracket) : NestedSet :=
  match bracket.pending with
  | none => bracket.union
  | some (op, left) =>
    let right := bracket.union
    ⟨op.apply (flags.fold left.members) (flags.fold right.members),
      1 + max left.depth right.depth⟩

/-- Add a member to the union. -/
def add (bracket : Bracket) (item : NestedSet) : Bracket :=
  { bracket with items := item :: bracket.items }

/-- The set of a bracket that is closed. -/
def close (flags : Flags) (bracket : Bracket) : Except SyntaxError NestedSet := do
  let set := bracket.value flags
  return ⟨← flags.negateIf bracket.negated (flags.fold set.members), 1 + set.depth⟩

/-- Begin the right side of an operation. -/
def operate (flags : Flags) (bracket : Bracket) (op : SetOp) : Bracket :=
  { bracket with pending := some (op, bracket.value flags), items := [] }

end Bracket

/-- The set of one character. -/
def memberChar (flags : Flags) (c : Char) (byte : Bool) : Except SyntaxError CharSet :=
  if flags.unicode || Text.isAscii c then .ok (.single c)
  else .error (if byte then .partialCharacter else .setMember)

/-- What an atom contributes to a set. -/
def memberSet (flags : Flags) : Atom → Except SyntaxError CharSet
  | .char c byte => memberChar flags c byte
  | .set members => .ok members
  | .look _ => .error .setMember

/-- Read the beginning of a bracket, after `[`: a caret for the complement, then hyphens, which
stand for themselves here, or a closing bracket, which also does. -/
def openBracket (flags : Flags) (text : List Char) : Except SyntaxError (Bracket × List Char) := do
  let (negated, text) := match flags.skip text with
    | '^' :: rest => (true, flags.skip rest)
    | text => (false, text)
  match flags.takeUntil (· != '-') false text with
  | none => .error .setUnclosed
  | some (hyphens, rest) =>
    let bracket : Bracket := ⟨negated, none, hyphens.map fun c => ⟨.single c, 0⟩⟩
    match hyphens, rest with
    | [], ']' :: rest =>
      match flags.skip rest with
      | [] => .error .setUnclosed
      | rest => return (bracket.add ⟨.single ']', 0⟩, rest)
    | _, rest => return (bracket, rest)

/-- Read a class such as `[:alpha:]`, after its first bracket. -/
def asciiMember? (text : List Char) : Option (Bool × CharSet × List Char) :=
  match text with
  | ':' :: rest =>
    let (negated, rest) := match rest with
      | '^' :: rest => (true, rest)
      | rest => (false, rest)
    match rest.span (· != ':') with
    | (name, ':' :: ']' :: rest) =>
      (asciiClass? (String.ofList name)).map fun members => (negated, members, rest)
    | _ => none
  | _ => none

/-- The character after a hyphen, by which it is known whether the hyphen makes a range. -/
def peekMember (flags : Flags) (text : List Char) : Option Char :=
  if flags.verbose then
    match text.dropWhile Text.isWhitespace with
    | '#' :: rest => (rest.dropWhile Text.isWhitespace).head?
    | text => text.head?
  else text.head?

/-- Read a single member, without looking for a range. -/
def readMember [Engine] (flags : Flags) : List Char → Except SyntaxError (Atom × List Char)
  | [] => .error .setUnclosed
  | '\\' :: rest => readEscape flags rest
  | c :: rest => .ok (.char c false, rest)

/-- Read a member or a range. -/
def readRange [Engine] (flags : Flags) (text : List Char) :
    Except SyntaxError (CharSet × List Char) := do
  let (first, rest) ← readMember flags text
  match flags.skip rest with
  | [] => .error .setUnclosed
  | '-' :: after =>
    if peekMember flags after ∈ [some ']', some '-'] then
      return (← memberSet flags first, '-' :: after)
    else
      let (last, rest) ← readMember flags (flags.skip after)
      match first, last with
      | .char a byteA, .char b byteB =>
        discard (memberChar flags a byteA)
        discard (memberChar flags b byteB)
        if a ≤ b then return (.range a b, rest) else .error .setRange
      | _, _ => .error .setRange
  | rest => return (← memberSet flags first, rest)

/-- Read on inside brackets, the innermost first.  Every step takes a character of the text, so
that `fuel`, its length, suffices. -/
def readSetFrom [Engine] (flags : Flags) :
    (fuel : Nat) → Bracket → List Bracket → List Char →
      Except SyntaxError (NestedSet × List Char)
  | 0, _, _, _ => .error .setUnclosed
  | fuel + 1, bracket, outer, text =>
    match flags.skip text with
    | [] => .error .setUnclosed
    | '[' :: rest =>
      match asciiMember? rest with
      | some (negated, members, rest) => do
        let members ← flags.negateIf negated (flags.fold members)
        readSetFrom flags fuel (bracket.add ⟨members, 0⟩) outer rest
      | none => do
        let (inner, rest) ← openBracket flags rest
        readSetFrom flags fuel inner (bracket :: outer) rest
    | ']' :: rest => do
      let set ← bracket.close flags
      match outer with
      | [] => return (set, rest)
      | next :: outer => readSetFrom flags fuel (next.add set) outer rest
    | '&' :: '&' :: rest => readSetFrom flags fuel (bracket.operate flags .inter) outer rest
    | '-' :: '-' :: rest => readSetFrom flags fuel (bracket.operate flags .diff) outer rest
    | '~' :: '~' :: rest => readSetFrom flags fuel (bracket.operate flags .symmDiff) outer rest
    | text => do
      let (members, rest) ← readRange flags text
      readSetFrom flags fuel (bracket.add ⟨members, 0⟩) outer rest

/-- Read a bracketed set, after its first bracket. -/
def readSet [Engine] (flags : Flags) (text : List Char) :
    Except SyntaxError (NestedSet × List Char) := do
  let (bracket, rest) ← openBracket flags text
  readSetFrom flags (rest.length + 1) bracket [] rest

end Signpost.Regex
