import Signpost.Regex.Bracket

/-!
# Reading expressions

An expression is read from left to right.  What has been read is kept as the items of the current
sequence, the finished alternatives before it, and the groups that are still open.
-/

namespace Signpost.Regex

/-- A finished part of an expression. -/
structure Item where
  /-- What it stands for. -/
  expr : Expr
  /-- The depth of nesting. -/
  depth : Nat
  /-- Whether it can be repeated; a setting of flags cannot. -/
  repeatable : Bool := true

namespace Item

/-- Items one after the other, given last first. -/
def sequence : List Item → Item
  | [] => ⟨.empty, 0, true⟩
  | [only] => only
  | items =>
    ⟨.concat (items.reverse.map (·.expr)), 1 + items.foldl (fun d i => max d i.depth) 0, true⟩

/-- Alternatives, given last first. -/
def alternatives : List Item → Item
  | [] => ⟨.empty, 0, true⟩
  | [only] => only
  | items =>
    ⟨.oneOf (items.reverse.map (·.expr)), 1 + items.foldl (fun d i => max d i.depth) 0, true⟩

end Item

/-- The part of an expression around an open group. -/
structure Level where
  /-- The items of the sequence that the group stands in, last first. -/
  items : List Item
  /-- The alternatives before that sequence, last first. -/
  branches : List Item
  /-- The flags in force before the group. -/
  flags : Flags

/-- What has been read of an expression. -/
structure Progress where
  /-- The items of the current sequence, last first. -/
  items : List Item := []
  /-- The alternatives before it, last first. -/
  branches : List Item := []
  /-- The flags in force. -/
  flags : Flags := {}
  /-- The groups that are open, the innermost first. -/
  outer : List Level := []
  /-- The names of the groups so far. -/
  names : List String := []

namespace Progress

/-- Add an item to the current sequence. -/
def push (p : Progress) (item : Item) : Progress := { p with items := item :: p.items }

/-- Add a part that is not made of other parts. -/
def pushExpr (p : Progress) (expr : Expr) : Progress := p.push ⟨expr, 0, true⟩

/-- The current sequence with the alternatives before it. -/
def value (p : Progress) : Item := .alternatives (.sequence p.items :: p.branches)

/-- Begin another alternative. -/
def branch (p : Progress) : Progress :=
  { p with items := [], branches := .sequence p.items :: p.branches }

/-- Begin a group in which the given flags are in force. -/
def openGroup (p : Progress) (flags : Flags) : Progress :=
  { p with items := [], branches := [], flags, outer := ⟨p.items, p.branches, p.flags⟩ :: p.outer }

/-- End the innermost group. -/
def closeGroup (p : Progress) : Except SyntaxError Progress :=
  match p.outer with
  | [] => .error .groupUnopened
  | level :: outer =>
    let inner := p.value
    .ok { p with
      items := ⟨inner.expr, inner.depth + 1, true⟩ :: level.items
      branches := level.branches
      flags := level.flags
      outer := outer }

/-- Repeat the last item. -/
def repeatLast (p : Progress) (least : Nat) (most : Option Nat) : Except SyntaxError Progress :=
  match p.items with
  | [] => .error .nothingToRepeat
  | item :: items =>
    if item.repeatable then
      .ok { p with items := ⟨.times item.expr least most, item.depth + 1, true⟩ :: items }
    else .error .nothingToRepeat

/-- Add an atom. -/
def pushAtom (p : Progress) : Atom → Except SyntaxError Progress
  | .char c byte =>
    if byte && !p.flags.unicode && !Text.isAscii c then .error .partialCharacter
    else .ok (p.pushExpr (p.flags.charExpr c))
  | .set members => .ok (p.pushExpr (.chars members))
  | .look condition => .ok (p.pushExpr (.look condition))

end Progress

/-- Read flags up to the `:` or `)` after them.  `on` says whether flags are being set, `dangling`
whether the last character was the hyphen, `seen` which flags came before.  Beside the flags it is
told whether none were written, and which character came after them. -/
def readFlags (flags : Flags) (on dangling : Bool) (seen : List Char) :
    List Char → Except SyntaxError (Flags × Bool × Char × List Char)
  | [] => .error .unfinished
  | c :: rest =>
    if c = ':' ∨ c = ')' then
      if dangling then .error .flag else .ok (flags, seen.isEmpty && on, c, rest)
    else if c = '-' then
      if on then readFlags flags false true seen rest else .error .flag
    else if seen.contains c then .error .flag
    else
      match flags.change c on with
      | some flags => readFlags flags on false (c :: seen) rest
      | none => .error .flag

/-- Whether a character can stand in the name of a group. -/
def isNameChar (c : Char) (first : Bool) : Bool :=
  if first then c == '_' || Text.isAlphabetic c
  else c == '_' || c == '.' || c == '[' || c == ']' || Text.isAlphanumeric c

/-- Read the name of a group, up to the `>` after it. -/
def readName (names : List String) (text : List Char) : Except SyntaxError (String × List Char) :=
  match text.span (· != '>') with
  | (name@(first :: others), _ :: rest) =>
    if isNameChar first true && others.all (isNameChar · false) &&
        !names.contains (String.ofList name) then
      .ok (String.ofList name, rest)
    else .error .groupName
  | _ => .error .groupName

/-- Read the beginning of a group, or a setting of flags, after `(`. -/
def readGroup (p : Progress) (text : List Char) : Except SyntaxError (Progress × List Char) :=
  let named (text : List Char) : Except SyntaxError (Progress × List Char) := do
    let (name, rest) ← readName p.names text
    return ({ p.openGroup p.flags with names := name :: p.names }, rest)
  match p.flags.skip text with
  | '?' :: '=' :: _ | '?' :: '!' :: _ | '?' :: '<' :: '=' :: _ | '?' :: '<' :: '!' :: _ =>
    .error .lookAround
  | '?' :: 'P' :: '<' :: rest => named rest
  | '?' :: '<' :: rest => named rest
  | '?' :: rest => do
    let (flags, unchanged, last, rest) ← readFlags p.flags true false [] rest
    if last = ')' then
      if unchanged then .error .nothingToRepeat
      else return ({ p.push ⟨.empty, 0, false⟩ with flags }, rest)
    else return (p.openGroup flags, rest)
  | rest => .ok (p.openGroup p.flags, rest)

/-- Read a decimal number, with the blanks around it; nothing if there is no digit. -/
def readDecimal (flags : Flags) (text : List Char) : Option Nat × List Char :=
  match flags.takeUntil (!·.isDigit) false (text.dropWhile Text.isWhitespace) with
  | none => (none, [])
  | some (digits, rest) =>
    let value := digits.foldl (fun n c => 10 * n + (c.toNat - '0'.toNat)) 0
    (if digits.isEmpty then none else some value,
      if flags.verbose then skipBlanks rest else rest.dropWhile Text.isWhitespace)

/-- Read the bounds of a repetition, after the brace. -/
def readBounds (flags : Flags) (text : List Char) :
    Except SyntaxError (Nat × Option Nat × List Char) :=
  let bound (n : Option Nat) : Except SyntaxError Nat :=
    match n with
    | some n => if n < 4294967296 then .ok n else .error .repetitionBounds
    | none => .error .repetitionBounds
  match readDecimal flags (flags.skip text) with
  | (least, ',' :: rest) =>
    match flags.skip rest with
    | '\x7d' :: rest => do return (← bound least, none, rest)
    | rest => do
      let least ← bound least
      match readDecimal flags rest with
      | (most, '\x7d' :: rest) =>
        let most ← bound most
        if least ≤ most then return (least, some most, rest) else .error .repetitionBounds
      | _ => .error .repetitionBounds
  | (count, '\x7d' :: rest) => do
    let count ← bound count
    return (count, some count, rest)
  | _ => .error .repetitionBounds

/-- The text after a mark that makes a repetition prefer fewer rounds, which changes nothing about
whether there is a match. -/
def dropLazyMark : List Char → List Char
  | '?' :: rest => rest
  | text => text

/-- Read one part of an expression, which begins with the given character. -/
def readPart [Engine] (p : Progress) (c : Char) (rest : List Char) :
    Except SyntaxError (Progress × List Char) :=
  match c with
  | '(' => readGroup p rest
  | ')' => do return (← p.closeGroup, rest)
  | '|' => .ok (p.branch, rest)
  | '[' => do
    let (set, rest) ← readSet p.flags rest
    return (p.push ⟨.chars set.members, set.depth, true⟩, rest)
  | '?' => do return (← p.repeatLast 0 (some 1), dropLazyMark rest)
  | '*' => do return (← p.repeatLast 0 none, dropLazyMark rest)
  | '+' => do return (← p.repeatLast 1 none, dropLazyMark rest)
  | '\x7b' => do
    let (least, most, rest) ← readBounds p.flags rest
    return (← p.repeatLast least most, dropLazyMark (p.flags.skip rest))
  | '\\' => do
    let (atom, rest) ← readEscape p.flags rest
    return (← p.pushAtom atom, rest)
  | '.' => do return (p.pushExpr (← p.flags.dotExpr), rest)
  | '^' => .ok (p.pushExpr (.look p.flags.startLook), rest)
  | '$' => .ok (p.pushExpr (.look p.flags.finishLook), rest)
  | c => .ok (p.pushExpr (p.flags.charExpr c), rest)

/-- Read parts until the text ends.  Every part takes a character of the text, so that `fuel`, its
length, suffices. -/
def readParts [Engine] : (fuel : Nat) → Progress → List Char → Except SyntaxError Progress
  | 0, p, text => if (p.flags.skip text).isEmpty then .ok p else .error .unfinished
  | fuel + 1, p, text =>
    match p.flags.skip text with
    | [] => .ok p
    | c :: rest => do
      let (p, rest) ← readPart p c rest
      readParts fuel p rest

/-- What was read, if no group is open. -/
def Progress.finish (p : Progress) : Except SyntaxError Item :=
  if p.outer.isEmpty then .ok p.value else .error .groupUnclosed

/-- Read an expression of any depth and size. -/
def read [Engine] (text : String) : Except SyntaxError Item := do
  (← readParts text.length {} text.toList).finish

/-- How deeply expressions may be nested. -/
def maxDepth : Nat := 250

/-- Read an expression, if it is not nested too deeply and fits into the room there is. -/
def parse [Engine] (text : String) : Except SyntaxError Expr := do
  let item ← read text
  if maxDepth < item.depth then .error .tooDeep
  else if Engine.fits text item.expr then .ok item.expr
  else .error .tooLarge

end Signpost.Regex
