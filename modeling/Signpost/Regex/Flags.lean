import Signpost.Regex.Expr

/-!
# Flags and what they make of the parts of an expression

Flags are set from within an expression, for the rest of the group they stand in.  They decide
which characters of the written expression count, and what a character, a dot, an anchor or a
set stands for.
-/

namespace Signpost.Regex

/-- Why a text is not an expression. -/
inductive SyntaxError
  /-- The text ends inside a construct. -/
  | unfinished
  /-- A group that is closed was never opened. -/
  | groupUnopened
  /-- A group is not closed. -/
  | groupUnclosed
  /-- A group looks around, which is not supported. -/
  | lookAround
  /-- A group has an empty, malformed or repeated name. -/
  | groupName
  /-- A flag is unknown, repeated, or missing after a hyphen. -/
  | flag
  /-- There is nothing to repeat. -/
  | nothingToRepeat
  /-- The bounds of a repetition are malformed or out of order. -/
  | repetitionBounds
  /-- A backslash is followed by a character that has no meaning after it. -/
  | escape
  /-- A character is given by a number that is malformed or no character's. -/
  | characterNumber
  /-- A character property is not known. -/
  | property
  /-- A set is not closed. -/
  | setUnclosed
  /-- A set has a member that is not a character or a set. -/
  | setMember
  /-- The ends of a range are not characters, or are out of order. -/
  | setRange
  /-- Without Unicode a part could stand for half a character. -/
  | partialCharacter
  /-- The expression is nested too deeply. -/
  | tooDeep
  /-- The expression takes too much room once its repetitions are unfolded. -/
  | tooLarge
  deriving DecidableEq, Repr

/-- What is wrong, in words. -/
def SyntaxError.message : SyntaxError → String
  | .unfinished => "the expression ends too early"
  | .groupUnopened => "a group is closed that was not opened"
  | .groupUnclosed => "a group is not closed"
  | .lookAround => "looking around is not supported"
  | .groupName => "a group has a bad name"
  | .flag => "a group has bad flags"
  | .nothingToRepeat => "there is nothing to repeat"
  | .repetitionBounds => "a repetition has bad bounds"
  | .escape => "a backslash has no meaning here"
  | .characterNumber => "a number is no character's"
  | .property => "a character property is not known"
  | .setUnclosed => "a set is not closed"
  | .setMember => "a set has a bad member"
  | .setRange => "a range has bad ends"
  | .partialCharacter => "a part could match half a character"
  | .tooDeep => "the expression is nested too deeply"
  | .tooLarge => "the expression is too large"

/-- The flags in force at some place of an expression. -/
structure Flags where
  /-- Case does not count. -/
  ignoreCase : Bool := false
  /-- Anchors hold at the ends of lines. -/
  multiLine : Bool := false
  /-- A dot stands for line ends too. -/
  dotAll : Bool := false
  /-- Lines may end with carriage returns. -/
  crlf : Bool := false
  /-- Blanks and comments in the expression do not count. -/
  verbose : Bool := false
  /-- Classes and case are those of Unicode, not of ASCII. -/
  unicode : Bool := true
  deriving DecidableEq, Repr

namespace Flags

/-- The flags with one of them set or cleared by its letter.  `U` is about which match is preferred
and changes nothing about whether there is one. -/
def change (flags : Flags) (letter : Char) (on : Bool) : Option Flags :=
  match letter with
  | 'i' => some { flags with ignoreCase := on }
  | 'm' => some { flags with multiLine := on }
  | 's' => some { flags with dotAll := on }
  | 'R' => some { flags with crlf := on }
  | 'x' => some { flags with verbose := on }
  | 'u' => some { flags with unicode := on }
  | 'U' => some flags
  | _ => none

/-- The characters that differ from a character in case only. -/
def variants (flags : Flags) : Char → List Char :=
  if flags.unicode then Unicode.caseVariants else asciiVariants

/-- A set, closed under case if case does not count. -/
def fold (flags : Flags) (set : CharSet) : CharSet :=
  if flags.ignoreCase then set.closeUnder flags.variants else set

/-- The complement of a set.  Without Unicode it would hold halves of characters. -/
def negate (flags : Flags) (set : CharSet) : Except SyntaxError CharSet :=
  if flags.unicode then .ok set.compl else .error .partialCharacter

/-- A set, complemented if asked. -/
def negateIf (flags : Flags) (negated : Bool) (set : CharSet) : Except SyntaxError CharSet :=
  if negated then flags.negate set else .ok set

/-- What a character stands for. -/
def charExpr (flags : Flags) (c : Char) : Expr := .chars (flags.fold (.single c))

/-- What a dot stands for. -/
def dotExpr (flags : Flags) : Except SyntaxError Expr :=
  if !flags.unicode then .error .partialCharacter
  else if flags.dotAll then .ok (.chars .all)
  else if flags.crlf then
    .ok (.chars (CharSet.compl (.ofRanges [('\n', '\n'), ('\r', '\r')])))
  else .ok (.chars (CharSet.compl (.single '\n')))

/-- What `^` stands for. -/
def startLook (flags : Flags) : Look :=
  if flags.multiLine then .lineStart flags.crlf else .start

/-- What `$` stands for. -/
def finishLook (flags : Flags) : Look :=
  if flags.multiLine then .lineFinish flags.crlf else .finish

end Flags

mutual

/-- The text from its next character that is neither a blank nor in a comment. -/
def skipBlanks : List Char → List Char
  | [] => []
  | c :: rest =>
    if Text.isWhitespace c then skipBlanks rest
    else if c = '#' then skipComment rest
    else c :: rest

/-- The text after the comment it begins in. -/
def skipComment : List Char → List Char
  | [] => []
  | c :: rest => if c = '\n' then skipBlanks rest else skipComment rest

end

/-- The text from its next character that counts. -/
def Flags.skip (flags : Flags) (text : List Char) : List Char :=
  if flags.verbose then skipBlanks text else text

/-- The characters that count up to the first one that stops, and the text from there on; nothing
if there is none.  `comment` says whether the text begins in a comment. -/
def Flags.takeUntil (flags : Flags) (stops : Char → Bool) :
    (comment : Bool) → List Char → Option (List Char × List Char)
  | _, [] => none
  | true, c :: rest => flags.takeUntil stops (c != '\n') rest
  | false, c :: rest =>
    if flags.verbose && Text.isWhitespace c then flags.takeUntil stops false rest
    else if flags.verbose && c == '#' then flags.takeUntil stops true rest
    else if stops c then some ([], c :: rest)
    else (flags.takeUntil stops false rest).map fun found => (c :: found.1, found.2)

/-- The next `n` characters that count, and the text after them. -/
def Flags.takeExactly (flags : Flags) :
    (n : Nat) → (comment : Bool) → List Char → Option (List Char × List Char)
  | 0, _, text => some ([], text)
  | _ + 1, _, [] => none
  | n + 1, true, c :: rest => flags.takeExactly (n + 1) (c != '\n') rest
  | n + 1, false, c :: rest =>
    if flags.verbose && Text.isWhitespace c then flags.takeExactly (n + 1) false rest
    else if flags.verbose && c == '#' then flags.takeExactly (n + 1) true rest
    else (flags.takeExactly n false rest).map fun found => (c :: found.1, found.2)

end Signpost.Regex
