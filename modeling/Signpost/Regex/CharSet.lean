import Signpost.Text.Letter
import Signpost.Unicode.CaseFolding
import Signpost.Unicode.Usage

/-!
# Character sets

A character set is known by its members; it also keeps an estimate of the room it takes in an
automaton that reads the bytes of characters.  Only the standard engine looks at the estimate, when
it judges the size of an expression; no statement about the language does.  This module has the set
operations, the named sets, and the closure of a set under case.
-/

namespace Signpost.Regex

/-- A set of characters. -/
structure CharSet where
  /-- Whether a character is a member. -/
  contains : Char → Bool
  /-- The standard engine's estimate of the room it takes, in bytes, beside the one state that every
  set takes. -/
  room : Nat

namespace CharSet

/-- The set without members. -/
def empty : CharSet := ⟨fun _ => false, 0⟩

/-- The set of all characters. -/
def all : CharSet := ⟨fun _ => true, 1000⟩

/-- The set of one character. -/
def single (c : Char) : CharSet := ⟨(· == c), 32 * (c.utf8Size - 1)⟩

/-- The characters from `first` to `last`, both included. -/
def range (first last : Char) : CharSet :=
  ⟨fun c => first ≤ c && c ≤ last, if Text.isAscii last then 8 else 64⟩

/-- The characters of a table. -/
def ofTable (table : Unicode.RangeTable) : CharSet :=
  ⟨table.contains, 62 * table.runs⟩

/-- The characters in either set. -/
def union (a b : CharSet) : CharSet :=
  ⟨fun c => a.contains c || b.contains c, a.room + b.room⟩

/-- The characters in both sets. -/
def inter (a b : CharSet) : CharSet :=
  ⟨fun c => a.contains c && b.contains c, a.room + b.room⟩

/-- The characters in the first set and not in the second. -/
def diff (a b : CharSet) : CharSet :=
  ⟨fun c => a.contains c && !b.contains c, a.room + b.room⟩

/-- The characters in exactly one of the sets. -/
def symmDiff (a b : CharSet) : CharSet :=
  ⟨fun c => a.contains c != b.contains c, a.room + b.room⟩

/-- The characters that are not in the set. -/
def compl (a : CharSet) : CharSet := ⟨fun c => !a.contains c, a.room + 1000⟩

/-- The set with every character that differs from a member in case only. -/
def closeUnder (variants : Char → List Char) (a : CharSet) : CharSet :=
  ⟨fun c => a.contains c || (variants c).any a.contains, 2 * a.room + 8⟩

/-- The union of several ranges of ASCII characters. -/
def ofRanges (ranges : List (Char × Char)) : CharSet :=
  ⟨fun c => ranges.any fun r => r.1 ≤ c && c ≤ r.2, 8 * ranges.length⟩

end CharSet

/-- The other case of an ASCII letter. -/
def asciiVariants (c : Char) : List Char :=
  if c.isUpper then [c.toLower] else if c.isLower then [c.toUpper] else []

/-- Decimal digits of all scripts. -/
def digits : CharSet := .ofTable Unicode.Category.decimalNumber

/-- All blanks. -/
def blanks : CharSet := .ofTable Unicode.Identifier.whiteSpace

/-- Letters, marks, decimal digits, connecting punctuation and joiners: what words are made of. -/
def wordChars : CharSet :=
  ⟨fun c => Text.isAlphabetic c || Unicode.Category.decimalNumber.contains c || c == '_' ||
    (!Text.isAscii c && (Unicode.Category.mark.contains c ||
      Unicode.Category.connectorPunctuation.contains c || Unicode.Usage.joinControl.contains c)),
    62 * Unicode.LetterCase.alphabetic.runs⟩

/-- The ASCII characters of the class that `[:name:]` asks for. -/
def asciiClass? : String → Option CharSet
  | "alnum" => some (.ofRanges [('0', '9'), ('A', 'Z'), ('a', 'z')])
  | "alpha" => some (.ofRanges [('A', 'Z'), ('a', 'z')])
  | "ascii" => some (.ofRanges [('\x00', '\x7f')])
  | "blank" => some (.ofRanges [('\t', '\t'), (' ', ' ')])
  | "cntrl" => some (.ofRanges [('\x00', '\x1f'), ('\x7f', '\x7f')])
  | "digit" => some (.ofRanges [('0', '9')])
  | "graph" => some (.ofRanges [('!', '~')])
  | "lower" => some (.ofRanges [('a', 'z')])
  | "print" => some (.ofRanges [(' ', '~')])
  | "punct" => some (.ofRanges [('!', '/'), (':', '@'), ('[', '\x60'), ('\x7b', '~')])
  | "space" => some (.ofRanges [('\t', '\r'), (' ', ' ')])
  | "upper" => some (.ofRanges [('A', 'Z')])
  | "word" => some (.ofRanges [('0', '9'), ('A', 'Z'), ('_', '_'), ('a', 'z')])
  | "xdigit" => some (.ofRanges [('0', '9'), ('A', 'F'), ('a', 'f')])
  | _ => none

/-- The ASCII digits. -/
def asciiDigits : CharSet := .range '0' '9'

/-- The ASCII blanks. -/
def asciiBlanks : CharSet := .ofRanges [('\t', '\r'), (' ', ' ')]

/-- The ASCII letters and digits and the underscore. -/
def asciiWordChars : CharSet := .ofRanges [('0', '9'), ('A', 'Z'), ('_', '_'), ('a', 'z')]

end Signpost.Regex
