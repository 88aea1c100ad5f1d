import Signpost.Unicode.Category
import Signpost.Unicode.Identifier
import Signpost.Unicode.LetterCase
import Signpost.Unicode.LowerMapping

/-!
# Letters, digits and case

The classes of characters that names are read by, and the lower-case form of a text.  ASCII is
decided without a table.
-/

namespace Signpost.Text

open Unicode

/-- Whether a character is one of the first 128. -/
def isAscii (c : Char) : Bool := c.toNat < 128

/-- Letters, and the marks and numbers that count as letters. -/
def isAlphabetic (c : Char) : Bool :=
  if isAscii c then c.isAlpha else LetterCase.alphabetic.contains c

/-- Digits and all other numbers. -/
def isNumeric (c : Char) : Bool :=
  if isAscii c then c.isDigit else Category.number.contains c

/-- Letters and numbers. -/
def isAlphanumeric (c : Char) : Bool := isAlphabetic c || isNumeric c

/-- Lower-case letters. -/
def isLower (c : Char) : Bool :=
  if isAscii c then c.isLower else LetterCase.lowercase.contains c

/-- Upper-case letters. -/
def isUpper (c : Char) : Bool :=
  if isAscii c then c.isUpper else LetterCase.uppercase.contains c

/-- Blanks, line ends and the other characters that part words. -/
def isWhitespace (c : Char) : Bool := Identifier.whiteSpace.contains c

/-- Drop the blanks at both ends of a text. -/
def trim (text : String) : String :=
  String.ofList ((text.toList.dropWhile isWhitespace).reverse.dropWhile isWhitespace).reverse

/-- The lower-case form of one character, outside any word. -/
def lowerChar (c : Char) : List Char :=
  if isAscii c then [c.toLower]
  else if c = 'İ' then ['i', '\u0307']
  else match lowerPairs.lookup c.toNat with
    | some lower => [Char.ofNat lower]
    | none => [c]

/-- Whether a cased letter comes first, once the characters that case ignores are passed over. -/
def meetsCased (text : List Char) : Bool :=
  match text.dropWhile LetterCase.caseIgnorable.contains with
  | c :: _ => LetterCase.cased.contains c
  | [] => false

/-- The lower-case form of a text that follows `before`, which is given last character first.
A sigma that ends a word has a form of its own. -/
def lowerAfter (before : List Char) : List Char → List Char
  | [] => []
  | c :: rest =>
    let lower :=
      if c = 'Σ' then [if meetsCased before && !meetsCased rest then 'ς' else 'σ']
      else lowerChar c
    lower ++ lowerAfter (c :: before) rest

/-- The lower-case form of a text. -/
def lowercase (text : String) : String := String.ofList (lowerAfter [] text.toList)

end Signpost.Text
