import Signpost.Regex.CharSet
import Signpost.Unicode.Script

/-!
# Boundary properties

Where graphemes, words and sentences end depends on the classes of the characters at the boundary.
Few classes have a table of their own: most are what is left of some categories and properties when
others are taken away.  A character is in at most one class of a property, and each class is listed
under its names, in lower case and without separators.
-/

namespace Signpost.Regex.Boundary

open Unicode

/-- A class that is given by a condition, with the number of runs that its characters come in. -/
def derived (runs : Nat) (contains : Char → Bool) : CharSet := ⟨contains, 62 * runs⟩

/-- What stands before a number and is read with it. -/
def numberSigns : RangeTable := .ofLines ["600-605 6dd 890-891 8e2 110bd 110cd"]

section Graphemes

/-- Whether a character goes on with the grapheme before it whatever that is. -/
def extendsGrapheme (c : Char) : Bool :=
  Usage.graphemeExtend.contains c || Usage.emojiModifier.contains c

/-- Spacing marks that do not go on with the grapheme before them. -/
def looseMarks : RangeTable := .ofLines [
  "102b-102c 1038 1062-1064 1067-106d 1083 1087-108c 108f 109a-109c 1a61 1a63-1a64 aa7b aa7d",
  "11720-11721"]

/-- Whether a character is a mark that takes up room. -/
def isSpacingMark (c : Char) : Bool :=
  (Category.spacingMark.contains c || c == '\u0e33' || c == '\u0eb3') && !looseMarks.contains c &&
    !extendsGrapheme c

/-- What begins a grapheme that the next character goes on with. -/
def prepended : RangeTable :=
  Usage.prependedConcatenationMark ++
    .ofLines ["d4e 111c2-111c3 113d1 1193f 11941 11a3a 11a84-11a89 11d46 11f02"]

/-- Whether a character stands apart from what is before and behind it. -/
def isControl (c : Char) : Bool :=
  let controls := Category.lineSeparator ++ Category.paragraphSeparator ++ Category.control ++
    Category.format
  (controls.contains c ||
      (Usage.defaultIgnorableCodePoint.contains c && !Category.assigned.contains c)) &&
    c != '\r' && c != '\n' && !Usage.joinControl.contains c &&
    !Usage.prependedConcatenationMark.contains c && !extendsGrapheme c

/-- How many letters the Hangul syllable of a character has, if it is one. -/
def hangulLetters? (c : Char) : Option Nat :=
  if 0xac00 ≤ c.toNat ∧ c.toNat ≤ 0xd7a3 then
    some (if (c.toNat - 0xac00) % 28 = 0 then 2 else 3)
  else none

/-- The classes of characters at the boundaries of graphemes. -/
def graphemes : List (List String × CharSet) := [
  (["cr"], .single '\r'),
  (["lf"], .single '\n'),
  (["control", "cn"], derived 19 isControl),
  (["extend", "ex"], derived 376 extendsGrapheme),
  (["zwj"], .single '\u200d'),
  (["regionalindicator", "ri"], .ofTable Usage.regionalIndicator),
  (["prepend", "pp"], .ofTable prepended),
  (["spacingmark", "sm"], derived 155 isSpacingMark),
  (["l"], .ofTable (.ofLines ["1100-115f a960-a97c"])),
  (["v"], .ofTable (.ofLines ["1160-11a7 d7b0-d7c6 16d63 16d67-16d6a"])),
  (["t"], .ofTable (.ofLines ["11a8-11ff d7cb-d7fb"])),
  (["lv"], derived 399 fun c => hangulLetters? c == some 2),
  (["lvt"], derived 399 fun c => hangulLetters? c == some 3)]

end Graphemes

section Words

/-- Whether a character goes on with the word before it. -/
def extendsWord (c : Char) : Bool := extendsGrapheme c || Category.spacingMark.contains c

/-- Whether a character is a letter of the Hebrew script. -/
def isHebrewLetter (c : Char) : Bool := Script.hebrew.contains c && Category.otherLetter.contains c

/-- What words of the Katakana script are made of. -/
def katakana : RangeTable :=
  Script.katakana ++ .ofLines ["3031-3035 309b-309c 30a0 30fc ff70"]

/-- The scripts whose words are told apart by a dictionary only. -/
def unspacedScripts : RangeTable :=
  Script.thai ++ Script.lao ++ Script.myanmar ++ Script.khmer ++ Script.taiLe ++
    Script.newTaiLue ++ Script.taiTham ++ Script.taiViet ++ Script.ahom

/-- What is no letter and yet a part of words. -/
def wordSigns : RangeTable := .ofLines [
  "b8 2c2-2c5 2d2-2d7 2de-2df 2e5-2eb 2ed 2ef-2ff 55a-55c 55e 58a 5f3 70f a708-a716 a720-a721",
  "a789-a78a ab5b"]

/-- Whether a character is a letter with which words are written. -/
def isWordLetter (c : Char) : Bool :=
  let elsewhere := Usage.ideographic ++ katakana ++ Script.hiragana ++ unspacedScripts
  wordSigns.contains c ||
    (LetterCase.alphabetic.contains c && !elsewhere.contains c && !isHebrewLetter c &&
      !extendsWord c)

/-- Whether a character changes how a word is shown and nothing else. -/
def isWordFormat (c : Char) : Bool :=
  Category.format.contains c && c != '\u200b' && !Usage.joinControl.contains c &&
    !Usage.prependedConcatenationMark.contains c && !extendsWord c

/-- The classes of characters at the boundaries of words. -/
def words : List (List String × CharSet) := [
  (["cr"], .single '\r'),
  (["lf"], .single '\n'),
  (["newline", "nl"], .ofTable (.ofLines ["b-c 85 2028-2029"])),
  (["extend"], derived 325 extendsWord),
  (["zwj"], .single '\u200d'),
  (["regionalindicator", "ri"], .ofTable Usage.regionalIndicator),
  (["format", "fo"], derived 13 isWordFormat),
  (["katakana", "ka"], .ofTable katakana),
  (["hebrewletter", "hl"], derived 10 isHebrewLetter),
  (["aletter", "le"], derived 596 isWordLetter),
  (["singlequote", "sq"], .single '\x27'),
  (["doublequote", "dq"], .single '\x22'),
  (["midnumlet", "mb"], .ofTable (.ofLines ["2e 2018-2019 2024 fe52 ff07 ff0e"])),
  (["midletter", "ml"], .ofTable (.ofLines ["3a b7 387 55f 5f4 2027 fe13 fe55 ff1a"])),
  (["midnum", "mn"], .ofTable (.ofLines [
    "2c 3b 37e 589 60c-60d 66c 7f8 2044 fe10 fe14 fe50 fe54 ff0c ff1b"])),
  (["numeric", "nu"], .ofTable (Category.decimalNumber ++ .ofLines ["66b"] ++ numberSigns)),
  (["extendnumlet", "ex"], .ofTable (Category.connectorPunctuation ++ .ofLines ["202f"])),
  (["wsegspace"], .ofTable (.ofLines ["20 1680 2000-2006 2008-200a 205f 3000"]))]

end Words

section Sentences

/-- Whether a character goes on with the one before it. -/
def extendsSentence (c : Char) : Bool :=
  Usage.graphemeExtend.contains c || Category.spacingMark.contains c || c == '\u200d'

/-- Whether a character is a letter in lower case. -/
def isLower (c : Char) : Bool :=
  LetterCase.lowercase.contains c &&
    !(RangeTable.ofLines ["10d0-10fa 10fd-10ff"]).contains c && !extendsSentence c

/-- Whether a character is a letter in upper case. -/
def isUpper (c : Char) : Bool :=
  (Category.titlecaseLetter ++ LetterCase.uppercase).contains c &&
    !(RangeTable.ofLines ["1c90-1cba 1cbd-1cbf"]).contains c

/-- Whether a character is a letter without case. -/
def isCaseless (c : Char) : Bool :=
  (LetterCase.alphabetic.contains c || c == '\u05f3') && !isLower c && !isUpper c &&
    !extendsSentence c

/-- Whether a character changes how a sentence is shown and nothing else. -/
def isSentenceFormat (c : Char) : Bool :=
  Category.format.contains c && !Usage.joinControl.contains c && !numberSigns.contains c &&
    !extendsSentence c

/-- What ends a sentence, or an abbreviation. -/
def fullStops : RangeTable := .ofLines ["2e 2024 fe52 ff0e"]

/-- What ends a paragraph. -/
def separators : RangeTable := .ofLines ["85 2028-2029"]

/-- The classes of characters at the boundaries of sentences. -/
def sentences : List (List String × CharSet) := [
  (["cr"], .single '\r'),
  (["lf"], .single '\n'),
  (["extend", "ex"], derived 324 extendsSentence),
  (["sep", "se"], .ofTable separators),
  (["format", "fo"], derived 15 isSentenceFormat),
  (["sp"], derived 9 fun c =>
    Identifier.whiteSpace.contains c && !separators.contains c && c != '\r' && c != '\n'),
  (["lower", "lo"], derived 673 isLower),
  (["upper", "up"], derived 657 isUpper),
  (["oletter", "le"], derived 561 isCaseless),
  (["numeric", "nu"], .ofTable (Category.decimalNumber ++ .ofLines ["66b-66c"] ++ numberSigns)),
  (["aterm", "at"], .ofTable fullStops),
  (["scontinue", "sc"], .ofTable (.ofLines [
    "2c-2d 3a-3b 37e 55d 60c-60d 7f8 1802 1808 2013-2014 3001 fe10-fe11 fe13-fe14 fe31-fe32",
    "fe50-fe51 fe54-fe55 fe58 fe63 ff0c-ff0d ff1a-ff1b ff64"])),
  (["sterm", "st"], derived 84 fun c =>
    Usage.sentenceTerminal.contains c && !fullStops.contains c),
  (["close", "cl"], .ofTable (Category.openPunctuation ++ Category.closePunctuation ++
    Category.initialPunctuation ++ Category.finalPunctuation ++
    .ofLines ["22 27 275b-2760 2e00-2e01 2e06-2e08 2e0b 1f676-1f678"]))]

end Sentences

end Signpost.Regex.Boundary
