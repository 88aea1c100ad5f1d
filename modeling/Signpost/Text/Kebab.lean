import Signpost.Text.Letter

/-!
# Kebab case

A name such as `getHTTPPage2` is taken apart into words, `get`, `HTTP`, `Page` and `2`, which are
written in lower case and joined by hyphens.  Characters that are neither letters nor numbers part
words and are dropped.
-/

namespace Signpost.Text.Kebab

/-- Whether a word ends between two neighbours, given what follows them: from lower to upper case,
between letters and numbers, and before the last capital of a run that begins a new word. -/
def isBoundary (left right : Char) (next : Option Char) : Bool :=
  (isLower left && isUpper right) || (isAlphabetic left && isNumeric right) ||
    (isNumeric left && isAlphabetic right) ||
    (isUpper left && isUpper right && next.any isLower)

/-- The words of a name, `word` being the word begun so far, last character first. -/
def wordsFrom (word : List Char) : List Char → List (List Char)
  | [] => if word.isEmpty then [] else [word.reverse]
  | c :: rest =>
    if isAlphanumeric c then
      match word with
      | [] => wordsFrom [c] rest
      | last :: _ =>
        if isBoundary last c rest.head? then word.reverse :: wordsFrom [c] rest
        else wordsFrom (c :: word) rest
    else if word.isEmpty then wordsFrom [] rest
    else word.reverse :: wordsFrom [] rest

/-- The words of a name. -/
def words (name : String) : List String := (wordsFrom [] name.toList).map String.ofList

/-- The words of a name in lower case, joined by hyphens. -/
def kebab (name : String) : String := "-".intercalate ((words name).map lowercase)

end Signpost.Text.Kebab
