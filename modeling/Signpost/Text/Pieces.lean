/-!
# Pieces of a text

Cutting a text at a separator character, dropping a run of one character from its ends, and
reading what follows a known beginning.  Everything is defined on the list of characters.
-/

namespace Signpost.Text

/-- Cut a text at every occurrence of the separator.  There is always at least one piece. -/
def pieces (separator : Char) (text : String) : List String :=
  (text.toList.splitOn separator).map String.ofList

/-- Cut a text at the first occurrence of the separator; without one there is no second part. -/
def cutAt (separator : Char) (text : String) : String × Option String :=
  match text.toList.span (· != separator) with
  | (head, []) => (String.ofList head, none)
  | (head, _ :: rest) => (String.ofList head, some (String.ofList rest))

/-- Drop the run of one character at the beginning of a list. -/
def dropRun (c : Char) (text : List Char) : List Char := text.dropWhile (· == c)

/-- Drop every leading occurrence of a character. -/
def dropLeading (c : Char) (text : String) : String := String.ofList (dropRun c text.toList)

/-- Drop every trailing occurrence of a character. -/
def dropTrailing (c : Char) (text : String) : String :=
  String.ofList (dropRun c text.toList.reverse).reverse

/-- What follows the given characters, if a list starts with them. -/
def rest? : (beginning text : List Char) → Option (List Char)
  | [], text => some text
  | _ :: _, [] => none
  | c :: beginning, d :: text => if c = d then rest? beginning text else none

/-- What follows the given beginning, if the text starts with it. -/
def after? (beginning text : String) : Option String :=
  (rest? beginning.toList text.toList).map String.ofList

/-- The characters of a bracketed text: what stands between the two given characters. -/
def between? (first last : Char) (text : String) : Option (List Char) :=
  match text.toList with
  | [] => none
  | c :: rest =>
    if c = first ∧ rest.getLast? = some last then some rest.dropLast else none

/-- Even the empty text has a piece. -/
theorem pieces_ne_nil (separator : Char) (text : String) : pieces separator text ≠ [] := by
  simp [pieces, List.splitOn_ne_nil]

/-- Joining the pieces with the separator restores the text. -/
theorem toList_intercalate_pieces (separator : Char) (text : String) :
    [separator].intercalate ((pieces separator text).map String.toList) = text.toList := by
  simp [pieces, Function.comp_def, List.intercalate_splitOn]

/-- Pieces without the separator are found again after they have been joined. -/
theorem pieces_intercalate (separator : Char) {parts : List String} (hne : parts ≠ [])
    (hfree : ∀ part ∈ parts, separator ∉ part.toList) :
    pieces separator (String.ofList ([separator].intercalate (parts.map String.toList))) =
      parts := by
  have hfree' : ∀ l ∈ parts.map String.toList, separator ∉ l := by simpa using hfree
  rw [pieces, String.toList_ofList, List.splitOn_intercalate separator hfree' (by simpa using hne)]
  simp [Function.comp_def]

/-- There is a rest exactly if the text begins as is asked for. -/
theorem rest?_eq_some_iff {beginning text rest : List Char} :
    rest? beginning text = some rest ↔ text = beginning ++ rest := by
  induction beginning generalizing text with
  | nil => simp [rest?]
  | cons c tail ih =>
    cases text with
    | nil => simp [rest?]
    | cons d text =>
      by_cases h : c = d
      · subst h; simp [rest?, ih]
      · simp [rest?, h, Ne.symm h]

/-- A text starts with a beginning exactly when it is that beginning and what follows it. -/
theorem after?_eq_some_iff {beginning text rest : String} :
    after? beginning text = some rest ↔ text = beginning ++ rest := by
  simp only [after?, Option.map_eq_some_iff, rest?_eq_some_iff]
  constructor
  · rintro ⟨tail, htail, rfl⟩
    rw [← String.toList_inj, String.toList_append, String.toList_ofList, htail]
  · rintro rfl
    exact ⟨rest.toList, by simp, String.ofList_toList⟩

end Signpost.Text
