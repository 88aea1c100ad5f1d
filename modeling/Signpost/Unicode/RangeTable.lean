/-!
# Tables of character ranges

A character property is given as ranges of code points.  Tables are written as lines of words: a
word `61-7a` is a range with both ends, a word `aa` a single code point, in hexadecimal.
-/

namespace Signpost.Unicode

/-- The value of a hexadecimal digit, in either case; anything else counts as zero. -/
def hexValue (c : Char) : Nat :=
  if '0' ≤ c ∧ c ≤ '9' then c.toNat - '0'.toNat
  else if 'a' ≤ c ∧ c ≤ 'f' then c.toNat - 'a'.toNat + 10
  else if 'A' ≤ c ∧ c ≤ 'F' then c.toNat - 'A'.toNat + 10
  else 0

/-- The number written by hexadecimal digits, the most significant first. -/
def readHex (digits : List Char) : Nat :=
  digits.foldl (fun value digit => 16 * value + hexValue digit) 0

/-- Ranges of code points, both ends included. -/
structure RangeTable where
  /-- The ranges, each with its first and its last code point. -/
  ranges : List (Nat × Nat)

namespace RangeTable

/-- Read one word of a table. -/
def readRange (word : List Char) : Nat × Nat :=
  match word.splitOn '-' with
  | [first, last] => (readHex first, readHex last)
  | _ => (readHex word, readHex word)

/-- Read the lines of a table. -/
def ofLines (lines : List String) : RangeTable :=
  ⟨lines.flatMap fun line => (line.toList.splitOn ' ').map readRange⟩

/-- Whether one of the ranges holds the character. -/
def contains (table : RangeTable) (c : Char) : Bool :=
  table.ranges.any fun range => range.1 ≤ c.toNat && c.toNat ≤ range.2

/-- How many of the ranges, given in ascending order, do not go on where the range before them
ends; `next` is where that is. -/
def countRuns (next : Nat) : List (Nat × Nat) → Nat
  | [] => 0
  | range :: rest => (if range.1 ≤ next then 0 else 1) + countRuns (max next (range.2 + 1)) rest

/-- The number of runs of code points that a table holds. -/
def runs (table : RangeTable) : Nat :=
  match table.ranges.mergeSort fun a b => a.1 ≤ b.1 with
  | [] => 0
  | first :: rest => 1 + countRuns (first.2 + 1) rest

/-- A character of either table is a character of their union. -/
instance : Append RangeTable := ⟨fun a b => ⟨a.ranges ++ b.ranges⟩⟩

/-- A union has the characters of both. -/
@[simp] theorem contains_append (a b : RangeTable) (c : Char) :
    (a ++ b).contains c = (a.contains c || b.contains c) := by
  change List.any (a.ranges ++ b.ranges) _ = _
  simp [contains, List.any_append]

end RangeTable

end Signpost.Unicode
