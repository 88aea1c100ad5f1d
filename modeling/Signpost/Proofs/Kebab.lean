import Mathlib.Data.String.Basic
import Signpost.Proofs.Path
import Signpost.Route.Placeholder
import Signpost.Text.Kebab

/-!
# Names in kebab case as segments

A word is made of letters and numbers, which have no slash, dot or brace for their lower case
either.  Main statement: a name in kebab case, unless it is empty, is a single segment of a path
that is no placeholder and leads nowhere but down.
-/

namespace Signpost

namespace Unicode

/-- The pair of numbers that a word gives. -/
def pairOf (word : List Char) : Nat × Nat :=
  match word.splitOn ':' with
  | [source, target] => (readHex source, readHex target)
  | _ => (0, 0)

/-- A table of pairs is read line by line, each of which is known by its characters. -/
theorem readPairs_cons (line : List Char) (lines : List String) :
    readPairs (String.ofList line :: lines) = (line.splitOn ' ').map pairOf ++ readPairs lines := by
  simp only [readPairs, List.flatMap_cons, String.toList_ofList]
  rfl

/-- No lower-case form is a sign of ASCII. -/
theorem all_lowerPairs : (lowerPairs.all fun pair => 97 ≤ pair.2 && pair.2 != 123) = true := by
  rw [lowerPairs]
  -- The characters of a line are taken from its text once, and not by decoding its bytes.
  repeat rw [readPairs_cons]
  decide +kernel

end Unicode

namespace Text

/-- The lower case of a letter or a number has no character that means something in a path. -/
theorem not_mem_lowerChar {c d : Char} (hc : isAlphanumeric c = true)
    (hd : d ∈ ['/', '.', '\x7b']) : d ∉ lowerChar c := by
  have hascii : ∀ n : Fin 128, isAlphanumeric (Char.ofNat n) = true →
      ['/', '.', '\x7b'].all (· != (Char.ofNat n).toLower) = true := by decide +kernel
  obtain ⟨hdascii, hdlong, hpos, hsign⟩ : isAscii d = true ∧ d ∉ ['i', '\u0307'] ∧
      0 < d.toNat ∧ (d.toNat < 97 ∨ d.toNat = 123) := by
    simp only [List.mem_cons, List.not_mem_nil, or_false] at hd
    rcases hd with rfl | rfl | rfl <;> decide
  rw [lowerChar]
  split
  next h =>
    rw [List.mem_singleton]
    have hlt : c.toNat < 128 := by simpa [isAscii] using h
    have hletter := hascii ⟨c.toNat, hlt⟩
    rw [Char.ofNat_toNat] at hletter
    exact bne_iff_ne.mp (List.all_eq_true.mp (hletter hc) d hd)
  next h =>
    split
    next => exact hdlong
    next =>
      split
      next lower hlower =>
        rw [List.mem_singleton]
        obtain ⟨front, back, hmem, -⟩ := List.lookup_eq_some_iff.mp hlower
        have hpair := List.all_eq_true.mp Unicode.all_lowerPairs (c.toNat, lower)
          (hmem ▸ List.mem_append_right _ List.mem_cons_self)
        rw [Bool.and_eq_true, decide_eq_true_iff, bne_iff_ne] at hpair
        have hvalue : (Char.ofNat lower).toNat = lower ∨ (Char.ofNat lower).toNat = 0 := by
          by_cases hvalid : lower.isValidChar
          · exact Or.inl (by rw [Char.ofNat, dif_pos hvalid]; rfl)
          · exact Or.inr (by rw [Char.ofNat, dif_neg hvalid]; rfl)
        rintro rfl
        omega
      next =>
        rw [List.mem_singleton]
        rintro rfl
        exact h hdascii

/-- A word of letters and numbers has no such character when it is in lower case. -/
theorem not_mem_lowerAfter {word : List Char} (hword : ∀ c ∈ word, isAlphanumeric c = true)
    {d : Char} (hd : d ∈ ['/', '.', '\x7b']) (before : List Char) :
    d ∉ lowerAfter before word := by
  induction word generalizing before with
  | nil => exact List.not_mem_nil
  | cons c rest ih =>
    rw [List.forall_mem_cons] at hword
    rw [lowerAfter, List.mem_append, not_or]
    refine ⟨?_, ih hword.2 (c :: before)⟩
    split
    next =>
      rw [List.mem_singleton]
      split <;> rintro rfl <;> exact absurd hd (by decide)
    next => exact not_mem_lowerChar hword.1 hd

namespace Kebab

/-- Words are made of letters and numbers, if the word begun so far is. -/
theorem isAlphanumeric_of_mem_wordsFrom {word text : List Char}
    (hword : ∀ c ∈ word, isAlphanumeric c = true) :
    ∀ found ∈ wordsFrom word text, ∀ c ∈ found, isAlphanumeric c = true := by
  fun_induction wordsFrom word text <;> grind

/-- No character of a name in kebab case means something in a path. -/
theorem not_mem_kebab {d : Char} (hd : d ∈ ['/', '.', '\x7b']) (name : String) :
    d ∉ (kebab name).toList := by
  have hhyphen : d ≠ '-' := by
    rintro rfl
    exact absurd hd (by decide)
  have hword : ∀ word ∈ (words name).map lowercase, d ∉ word.toList := by
    intro word hword
    obtain ⟨text, htext, rfl⟩ := List.mem_map.mp hword
    obtain ⟨chars, hchars, rfl⟩ := List.mem_map.mp htext
    rw [lowercase, String.toList_ofList, String.toList_ofList]
    have halphanumeric : ∀ c ∈ chars, isAlphanumeric c = true :=
      isAlphanumeric_of_mem_wordsFrom (fun _ h => absurd h List.not_mem_nil) chars hchars
    exact not_mem_lowerAfter halphanumeric hd []
  rw [kebab, String.toList_intercalate]
  generalize (words name).map lowercase = lowered at hword ⊢
  induction lowered with
  | nil => exact List.not_mem_nil
  | cons word rest ih =>
    rw [List.forall_mem_cons] at hword
    cases rest with
    | nil => simpa using hword.1
    | cons next more =>
      rw [List.map_cons, List.map_cons, List.intercalate_cons_cons, List.mem_append,
        List.mem_append, not_or, not_or]
      exact ⟨⟨hword.1, by simpa using hhyphen⟩, ih hword.2⟩

/-- A name in kebab case is a part of a path that goes down. -/
theorem goesDown_kebab {name : String} (h : kebab name ≠ "") : Path.GoesDown (kebab name) := by
  have hslash : '/' ∉ (kebab name).toList := not_mem_kebab (by decide) name
  have hdot : '.' ∉ (kebab name).toList := not_mem_kebab (by decide) name
  refine ⟨⟨h, hslash⟩, fun heq => ?_, fun heq => ?_⟩ <;>
  · rw [heq] at hdot
    exact hdot (by decide)

/-- A name in kebab case is no placeholder. -/
theorem parse?_kebab (name : String) : Route.Placeholder.parse? (kebab name) = none := by
  have hbrace : '\x7b' ∉ (kebab name).toList := not_mem_kebab (by decide) name
  rw [Route.Placeholder.parse?, Option.map_eq_none_iff, between?]
  cases htext : (kebab name).toList with
  | nil => rfl
  | cons c rest =>
    rw [htext, List.mem_cons, not_or] at hbrace
    exact if_neg fun h => hbrace.1 h.1.symm

end Kebab

end Text

end Signpost
