import Mathlib.Data.List.TakeDrop
import Mathlib.Data.List.TakeWhile
import Signpost.Text.Pieces

/-!
# Pieces of texts that are put together

What is cut at a separator is put together from the pieces of its parts.  Main statements: a
separator between two texts keeps their pieces apart, no piece holds the separator or is longer
than the text, and separators at the ends add nothing but empty pieces.
-/

namespace Signpost.Text

private theorem not_mem_of_mem_splitOn {c : Char} {text piece : List Char}
    (h : piece ∈ text.splitOn c) : c ∉ piece := by
  induction text generalizing piece with
  | nil =>
    rw [List.splitOn_nil, List.mem_singleton] at h
    rw [h]
    exact List.not_mem_nil
  | cons d rest ih =>
    rw [List.splitOn_cons_eq_if_modifyHead] at h
    by_cases hd : d = c
    · rw [if_pos (beq_iff_eq.mpr hd), List.mem_cons] at h
      rcases h with rfl | h
      · exact List.not_mem_nil
      · exact ih h
    · rw [if_neg (by simpa using hd)] at h
      cases hpieces : rest.splitOn c with
      | nil => exact absurd hpieces (List.splitOn_ne_nil c rest)
      | cons first others =>
        rw [hpieces] at h
        rcases List.mem_cons.mp h with rfl | h
        · have hfirst := ih (hpieces ▸ List.mem_cons_self)
          exact List.not_mem_cons_of_ne_of_not_mem (Ne.symm hd) hfirst
        · exact ih (hpieces ▸ List.mem_cons_of_mem _ h)

/-- No piece of a text holds the separator. -/
theorem not_mem_of_mem_pieces {separator : Char} {text piece : String}
    (h : piece ∈ pieces separator text) : separator ∉ piece.toList := by
  obtain ⟨l, hl, rfl⟩ := List.mem_map.mp h
  rw [String.toList_ofList]
  exact not_mem_of_mem_splitOn hl

/-- The pieces of two texts with a separator between them are those of the one and of the other. -/
theorem pieces_append_separator (separator : Char) (front back : List Char) :
    pieces separator (String.ofList (front ++ separator :: back)) =
      pieces separator (String.ofList front) ++ pieces separator (String.ofList back) := by
  simp only [pieces, String.toList_ofList, List.splitOn_append_cons_self, List.map_append]

/-- A slash between two texts parts the pieces of one from those of the other. -/
theorem pieces_append_slash (front back : String) :
    pieces '/' (front ++ "/" ++ back) = pieces '/' front ++ pieces '/' back := by
  have htext : front ++ "/" ++ back = String.ofList (front.toList ++ '/' :: back.toList) := by
    rw [← String.toList_inj]
    simp
  rw [htext, pieces_append_separator, String.ofList_toList, String.ofList_toList]

/-- A run of length zero leaves the text as it is. -/
theorem dropRun_of_head? {c : Char} {text : List Char} (h : text.head? ≠ some c) :
    dropRun c text = text := by
  cases text with
  | nil => rfl
  | cons d rest =>
    have hd : d ≠ c := by simpa using h
    simp [dropRun, hd]

/-- However long a run is, it goes. -/
theorem dropRun_replicate_append (c : Char) (n : Nat) (text : List Char) :
    dropRun c (List.replicate n c ++ text) = dropRun c text :=
  List.dropWhile_append_of_pos fun _ hd => beq_iff_eq.mpr (List.eq_of_mem_replicate hd)

private theorem infix_intercalate_of_mem {separator piece : List Char} {parts : List (List Char)}
    (h : piece ∈ parts) : piece <:+: separator.intercalate parts := by
  induction parts with
  | nil => exact absurd h List.not_mem_nil
  | cons first rest ih =>
    cases rest with
    | nil =>
      obtain rfl := List.mem_singleton.mp h
      simp
    | cons next rest =>
      rw [List.intercalate_cons_cons]
      rcases List.mem_cons.mp h with rfl | h
      · exact ((List.prefix_append _ separator).trans (List.prefix_append _ _)).isInfix
      · exact (ih h).trans (List.suffix_append _ _).isInfix

/-- No piece is longer than the text. -/
theorem utf8ByteSize_le_of_mem_pieces {separator : Char} {text piece : String}
    (h : piece ∈ pieces separator text) : piece.utf8ByteSize ≤ text.utf8ByteSize := by
  obtain ⟨l, hl, rfl⟩ := List.mem_map.mp h
  have hinfix : l <:+: [separator].intercalate (text.toList.splitOn separator) :=
    infix_intercalate_of_mem hl
  rw [List.intercalate_splitOn] at hinfix
  obtain ⟨front, back, htext⟩ := hinfix
  have heq : text = String.ofList front ++ String.ofList l ++ String.ofList back := by
    rw [← String.toList_inj, ← htext]
    simp
  rw [heq, String.utf8ByteSize_append, String.utf8ByteSize_append]
  omega

/-- A text without the separator is its only piece. -/
theorem pieces_of_not_mem {separator : Char} {text : String} (h : separator ∉ text.toList) :
    pieces separator text = [text] := by
  rw [pieces, List.splitOn_eq_singleton h, List.map_singleton, String.ofList_toList]

/-- A text without the separator is its only piece. -/
theorem eq_of_mem_pieces {separator : Char} {text piece : String}
    (htext : separator ∉ text.toList) (h : piece ∈ pieces separator text) : piece = text := by
  rw [pieces_of_not_mem htext, List.mem_singleton] at h
  exact h

/-- A text without slashes does not begin with one. -/
theorem after?_slash_of_not_mem {text : String} (h : '/' ∉ text.toList) :
    after? "/" text = none := by
  rw [Option.eq_none_iff_forall_ne_some]
  intro rest hrest
  rw [after?_eq_some_iff] at hrest
  exact h (by simp [hrest])

/-- The pieces of several texts with slashes between them are pieces of one of them. -/
theorem mem_pieces_intercalate {parts : List String} {piece : String}
    (h : piece ∈ pieces '/' ("/".intercalate parts)) :
    piece = "" ∨ ∃ part ∈ parts, piece ∈ pieces '/' part := by
  induction parts with
  | nil => exact Or.inl (List.mem_singleton.mp h)
  | cons part rest ih =>
    cases rest with
    | nil =>
      rw [String.intercalate_singleton] at h
      exact Or.inr ⟨part, List.mem_cons_self, h⟩
    | cons next rest =>
      rw [String.intercalate_cons_cons, pieces_append_slash, List.mem_append] at h
      rcases h with h | h
      · exact Or.inr ⟨part, List.mem_cons_self, h⟩
      · exact (ih h).imp_right fun ⟨p, hp, hpiece⟩ => ⟨p, List.mem_cons_of_mem _ hp, hpiece⟩

section Cutting

variable {separator : Char} {front text : List Char}

/-- The characters before the first separator end before it. -/
theorem span_append_separator (h : separator ∉ front) (back : List Char) :
    (front ++ separator :: back).span (· != separator) = (front, separator :: back) := by
  have hfront : ∀ c ∈ front, (c != separator) = true := fun c hc =>
    bne_iff_ne.mpr fun heq => h (heq ▸ hc)
  rw [List.span_eq_takeWhile_dropWhile, List.takeWhile_append_of_pos hfront,
    List.dropWhile_append_of_pos hfront]
  simp

theorem span_of_not_mem (h : separator ∉ text) : text.span (· != separator) = (text, []) := by
  have htext : ∀ c ∈ text, (c != separator) = true := fun c hc =>
    bne_iff_ne.mpr fun heq => h (heq ▸ hc)
  rw [List.span_eq_takeWhile_dropWhile, List.takeWhile_eq_self_iff.mpr htext,
    List.dropWhile_eq_nil_iff.mpr htext]

end Cutting

/-- A text is cut where the separator is first met. -/
theorem cutAt_append_separator {separator : Char} {front : String}
    (h : separator ∉ front.toList) (back : List Char) :
    cutAt separator (String.ofList (front.toList ++ separator :: back)) =
      (front, some (String.ofList back)) := by
  rw [cutAt, String.toList_ofList, span_append_separator h]
  simp

/-- A text without the separator is not cut. -/
theorem cutAt_of_not_mem {separator : Char} {text : String} (h : separator ∉ text.toList) :
    cutAt separator text = (text, none) := by
  rw [cutAt, span_of_not_mem h]
  simp

section Trimming

variable {separator : Char} {piece : String}

private theorem mem_pieces_of_dropRun {text : List Char}
    (h : piece ∈ pieces separator (String.ofList (dropRun separator text))) :
    piece ∈ pieces separator (String.ofList text) := by
  induction text with
  | nil => exact h
  | cons c rest ih =>
    by_cases hc : c = separator
    · subst hc
      have hdrop : dropRun c (c :: rest) = dropRun c rest := by simp [dropRun]
      have hpieces := pieces_append_separator c [] rest
      rw [List.nil_append] at hpieces
      rw [hpieces]
      exact List.mem_append_right _ (ih (hdrop ▸ h))
    · rwa [dropRun_of_head? (by simpa using hc)] at h

/-- Dropping a leading run of separators makes no new pieces. -/
theorem mem_pieces_of_dropLeading {text : String}
    (h : piece ∈ pieces separator (dropLeading separator text)) :
    piece ∈ pieces separator text := by
  rw [← String.ofList_toList (s := text)]
  exact mem_pieces_of_dropRun h

/-- Nor does dropping a trailing one. -/
theorem mem_pieces_of_dropTrailing {text : String}
    (h : piece ∈ pieces separator (dropTrailing separator text)) :
    piece ∈ pieces separator text := by
  have hlist (reversed : List Char)
      (h : piece ∈ pieces separator (String.ofList (dropRun separator reversed).reverse)) :
      piece ∈ pieces separator (String.ofList reversed.reverse) := by
    induction reversed with
    | nil => exact h
    | cons c rest ih =>
      by_cases hc : c = separator
      · subst hc
        have hdrop : dropRun c (c :: rest) = dropRun c rest := by simp [dropRun]
        rw [List.reverse_cons, pieces_append_separator c rest.reverse []]
        exact List.mem_append_left _ (ih (hdrop ▸ h))
      · rwa [dropRun_of_head? (by simpa using hc)] at h
  have htext := hlist text.toList.reverse h
  rwa [List.reverse_reverse, String.ofList_toList] at htext

end Trimming

end Signpost.Text
