import Mathlib.Data.String.Basic
import Signpost.Proofs.Path

/-!
# Places

A place is the list of names that a canonical path leads through.  Main statements: a place is
known by its text, and of two places whose texts begin one path the deeper has the longer text.
Two of one depth can both begin a path, and then the shorter text comes first.
-/

namespace Signpost

namespace Text

/-- Of two beginnings of one text the longer begins with the shorter. -/
theorem exists_eq_append {a b restA restB : String} (h : a ++ restA = b ++ restB)
    (hle : a.length ≤ b.length) : ∃ more, b = a ++ more := by
  have hlist : a.toList ++ restA.toList = b.toList ++ restB.toList := by
    rw [← String.toList_append, ← String.toList_append, h]
  have hprefix : a.toList <+: b.toList :=
    List.prefix_of_prefix_length_le ⟨restA.toList, hlist⟩ ⟨restB.toList, rfl⟩ hle
  obtain ⟨more, hmore⟩ := hprefix
  refine ⟨String.ofList more, ?_⟩
  rw [← String.toList_inj, String.toList_append, String.toList_ofList, hmore]

private theorem le_append (a more : String) : a ≤ a ++ more := by
  rw [← not_lt]
  intro h
  have hlist : (a ++ more).toList < a.toList := h
  rw [String.toList_append] at hlist
  exact List.le_append_left hlist

/-- Two beginnings of one text are ordered by their length. -/
theorem length_le_of_le {a b restA restB : String} (h : a ++ restA = b ++ restB) (hle : a ≤ b) :
    a.length ≤ b.length := by
  by_contra hlt
  obtain ⟨more, hmore⟩ := exists_eq_append h.symm (Nat.le_of_not_le hlt)
  have hba : b ≤ a := hmore ▸ le_append b more
  exact hlt (le_antisymm hle hba ▸ Nat.le_refl _)

private theorem eq_of_length_eq {a b restA restB : String} (h : a ++ restA = b ++ restB)
    (hlength : a.length = b.length) : a = b := by
  obtain ⟨more, rfl⟩ := exists_eq_append h hlength.le
  have hmore : more = "" := by
    rw [String.length_append] at hlength
    rw [← String.length_eq_zero_iff]
    omega
  rw [hmore, String.append_empty]

private theorem count_intercalate {separator : Char} (text : List Char) {others : List (List Char)}
    (hfree : ∀ l ∈ text :: others, separator ∉ l) :
    ([separator].intercalate (text :: others)).count separator = others.length := by
  induction others generalizing text with
  | nil => simpa [List.count_eq_zero] using hfree
  | cons next others ih =>
    rw [List.forall_mem_cons] at hfree
    rw [List.intercalate_cons_cons, List.count_append, List.count_append, ih next hfree.2,
      List.count_eq_zero.mpr hfree.1, List.count_singleton_self, List.length_cons]
    omega

end Text

/-- No segment holds a slash. -/
theorem Path.not_mem_of_mem_segments {path name : String} (h : name ∈ segments path) :
    '/' ∉ name.toList := by
  unfold segments at h
  dsimp only at h
  split at h
  · exact absurd h List.not_mem_nil
  · exact Text.not_mem_of_mem_pieces h

/-- A single segment is never empty. -/
theorem Path.segments_ne_blank (path : String) : segments path ≠ [""] := by
  unfold segments
  dsimp only
  split
  · exact List.cons_ne_nil _ _ ∘ Eq.symm
  next hne =>
    intro hpieces
    have htext := Text.toList_intercalate_pieces '/'
      (Text.dropTrailing '/' (Text.dropLeading '/' path))
    rw [hpieces] at htext
    exact hne (String.toList_inj.mp htext.symm)

namespace Files

/-- A place as the cutting of a path gives it: no name holds a slash, and a single one is not
empty. -/
@[ext]
structure Place where
  /-- The names that lead to it. -/
  names : List String
  /-- No name holds a slash. -/
  slashFree : ∀ name ∈ names, '/' ∉ name.toList
  /-- An empty name is not alone. -/
  ne_blank : names ≠ [""]
  deriving DecidableEq

namespace Place

/-- The place that a path leads to. -/
def ofPath (path : String) : Place :=
  ⟨Path.segments path, fun _ => Path.not_mem_of_mem_segments, Path.segments_ne_blank path⟩

/-- The path of a place. -/
def text (place : Place) : String := Path.render place.names

/-- How many names lead to a place. -/
def depth (place : Place) : Nat := place.names.length

/-- What stands around the slashes of the text of a place. -/
def pieces (place : Place) : List String :=
  "" :: if place.names = [] then [""] else place.names

private theorem toList_text (place : Place) :
    place.text.toList = ['/'].intercalate (place.pieces.map String.toList) := by
  rw [text, Path.toList_render, pieces]
  split
  next hnil => rw [hnil]; rfl
  next hne =>
    obtain ⟨name, names, hnames⟩ := List.exists_cons_of_ne_nil hne
    rw [hnames, List.map_cons, List.map_cons, List.map_cons, List.intercalate_cons_cons]
    rfl

private theorem slashFree_pieces (place : Place) : ∀ piece ∈ place.pieces, '/' ∉ piece.toList := by
  rw [pieces, List.forall_mem_cons]
  refine ⟨List.not_mem_nil, ?_⟩
  split
  · simp
  · exact place.slashFree

private theorem pieces_text (place : Place) : Text.pieces '/' place.text = place.pieces := by
  have hne : place.pieces ≠ [] := List.cons_ne_nil _ _
  have hpieces := Text.pieces_intercalate '/' hne place.slashFree_pieces
  rwa [← toList_text, String.ofList_toList] at hpieces

/-- A place is known by its text. -/
theorem text_injective {a b : Place} (h : a.text = b.text) : a = b := by
  have hpieces : a.pieces = b.pieces := by rw [← pieces_text, ← pieces_text, h]
  have hnames := (List.cons.inj hpieces).2
  ext1
  split at hnames
  next ha =>
    split at hnames
    next hb => rw [ha, hb]
    next => exact absurd hnames.symm b.ne_blank
  next =>
    split at hnames
    next => exact absurd hnames a.ne_blank
    next => exact hnames

/-- No place at least as long as another begins its text, but itself. -/
theorem eq_of_text_append_eq {a b : Place} {rest : String} (h : a.text ++ rest = b.text)
    (hlength : b.text.length ≤ a.text.length) : a = b := by
  have hsum : a.text.length + rest.length = b.text.length := by rw [← h, String.length_append]
  have hwhole : a.text ++ rest = b.text ++ "" := h.trans String.append_empty.symm
  exact text_injective (Text.eq_of_length_eq hwhole (by omega))

/-- There are as many slashes in the text of a place as there are names, but at least one. -/
theorem count_slash_text (place : Place) : place.text.toList.count '/' = max 1 place.depth := by
  have hfree : ∀ l ∈ place.pieces.map String.toList, '/' ∉ l := by
    simpa only [List.forall_mem_map] using place.slashFree_pieces
  rw [toList_text, pieces, List.map_cons, Text.count_intercalate _ hfree, List.length_map, depth]
  split
  next hnil => rw [hnil]; rfl
  next hne => exact (max_eq_right (List.length_pos_iff.mpr hne)).symm

private theorem length_text_of_depth_eq_zero {place : Place} (h : place.depth = 0) :
    place.text.length = 1 := by
  rw [text, List.length_eq_zero_iff.mp h]
  rfl

private theorem length_text_of_depth_eq_one {place : Place} (h : place.depth = 1) :
    1 < place.text.length := by
  obtain ⟨name, hname⟩ := List.length_eq_one_iff.mp h
  have hne : name.toList ≠ [] := fun hempty =>
    place.ne_blank (hname.trans (congrArg ([·]) (String.toList_eq_nil_iff.mp hempty)))
  rw [text, hname, ← String.length_toList, Path.toList_render, List.length_cons, List.map_singleton,
    List.intercalate_singleton]
  exact Nat.lt_add_of_pos_left (List.length_pos_iff.mpr hne)

/-- Of two places whose texts begin one path the deeper has the longer text. -/
theorem length_text_lt {a b : Place} {restA restB : String} (h : a.text ++ restA = b.text ++ restB)
    (hdepth : a.depth < b.depth) : a.text.length < b.text.length := by
  -- Otherwise the deeper text begins the other one and has no more slashes than it.  The root, with
  -- its one slash, is the only place that this leaves, and its text is the shortest.
  by_contra hlt
  obtain ⟨more, hmore⟩ := Text.exists_eq_append h.symm (Nat.le_of_not_lt hlt)
  have hcount : b.text.toList.count '/' ≤ a.text.toList.count '/' := by
    rw [hmore, String.toList_append, List.count_append]
    exact Nat.le_add_right _ _
  rw [count_slash_text, count_slash_text] at hcount
  have ha := length_text_of_depth_eq_zero (show a.depth = 0 by omega)
  have hb := length_text_of_depth_eq_one (show b.depth = 1 by omega)
  omega

end Place

end Files

end Signpost
