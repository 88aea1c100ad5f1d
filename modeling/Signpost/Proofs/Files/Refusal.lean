import Signpost.Proofs.Files.Confinement

/-!
# Refused requests for files

A segment of a request may stand for one name.  One that holds a slash after it was decoded is
refused if the slash comes first or a part follows it; slashes at its end, with nothing or dots
between them, are passed over.  Main statement: exactly these requests are refused, and all others
lead to the names that their segments begin with.
-/

namespace Signpost.Files

open Text.Percent

/-- Whether a text leads elsewhere than down by one name: it begins with a slash or with two dots
for the first part, or a part follows behind a slash. -/
def Strays (text : String) : Prop :=
  ∃ first rest, Text.pieces '/' text = first :: rest ∧
    ((first = "" ∧ rest ≠ []) ∨ first = ".." ∨ ∃ part ∈ rest, part ≠ "" ∧ part ≠ ".")

/-- The name that a text begins with, unless it is empty or a dot. -/
def leadingName? (text : String) : Option String :=
  (Text.pieces '/' text).head?.filter fun part => part ≠ "" ∧ part ≠ "."

private theorem Component.ofPart?_eq_none_iff {part : String} :
    ofPart? part = none ↔ part = "" ∨ part = "." := by
  rw [ofPart?]
  split
  next h => simp [h]
  next h =>
    refine ⟨fun hnone => ?_, fun h' => absurd h' h⟩
    split at hnone <;> contradiction

section Components

variable {text first : String} {rest : List String}

private theorem strays_iff (hpieces : Text.pieces '/' text = first :: rest) :
    Strays text ↔
      (first = "" ∧ rest ≠ []) ∨ first = ".." ∨ ∃ part ∈ rest, part ≠ "" ∧ part ≠ "." := by
  constructor
  · rintro ⟨first', rest', hpieces', h⟩
    obtain ⟨rfl, rfl⟩ := List.cons.inj (hpieces.symm.trans hpieces')
    exact h
  · exact fun h => ⟨first, rest, hpieces, h⟩

/-- Only a text that begins with a slash has an empty part and others behind it. -/
theorem isSome_after?_slash_iff (hpieces : Text.pieces '/' text = first :: rest) :
    (Text.after? "/" text).isSome ↔ first = "" ∧ rest ≠ [] := by
  rw [Option.isSome_iff_exists]
  constructor
  · rintro ⟨behind, hbehind⟩
    rw [Text.after?_eq_some_iff] at hbehind
    have hparts := Text.pieces_append_slash "" behind
    rw [String.empty_append, ← hbehind, hpieces] at hparts
    obtain ⟨rfl, rfl⟩ := List.cons.inj hparts
    exact ⟨rfl, Text.pieces_ne_nil '/' behind⟩
  · rintro ⟨rfl, hrest⟩
    have htext := Text.toList_intercalate_pieces '/' text
    obtain ⟨next, others, rfl⟩ := List.exists_cons_of_ne_nil hrest
    rw [hpieces, List.map_cons, List.map_cons, List.intercalate_cons_cons] at htext
    refine ⟨String.ofList (['/'].intercalate ((next :: others).map String.toList)), ?_⟩
    rw [Text.after?_eq_some_iff, ← String.toList_inj, ← htext]
    simp

/-- Behind the first part of a text that does not begin with a slash, empty parts and dots do not
count. -/
theorem components_eq (hpieces : Text.pieces '/' text = first :: rest)
    (h : ¬(first = "" ∧ rest ≠ [])) :
    components text = (if first = "." then [.current] else (Component.ofPart? first).toList) ++
      rest.filterMap Component.ofPart? := by
  rw [← isSome_after?_slash_iff hpieces, Option.not_isSome_iff_eq_none] at h
  rw [components, h]
  dsimp only
  rw [hpieces]
  by_cases hdot : first = "."
  · subst hdot
    rfl
  · rw [if_neg hdot]
    split
    next heq => exact absurd (List.cons.inj heq).1 hdot
    next =>
      rw [List.filterMap_cons]
      cases Component.ofPart? first <;> rfl

end Components

namespace Directory

/-- A segment that strays is refused. -/
theorem descend?_of_strays (path : FilePath) {segment : String} (h : Strays (decode segment)) :
    descend? path segment = none := by
  obtain ⟨first, rest, hpieces, h⟩ := h
  rw [descend?]
  by_cases hslash : first = "" ∧ rest ≠ []
  · obtain ⟨behind, hbehind⟩ :=
      Option.isSome_iff_exists.mp ((isSome_after?_slash_iff hpieces).mpr hslash)
    rw [components, hbehind]
  · rw [components_eq hpieces hslash]
    rcases h with h | rfl | ⟨part, hpart, hne⟩
    · exact absurd h hslash
    · rfl
    · -- There is a component behind the first one, which is not missing either.
      have hcounts : rest.filterMap Component.ofPart? ≠ [] := by
        rw [ne_eq, List.filterMap_eq_nil_iff]
        intro hnone
        rw [← not_or] at hne
        exact hne (Component.ofPart?_eq_none_iff.mp (hnone part hpart))
      have hfirst : first ≠ "" := fun hempty => hslash ⟨hempty, List.ne_nil_of_mem hpart⟩
      have hone : ∃ component, (if first = "." then [.current]
          else (Component.ofPart? first).toList) = [component] := by
        by_cases hdot : first = "."
        · exact ⟨.current, if_pos hdot⟩
        · rw [if_neg hdot]
          cases hcomponent : Component.ofPart? first with
          | none =>
            exact absurd (Component.ofPart?_eq_none_iff.mp hcomponent) (by simp [hfirst, hdot])
          | some component => exact ⟨component, rfl⟩
      obtain ⟨component, hcomponent⟩ := hone
      obtain ⟨next, others, hnext⟩ := List.exists_cons_of_ne_nil hcounts
      rw [hcomponent, hnext]
      cases component <;> rfl

/-- A segment that does not stray leads to the name that it begins with, if there is one. -/
theorem descend?_of_not_strays (path : FilePath) {segment : String}
    (h : ¬Strays (decode segment)) :
    descend? path segment = some (path ++ (leadingName? (decode segment)).toList) := by
  obtain ⟨first, rest, hpieces⟩ := List.exists_cons_of_ne_nil
    (Text.pieces_ne_nil '/' (decode segment))
  rw [strays_iff hpieces, not_or, not_or] at h
  obtain ⟨hslash, hdotdot, hrest⟩ := h
  have hnothing : rest.filterMap Component.ofPart? = [] := by
    rw [List.filterMap_eq_nil_iff]
    intro part hpart
    rw [Component.ofPart?_eq_none_iff]
    by_contra hne
    exact hrest ⟨part, hpart, not_or.mp hne⟩
  have hfree : '/' ∉ first.toList :=
    Text.not_mem_of_mem_pieces (hpieces ▸ List.mem_cons_self)
  rw [descend?, components_eq hpieces hslash, hnothing, List.append_nil, leadingName?, hpieces,
    List.head?_cons]
  by_cases hdot : first = "."
  · subst hdot
    simp
  by_cases hempty : first = ""
  · subst hempty
    simp [Component.ofPart?]
  · have hdown : Path.GoesDown first := ⟨⟨hempty, hfree⟩, hdot, hdotdot⟩
    simp [Component.ofPart?, hdot, hempty, hdotdot, FilePath.push_of_goesDown path hdown,
      Option.filter]

/-- A request is refused if one of its segments strays. -/
theorem target?_of_strays (dir : Directory) {remainder segment : String}
    (hsegment : segment ∈ Text.pieces '/' remainder) (h : Strays (decode segment)) :
    dir.target? remainder = none := by
  obtain ⟨front, back, hpieces⟩ := List.append_of_mem hsegment
  rw [target?, hpieces, List.foldlM_append]
  cases front.foldlM descend? dir.root with
  | none => rfl
  | some path =>
    have hback : (segment :: back).foldlM descend? path =
        descend? path segment >>= back.foldlM descend? := List.foldlM_cons
    exact hback.trans (by rw [descend?_of_strays path h]; rfl)

/-- A request none of whose segments strays leads to the names that they begin with. -/
theorem target?_of_not_strays (dir : Directory) {remainder : String}
    (h : ∀ segment ∈ Text.pieces '/' remainder, ¬Strays (decode segment)) :
    dir.target? remainder = some (dir.root ++
      (Text.pieces '/' remainder).filterMap fun segment => leadingName? (decode segment)) := by
  rw [target?]
  generalize dir.root = start
  generalize Text.pieces '/' remainder = segments at h ⊢
  induction segments generalizing start with
  | nil => exact congrArg some (List.append_nil start).symm
  | cons segment rest ih =>
    rw [List.forall_mem_cons] at h
    rw [List.foldlM_cons, descend?_of_not_strays start h.1]
    refine (ih _ h.2).trans ?_
    rw [List.append_assoc, List.filterMap_cons]
    cases leadingName? (decode segment) <;> rfl

/-- Where a request leads somewhere, it is not refused. -/
theorem load_ne_invalidPath {dir : Directory} {remainder : String} {path : FilePath}
    (h : dir.target? remainder = some path) (files : Tree) :
    dir.load files remainder ≠ .error .invalidPath := by
  rw [load_of_target?_eq_some h]
  cases hindexed : dir.indexed path (files.sight? path) with
  | ok path' =>
    change contentAt path' (files.sight? path') ≠ _
    unfold contentAt
    split <;> simp
  | error error =>
    change Except.error error ≠ _
    unfold indexed at hindexed
    split at hindexed
    next =>
      cases hindex : dir.index with
      | none =>
        rw [hindex] at hindexed
        obtain rfl : LoadError.directoryListing = error := Except.error.inj hindexed
        simp
      | some index =>
        rw [hindex] at hindexed
        contradiction
    next => contradiction

/-- A request for a file is refused exactly if one of its segments strays, whatever files there
are; any other request leads to the names that its segments begin with, and slashes behind them
are passed over. -/
theorem load_refused_iff (dir : Directory) (files : Tree) (remainder : String) :
    (dir.load files remainder = .error .invalidPath ↔
      ∃ segment ∈ Text.pieces '/' remainder, Strays (decode segment)) ∧
    ((∃ segment ∈ Text.pieces '/' remainder, Strays (decode segment)) ∨
      dir.target? remainder = some (dir.root ++
        (Text.pieces '/' remainder).filterMap fun segment => leadingName? (decode segment))) := by
  by_cases h : ∃ segment ∈ Text.pieces '/' remainder, Strays (decode segment)
  · obtain ⟨segment, hsegment, hstrays⟩ := h
    have htarget := dir.target?_of_strays hsegment hstrays
    exact ⟨iff_of_true (load_of_target?_eq_none htarget files) ⟨segment, hsegment, hstrays⟩,
      Or.inl ⟨segment, hsegment, hstrays⟩⟩
  · have htarget := dir.target?_of_not_strays fun segment hsegment hstrays =>
      h ⟨segment, hsegment, hstrays⟩
    exact ⟨iff_of_false (load_ne_invalidPath htarget files) h, Or.inr htarget⟩

/-- A note is served for a request whose only segment is decoded to a text with a slash. -/
theorem load_trailing_slash :
    "note.txt%2F" ∈ Text.pieces '/' "note.txt%2F" ∧ '/' ∈ (decode "note.txt%2F").toList ∧
      ({ root := [] } : Directory).load (.dir [("note.txt", .file "note".toUTF8)]) "note.txt%2F" =
        .ok ("note".toUTF8, "text/plain; charset=utf-8") := by
  refine ⟨?_, ?_, ?_⟩ <;> decide +kernel

end Directory

end Signpost.Files
