import Signpost.Path
import Signpost.Proofs.Percent
import Signpost.Proofs.Pieces

/-!
# Canonical paths

A canonical path is the text of parts none of which is empty or holds a slash.  Main statements:
splitting the text of such parts gives them back, joining always ends in such parts, joining twice
is joining once with both texts and a slash between them, and the canonical paths are those that
joining leaves as they are.
-/

namespace Signpost

namespace Path

/-- A text that can stand between two slashes of a canonical path. -/
def IsPart (part : String) : Prop := part ≠ "" ∧ '/' ∉ part.toList

/-- A part that leads to a place of its own name, and not to where it stands or above it. -/
def GoesDown (part : String) : Prop := IsPart part ∧ part ≠ "." ∧ part ≠ ".."

/-- What was encoded can stand between two slashes, unless it is empty. -/
theorem isPart_encode {text : String} (h : text ≠ "") : IsPart (Text.Percent.encode text) :=
  ⟨fun hempty => h (Text.Percent.encode_eq_empty_iff.mp hempty),
    Text.Percent.not_mem_encode (by decide) text⟩

/-- A rendered path is a slash, and its parts with a slash between them. -/
theorem toList_render (parts : List String) :
    (render parts).toList = '/' :: ['/'].intercalate (parts.map String.toList) := by
  rw [render, String.toList_append, String.toList_intercalate]
  rfl

/-- The text of some parts begins and ends with a character that is no slash. -/
theorem ends_of_isPart {part : String} {rest : List String}
    (hparts : ∀ p ∈ part :: rest, IsPart p) {text : List Char}
    (htext : text = ['/'].intercalate ((part :: rest).map String.toList)) :
    text ≠ [] ∧ text.head? ≠ some '/' ∧ text.getLast? ≠ some '/' := by
  induction rest generalizing part text with
  | nil =>
    obtain ⟨hne, hslash⟩ := hparts part List.mem_cons_self
    have htext' : text = part.toList := by simpa using htext
    rw [htext']
    exact ⟨by simpa using hne, fun h => hslash (List.mem_of_head? h),
      fun h => hslash (List.mem_of_getLast? h)⟩
  | cons next rest ih =>
    obtain ⟨hne, hslash⟩ := hparts part List.mem_cons_self
    obtain ⟨hne', -, hlast'⟩ := ih (fun p hp => hparts p (List.mem_cons_of_mem _ hp)) rfl
    have hpart : part.toList ≠ [] := by simpa using hne
    rw [List.map_cons, List.map_cons, List.intercalate_cons_cons] at htext
    rw [← List.map_cons] at htext
    refine ⟨?_, ?_, ?_⟩
    · rw [htext]
      simp
    · rw [htext, List.append_assoc, List.head?_append,
        Option.or_of_isSome (List.isSome_head?.mpr hpart)]
      exact fun h => hslash (List.mem_of_head? h)
    · rw [htext, List.getLast?_append, Option.or_of_isSome (List.getLast?_isSome.mpr hne')]
      exact hlast'

/-- Texts with a slash between each two, and any number of slashes before and behind them. -/
def surround (leading : Nat) (texts : List String) (trailing : Nat) : String :=
  String.ofList (List.replicate leading '/') ++ "/".intercalate texts ++
    String.ofList (List.replicate trailing '/')

private theorem toList_surround (leading : Nat) (texts : List String) (trailing : Nat) :
    (surround leading texts trailing).toList =
      List.replicate leading '/' ++
        (['/'].intercalate (texts.map String.toList) ++ List.replicate trailing '/') := by
  simp [surround, String.toList_append, String.toList_intercalate]

/-- Splitting parts gives them back, however many slashes stand around them. -/
theorem segments_surround {parts : List String} (hparts : ∀ part ∈ parts, IsPart part)
    (leading trailing : Nat) : segments (surround leading parts trailing) = parts := by
  cases parts with
  | nil =>
    have hnone : Text.dropLeading '/' (surround leading [] trailing) = "" := by
      rw [Text.dropLeading, toList_surround, Text.dropRun_replicate_append]
      simp [Text.dropRun]
    rw [segments, hnone]
    rfl
  | cons part rest =>
    obtain ⟨hne, hhead, hlast⟩ := ends_of_isPart hparts rfl
    have hleading : Text.dropLeading '/' (surround leading (part :: rest) trailing) =
        String.ofList (['/'].intercalate ((part :: rest).map String.toList) ++
          List.replicate trailing '/') := by
      rw [Text.dropLeading, toList_surround, Text.dropRun_replicate_append,
        Text.dropRun_of_head?]
      rwa [List.head?_append, Option.or_of_isSome (List.isSome_head?.mpr hne)]
    have htrailing : Text.dropTrailing '/'
        (String.ofList (['/'].intercalate ((part :: rest).map String.toList) ++
          List.replicate trailing '/')) =
            String.ofList (['/'].intercalate ((part :: rest).map String.toList)) := by
      rw [Text.dropTrailing, String.toList_ofList, List.reverse_append, List.reverse_replicate,
        Text.dropRun_replicate_append, Text.dropRun_of_head?, List.reverse_reverse]
      rwa [List.head?_reverse]
    rw [segments, hleading, htrailing, if_neg (by simpa using hne)]
    exact Text.pieces_intercalate '/' (List.cons_ne_nil _ _) fun p hp => (hparts p hp).2

/-- Splitting the text of parts gives them back. -/
theorem segments_render {parts : List String} (hparts : ∀ part ∈ parts, IsPart part) :
    segments (render parts) = parts := by
  have hrender : render parts = surround 1 parts 0 := String.append_empty.symm
  rw [hrender, segments_surround hparts]

/-- The text of parts does not end with a slash, unless there are none. -/
theorem dropTrailing_render {parts : List String} (hne : parts ≠ [])
    (hparts : ∀ part ∈ parts, IsPart part) :
    Text.dropTrailing '/' (render parts) = render parts := by
  obtain ⟨part, rest, rfl⟩ := List.exists_cons_of_ne_nil hne
  obtain ⟨hinner, -, hlast⟩ := ends_of_isPart hparts rfl
  rw [Text.dropTrailing, Text.dropRun_of_head?, List.reverse_reverse, String.ofList_toList]
  rw [List.head?_reverse, toList_render, List.getLast?_cons]
  rw [List.getLast?_eq_some_getLast hinner] at hlast ⊢
  exact hlast

/-- Splitting the text of parts at every slash gives an empty piece and then the parts. -/
theorem pieces_render {parts : List String} (hne : parts ≠ []) (h : ∀ part ∈ parts, IsPart part) :
    Text.pieces '/' (render parts) = "" :: parts := by
  have hrender : render parts =
      String.ofList ([] ++ '/' :: ['/'].intercalate (parts.map String.toList)) := by
    rw [List.nil_append, ← toList_render, String.ofList_toList]
  rw [hrender, Text.pieces_append_separator,
    Text.pieces_intercalate '/' hne fun p hp => (h p hp).2]
  rfl

/-- The segments of a path are among its pieces. -/
theorem mem_pieces_of_mem_segments {path segment : String} (h : segment ∈ segments path) :
    segment ∈ Text.pieces '/' path := by
  rw [segments] at h
  split at h
  · exact absurd h List.not_mem_nil
  · exact Text.mem_pieces_of_dropLeading (Text.mem_pieces_of_dropTrailing h)

/-- What is followed from parts that go down, by a text without a slash, leads to such parts. -/
theorem goesDown_of_mem_follow {parts : List String} (hparts : ∀ p ∈ parts, GoesDown p)
    {part : String} (hslash : '/' ∉ part.toList) : ∀ p ∈ follow parts part, GoesDown p := by
  unfold follow
  split
  · exact hparts
  next hne =>
    split
    · exact fun p hp => hparts p (List.dropLast_subset _ hp)
    next hdotdot =>
      intro p hp
      rcases List.mem_append.mp hp with hp | hp
      · exact hparts p hp
      · rw [List.mem_singleton.mp hp]
        exact ⟨⟨fun h => hne (Or.inl h), hslash⟩, fun h => hne (Or.inr h), hdotdot⟩

private theorem goesDown_of_mem_resolve
    {parts : List String} (hslash : ∀ p ∈ parts, '/' ∉ p.toList) :
    ∀ p ∈ resolve parts, GoesDown p := by
  suffices h : ∀ start : List String, (∀ p ∈ start, GoesDown p) →
      ∀ p ∈ parts.foldl follow start, GoesDown p from h [] nofun
  induction parts with
  | nil => exact fun _ hstart => hstart
  | cons part rest ih =>
    intro start hstart
    exact ih (fun p hp => hslash p (List.mem_cons_of_mem _ hp)) _
      (goesDown_of_mem_follow hstart (hslash part List.mem_cons_self))

/-- Joining leads to parts that go down. -/
theorem goesDown_of_mem_resolve_pieces {base path part : String}
    (h : part ∈ resolve (Text.pieces '/' base ++ Text.pieces '/' path)) : GoesDown part := by
  refine goesDown_of_mem_resolve (fun p hp => ?_) part h
  rcases List.mem_append.mp hp with hp | hp <;> exact Text.not_mem_of_mem_pieces hp

/-- The segments of a joined path are the parts it was joined from. -/
theorem segments_join (base path : String) :
    segments (join base path) = resolve (Text.pieces '/' base ++ Text.pieces '/' path) :=
  segments_render fun _ h => (goesDown_of_mem_resolve_pieces h).1

/-- A joined path is the text of its segments. -/
theorem render_segments_join (base path : String) :
    render (segments (join base path)) = join base path := by
  rw [segments_join, join]

/-- No segment of a joined path is empty or holds a slash. -/
theorem isPart_of_mem_segments_join {base path part : String}
    (h : part ∈ segments (join base path)) : IsPart part :=
  (goesDown_of_mem_resolve_pieces (segments_join base path ▸ h)).1

/-- What is followed second is followed from where the first led. -/
theorem resolve_append (front back : List String) :
    resolve (front ++ back) = back.foldl follow (resolve front) := List.foldl_append

/-- Parts that go down are resolved to themselves. -/
theorem resolve_of_goesDown {parts : List String} (h : ∀ part ∈ parts, GoesDown part) :
    resolve parts = parts := by
  suffices hfrom : ∀ start : List String, parts.foldl follow start = start ++ parts from hfrom []
  induction parts with
  | nil => exact fun start => (List.append_nil start).symm
  | cons part rest ih =>
    intro start
    rw [List.forall_mem_cons] at h
    obtain ⟨⟨⟨hne, -⟩, hdot, hdotdot⟩, hrest⟩ := h
    have hfollow : follow start part = start ++ [part] := by simp [follow, hne, hdot, hdotdot]
    rw [List.foldl_cons, hfollow, ih hrest, List.append_assoc, List.singleton_append]

/-- A slash at the beginning of a path leads nowhere. -/
theorem resolve_pieces_cons_slash (text : List Char) :
    resolve (Text.pieces '/' (String.ofList ('/' :: text))) =
      resolve (Text.pieces '/' (String.ofList text)) := by
  have hpieces : Text.pieces '/' (String.ofList ('/' :: text)) =
      "" :: Text.pieces '/' (String.ofList text) := Text.pieces_append_separator '/' [] text
  rw [hpieces, resolve, List.foldl_cons, follow_empty, resolve]

/-- The text of parts that go down leads to them. -/
theorem resolve_pieces_render {parts : List String} (h : ∀ part ∈ parts, GoesDown part) :
    resolve (Text.pieces '/' (render parts)) = parts := by
  have hrender : render parts =
      String.ofList ('/' :: ['/'].intercalate (parts.map String.toList)) := by
    rw [← toList_render, String.ofList_toList]
  rw [hrender, resolve_pieces_cons_slash]
  cases parts with
  | nil => rfl
  | cons part rest =>
    rw [Text.pieces_intercalate '/' (List.cons_ne_nil _ _) fun p hp => (h p hp).1.2,
      resolve_of_goesDown h]

/-- A joined path leads to where its two parts lead. -/
theorem resolve_pieces_join (base path : String) :
    resolve (Text.pieces '/' (join base path)) =
      resolve (Text.pieces '/' base ++ Text.pieces '/' path) :=
  resolve_pieces_render fun _ h => goesDown_of_mem_resolve_pieces h

/-- Joining one path and then another is joining both with a slash between them. -/
theorem join_join (base first second : String) :
    join (join base first) second = join base (first ++ "/" ++ second) := by
  rw [join, resolve_append, resolve_pieces_join, ← resolve_append, List.append_assoc,
    ← Text.pieces_append_slash, join]

private theorem join_empty (path : String) :
    join path "" = render (resolve (Text.pieces '/' path)) := by
  have hblank : Text.pieces '/' "" = [""] := by decide
  rw [join, hblank, resolve_append, List.foldl_cons, List.foldl_nil, follow_empty]

private theorem join_slash (path : String) :
    join "/" path = render (resolve (Text.pieces '/' path)) := by
  have hroot : resolve (Text.pieces '/' "/") = [] := by decide
  rw [join, resolve_append, hroot, ← resolve]

/-- Joining a joined path to the root leaves it as it is. -/
theorem join_slash_join (base path : String) : join "/" (join base path) = join base path := by
  rw [join_slash, resolve_pieces_join, ← join]

section Canonical

/-- The texts behind the slashes of a path that begins with one.  The root has none. -/
def parts (path : String) : List String :=
  if path = "/" then [] else (Text.pieces '/' path).tail

/-- The one way of writing a path that leads from the root to a place under it. -/
structure IsCanonical (path : String) : Prop where
  /-- A slash begins the path, and only one. -/
  begins : ∃ rest, path = "/" ++ rest ∧ rest.toList.head? ≠ some '/'
  /-- No slash ends it, unless it is the root. -/
  ends : path = "/" ∨ path.toList.getLast? ≠ some '/'
  /-- Every part leads to a place of its own name. -/
  down : ∀ part ∈ parts path, part ≠ "" ∧ part ≠ "." ∧ part ≠ ".."

variable {path : String}

/-- The parts of a text of parts are these. -/
theorem parts_render {texts : List String} (h : ∀ part ∈ texts, IsPart part) :
    parts (render texts) = texts := by
  by_cases hne : texts = []
  · rw [hne]
    rfl
  · have hroot : render texts ≠ "/" := by
      intro heq
      have hsegments := segments_render h
      rw [heq] at hsegments
      exact hne hsegments.symm
    rw [parts, if_neg hroot, pieces_render hne h, List.tail_cons]

private theorem isCanonical_render {texts : List String} (h : ∀ part ∈ texts, GoesDown part) :
    IsCanonical (render texts) := by
  have hpart : ∀ part ∈ texts, IsPart part := fun part hmem => (h part hmem).1
  have hdown : ∀ part ∈ parts (render texts), part ≠ "" ∧ part ≠ "." ∧ part ≠ ".." := by
    rw [parts_render hpart]
    exact fun part hmem => ⟨(hpart part hmem).1, (h part hmem).2⟩
  cases texts with
  | nil => exact ⟨⟨"", rfl, by simp⟩, Or.inl rfl, hdown⟩
  | cons first rest =>
    obtain ⟨hne, hhead, hlast⟩ := ends_of_isPart hpart rfl
    refine ⟨⟨"/".intercalate (first :: rest), rfl, ?_⟩, Or.inr ?_, hdown⟩
    · rwa [String.toList_intercalate]
    · rwa [toList_render, List.getLast?_cons_of_ne_nil hne]

private theorem isCanonical_join (base path : String) : IsCanonical (join base path) :=
  isCanonical_render fun _ => goesDown_of_mem_resolve_pieces

/-- A path that begins with a slash is the text of its parts. -/
theorem IsCanonical.render_parts (h : IsCanonical path) : render (parts path) = path := by
  obtain ⟨rest, rfl, -⟩ := h.begins
  by_cases hroot : "/" ++ rest = "/"
  · rw [hroot]
    rfl
  · have hpieces : Text.pieces '/' ("" ++ "/" ++ rest) = "" :: Text.pieces '/' rest :=
      Text.pieces_append_slash "" rest
    rw [String.empty_append] at hpieces
    rw [parts, if_neg hroot, hpieces, List.tail_cons, ← String.toList_inj, toList_render,
      Text.toList_intercalate_pieces, String.toList_append]
    rfl

private theorem IsCanonical.goesDown (h : IsCanonical path) :
    ∀ part ∈ parts path, GoesDown part := by
  intro part hmem
  obtain ⟨hne, hdots⟩ := h.down part hmem
  refine ⟨⟨hne, ?_⟩, hdots⟩
  rw [parts] at hmem
  split at hmem
  · exact absurd hmem List.not_mem_nil
  · exact Text.not_mem_of_mem_pieces (List.mem_of_mem_tail hmem)

/-- Nothing in a canonical path leads elsewhere. -/
theorem IsCanonical.render_resolve (h : IsCanonical path) :
    render (resolve (Text.pieces '/' path)) = path := by
  have hresolve := resolve_pieces_render h.goesDown
  rw [h.render_parts] at hresolve
  rw [hresolve, h.render_parts]

/-- The parts of a joined path are what its two texts lead to. -/
theorem parts_join (base path : String) :
    parts (join base path) = resolve (Text.pieces '/' base ++ Text.pieces '/' path) :=
  parts_render fun _ hmem => (goesDown_of_mem_resolve_pieces hmem).1

/-- A `..` at the end leads to the place above, and from the root nowhere. -/
theorem parts_join_dotdot (base path : String) :
    parts (join base (path ++ "/" ++ "..")) = (parts (join base path)).dropLast := by
  have hdotdot : Text.pieces '/' ".." = [".."] := by decide
  rw [parts_join, parts_join, Text.pieces_append_slash, hdotdot, ← List.append_assoc,
    resolve_append, List.foldl_cons, List.foldl_nil, follow_dotdot]

/-- Joining makes a canonical path, whose parts are its segments and make it up again; it leaves
canonical paths and no others as they are; and what is joined in two steps can be joined in one,
even where a `..` leads above the root. -/
theorem join_normalizes (base path more text : String) :
    IsCanonical (join base path) ∧
      segments (join base path) = parts (join base path) ∧
      "/" ++ "/".intercalate (parts (join base path)) = join base path ∧
      (IsCanonical text ↔ join text "" = text) ∧
      (IsCanonical text ↔ join "/" text = text) ∧
      join (join base path) more = join base (path ++ "/" ++ more) ∧
      parts (join base (path ++ "/" ++ "..")) = (parts (join base path)).dropLast := by
  have hsegments : segments (join base path) = parts (join base path) := by
    rw [segments_join, parts_join]
  have hrender : render (parts (join base path)) = join base path :=
    (isCanonical_join base path).render_parts
  have hempty : IsCanonical text ↔ join text "" = text := by
    refine ⟨fun h => ?_, fun h => h ▸ isCanonical_join text ""⟩
    rw [join_empty, h.render_resolve]
  have hslash : IsCanonical text ↔ join "/" text = text := by
    rw [hempty, join_empty, join_slash]
  exact ⟨isCanonical_join base path, hsegments, hrender, hempty, hslash,
    join_join base path more, parts_join_dotdot base path⟩

end Canonical

end Path

end Signpost
