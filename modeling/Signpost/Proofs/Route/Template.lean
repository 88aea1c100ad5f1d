import Signpost.Proofs.Dict
import Signpost.Proofs.Path
import Signpost.Route.Template

/-!
# Addresses of canonical paths

What a template makes of a path that is the text of its parts.  Main statements: if what the parts
become can stand between two slashes, the address is the path of that; and whatever they become,
the segments of the address are pieces of it.
-/

namespace Signpost.Route

private theorem Placeholder.parse?_empty : Placeholder.parse? "" = none := rfl

namespace Template

/-- The names of the placeholders among some segments. -/
def namesOf (written : List String) : List String :=
  written.filterMap fun text => (Placeholder.parse? text).map (·.name)

/-- A name is one of those of a path if a placeholder in it has it. -/
theorem mem_namesOf {written : List String} {name : String} :
    name ∈ namesOf written ↔
      ∃ text ∈ written, ∃ p, Placeholder.parse? text = some p ∧ p.name = name := by
  simp [namesOf, Option.map_eq_some_iff]

private theorem fill_empty (values : List (String × String)) : fill values "" = some "" := by
  rw [fill, Placeholder.parse?_empty]

/-- A segment becomes itself, the value of its placeholder, or the word for a missing one. -/
theorem fill_cases {values : List (String × String)} {text filled : String}
    (h : fill values text = some filled) :
    (Placeholder.parse? text = none ∧ filled = text) ∨
      (∃ p, Placeholder.parse? text = some p ∧ latest? p.name values = some filled) ∨
      filled = "null" := by
  rw [fill] at h
  cases hparse : Placeholder.parse? text with
  | none =>
    rw [hparse] at h
    exact Or.inl ⟨rfl, (Option.some.inj h).symm⟩
  | some p =>
    rw [hparse] at h
    dsimp only at h
    cases hvalue : latest? p.name values with
    | some value =>
      rw [hvalue] at h
      exact Or.inr (Or.inl ⟨p, rfl, hvalue.trans h⟩)
    | none =>
      rw [hvalue] at h
      dsimp only at h
      split at h
      · contradiction
      · exact Or.inr (Or.inr (Option.some.inj h).symm)

/-- A placeholder that may be missing vanishes without a value. -/
theorem fill_of_missing {values : List (String × String)} {text : String} {p : Placeholder}
    (hparse : Placeholder.parse? text = some p) (hoptional : p.isOptional = true)
    (hvalue : latest? p.name values = none) : fill values text = none := by
  rw [fill, hparse]
  dsimp only
  rw [hvalue]
  simp [hoptional]

section Canonical

variable {written : List String} (hwritten : ∀ text ∈ written, Path.IsPart text)
include hwritten

/-- A path of proper parts has the names of its parts. -/
theorem placeholderNames_render : placeholderNames (Path.render written) = namesOf written := by
  cases written with
  | nil => rfl
  | cons first rest =>
    rw [placeholderNames, Path.pieces_render (List.cons_ne_nil _ _) hwritten]
    rfl

variable (values : List (String × String))

/-- An address is the path of what the parts become, without the slashes at its end. -/
theorem path_render_eq :
    path (Path.render written) values =
      if Text.dropTrailing '/' (Path.render (written.filterMap (fill values))) = "" then "/"
      else Text.dropTrailing '/' (Path.render (written.filterMap (fill values))) := by
  suffices h : Text.dropTrailing '/'
      ("/".intercalate ((Text.pieces '/' (Path.render written)).filterMap (fill values))) =
        Text.dropTrailing '/' (Path.render (written.filterMap (fill values))) by
    rw [path, h]
  cases written with
  | nil => rfl
  | cons first rest =>
    rw [Path.pieces_render (List.cons_ne_nil _ _) hwritten,
      List.filterMap_cons_some (fill_empty values)]
    cases (first :: rest).filterMap (fill values) with
    | nil => rfl
    | cons filled others =>
      rw [String.intercalate_cons_cons, String.empty_append, Path.render]

/-- If what the parts become can stand between two slashes, the address is the path of that. -/
theorem path_render (hfilled : ∀ text ∈ written.filterMap (fill values), Path.IsPart text) :
    path (Path.render written) values = Path.render (written.filterMap (fill values)) := by
  rw [path_render_eq hwritten]
  cases hfills : written.filterMap (fill values) with
  | nil => rfl
  | cons first rest =>
    have hpath : Path.render (first :: rest) ≠ "" := by
      rw [ne_eq, ← String.toList_inj, Path.toList_render]
      exact List.cons_ne_nil _ _
    rw [Path.dropTrailing_render (List.cons_ne_nil _ _) (hfills ▸ hfilled), if_neg hpath]

/-- The segments of an address are pieces of what the parts become. -/
theorem mem_pieces_of_mem_segments {segment : String}
    (h : segment ∈ Path.segments (path (Path.render written) values)) :
    segment = "" ∨ ∃ text ∈ written.filterMap (fill values), segment ∈ Text.pieces '/' text := by
  rw [path_render_eq hwritten] at h
  split at h
  · exact absurd h List.not_mem_nil
  · have hpieces := Text.mem_pieces_of_dropTrailing (Path.mem_pieces_of_mem_segments h)
    have hrender : Path.render (written.filterMap (fill values)) =
        "" ++ "/" ++ "/".intercalate (written.filterMap (fill values)) := rfl
    rw [hrender, Text.pieces_append_slash, List.mem_append] at hpieces
    rcases hpieces with hempty | hpieces
    · exact Or.inl (List.mem_singleton.mp hempty)
    · exact Text.mem_pieces_intercalate hpieces

end Canonical

/-- Values for placeholders alone leave nothing for a query. -/
theorem url_eq_path {template : Template} {params : List (String × Option String)}
    (h : ∀ param ∈ params, param.1 ∈ template.placeholderNames) :
    template.url params = template.path (setParams params) := by
  have hextra : template.extraParams (setParams params) = [] := by
    rw [extraParams, List.filter_eq_nil_iff]
    intro param hparam
    obtain ⟨⟨key, value⟩, hmem, hvalue⟩ := List.mem_filterMap.mp hparam
    obtain ⟨value, rfl, rfl⟩ := Option.map_eq_some_iff.mp hvalue
    simpa using h _ hmem
  rw [url, hextra]

/-- The entries of a dictionary, in whichever order, give every key its value. -/
theorem latest?_setParams {dict : Dict String String}
    (hnodup : (dict.entries.map Prod.fst).Nodup) {given : List (String × Option String)}
    (hgiven : given.Perm (dict.entries.map fun entry => (entry.1, some entry.2))) (key : String) :
    latest? key (setParams given) = dict.get? key := by
  have hentries : setParams (dict.entries.map fun entry => (entry.1, some entry.2)) =
      dict.entries := by
    simp [setParams, List.filterMap_map]
  have hset : (setParams given).Perm dict.entries := by
    rw [← hentries]
    exact hgiven.filterMap _
  exact Dict.latest?_eq_get? hnodup hset key

end Template

end Signpost.Route
