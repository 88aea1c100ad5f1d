import Signpost.Proofs.Dict
import Signpost.Proofs.Route.Forms
import Signpost.Proofs.Route.Template

/-!
# Filled paths

Values turn the segments of a declared path into segments of an address.  Main statement: if what
they turn a form of the path into answers it, the route answers the address, and binds every name
of the form to what its value decodes to.
-/

namespace Signpost.Route

universe u

open Text.Percent

/-- The names that a form binds to texts have a placeholder in it. -/
theorem exists_of_get?_formParams {patternOf : String → Option Pattern}
    {form texts : List String} {name text : String}
    (h : (formParams patternOf form texts).get? name = some text) :
    name ≠ "" ∧ ∃ written, (written, text) ∈ form.zip texts ∧
      ∃ p, Placeholder.parse? written = some p ∧ p.name = name :=
  Segment.mem_bindingsAll_ofText.mp (Dict.mem_of_get?_ofList h)

/-- A form binds the names that have a placeholder in it. -/
theorem isSome_get?_formParams (patternOf : String → Option Pattern) {form texts : List String}
    (hlength : form.length ≤ texts.length) {name : String} :
    ((formParams patternOf form texts).get? name).isSome ↔
      name ≠ "" ∧ name ∈ Template.namesOf form := by
  rw [formParams, Dict.isSome_get?_ofList, List.mem_map, Template.mem_namesOf]
  constructor
  · rintro ⟨pair, hpair, rfl⟩
    obtain ⟨hname, written, hzip, hparse⟩ := Segment.mem_bindingsAll_ofText.mp hpair
    exact ⟨hname, written, (List.of_mem_zip hzip).1, hparse⟩
  · rintro ⟨hname, written, hwritten, hparse⟩
    rw [← List.map_fst_zip hlength] at hwritten
    obtain ⟨⟨_, text⟩, hzip, rfl⟩ := List.mem_map.mp hwritten
    exact ⟨(name, text), Segment.mem_bindingsAll_ofText.mpr ⟨hname, _, hzip, hparse⟩, rfl⟩

/-- What values make of a written segment, where that answers it. -/
inductive FillsIn (patternOf : String → Option Pattern) (values : List (String × String)) :
    String → String → Prop
  /-- A literal is left as it is. -/
  | literal {text : String} (hparse : Placeholder.parse? text = none)
    (hanswers : Answers patternOf text text) : FillsIn patternOf values text text
  /-- A placeholder becomes its value. -/
  | value {text raw : String} {p : Placeholder} (hparse : Placeholder.parse? text = some p)
    (hvalue : latest? p.name values = some raw)
    (hanswers : Answers patternOf text raw) : FillsIn patternOf values text raw
  /-- A placeholder without a name can go without a value. -/
  | unset {text : String} (hparse : Placeholder.parse? text = some ⟨"", false⟩)
    (hvalue : latest? "" values = none) : FillsIn patternOf values text "null"

namespace FillsIn

variable {patternOf : String → Option Pattern} {values : List (String × String)}
  {text raw : String}

private theorem fill_eq (h : FillsIn patternOf values text raw) :
    Template.fill values text = some raw := by
  cases h with
  | literal hparse => rw [Template.fill, hparse]
  | value hparse hvalue =>
    rw [Template.fill, hparse]
    simp only [hvalue]
  | unset hparse hvalue =>
    rw [Template.fill, hparse]
    simp [hvalue]

private theorem answers (h : FillsIn patternOf values text raw) : Answers patternOf text raw := by
  cases h with
  | literal _ hanswers => exact hanswers
  | value _ _ hanswers => exact hanswers
  | unset hparse =>
    refine ⟨by decide, ?_⟩
    rw [hparse]
    exact ⟨by decide, fun hname => absurd rfl hname⟩

/-- What a placeholder with a name becomes is its value. -/
theorem latest?_eq (h : FillsIn patternOf values text raw) {p : Placeholder}
    (hp : Placeholder.parse? text = some p) (hname : p.name ≠ "") :
    latest? p.name values = some raw := by
  cases h with
  | literal hparse =>
    rw [hp] at hparse
    contradiction
  | value hparse hvalue =>
    rw [hp] at hparse
    rwa [Option.some.inj hparse]
  | unset hparse =>
    rw [hp] at hparse
    exact absurd (congrArg Placeholder.name (Option.some.inj hparse)) hname

end FillsIn

/-- Whether a placeholder is given a value that answers it.  Only one without a name that has to be
there can go without. -/
def Given (patternOf : String → Option Pattern) (values : List (String × String))
    (written : String) : Prop :=
  ∀ p, Placeholder.parse? written = some p →
    (p = ⟨"", false⟩ ∧ latest? "" values = none) ∨
    ∃ value, latest? p.name values = some value ∧ Answers patternOf written value

/-- A literal needs no value. -/
theorem Given.of_literal {patternOf : String → Option Pattern} {values : List (String × String)}
    {written : String} (hparse : Placeholder.parse? written = none) :
    Given patternOf values written := by
  intro p hp
  rw [hparse] at hp
  contradiction

/-- A placeholder without a name that has to be there can go without a value. -/
theorem Given.of_unset {patternOf : String → Option Pattern} {values : List (String × String)}
    {written : String} (hparse : Placeholder.parse? written = some ⟨"", false⟩)
    (hunset : latest? "" values = none) : Given patternOf values written := by
  intro p hp
  rw [hparse] at hp
  exact Or.inl ⟨(Option.some.inj hp).symm, hunset⟩

/-- A placeholder is given a value that is part of a path and that its pattern accepts. -/
theorem Given.of_value {patternOf : String → Option Pattern} {values : List (String × String)}
    {written : String} {p : Placeholder} (hparse : Placeholder.parse? written = some p)
    (value : String) (hvalue : latest? p.name values = some value) (hslash : '/' ∉ value.toList)
    (hne : value ≠ "")
    (haccepts : p.name ≠ "" → ∀ pattern ∈ patternOf p.name, pattern.accepts (decode value) = true) :
    Given patternOf values written := by
  intro q hq
  rw [hparse] at hq
  obtain rfl := Option.some.inj hq
  refine Or.inr ⟨value, hvalue, hslash, ?_⟩
  rw [hparse]
  exact ⟨hne, haccepts⟩

/-- A literal that decodes to itself and a placeholder that is given a value are filled. -/
theorem Given.exists_fillsIn {patternOf : String → Option Pattern}
    {values : List (String × String)} {written : String} (h : Given patternOf values written)
    (hpart : Path.IsPart written)
    (hliteral : Placeholder.parse? written = none → decode written = written) :
    ∃ raw, FillsIn patternOf values written raw := by
  cases hparse : Placeholder.parse? written with
  | none =>
    refine ⟨written, .literal hparse ⟨hpart.2, ?_⟩⟩
    rw [hparse]
    exact hliteral hparse
  | some p =>
    rcases h p hparse with ⟨rfl, hunset⟩ | ⟨value, hvalue, hanswers⟩
    · exact ⟨"null", .unset hparse hunset⟩
    · exact ⟨value, .value hparse hvalue hanswers⟩

section Address

variable {patternOf : String → Option Pattern} {values : List (String × String)}
  {written form raws : List String}

private theorem forall₂_filterMap_fill
    (h : ∀ text ∈ form, ∃ raw, FillsIn patternOf values text raw) :
    List.Forall₂ (FillsIn patternOf values) form (form.filterMap (Template.fill values)) := by
  induction form with
  | nil => exact .nil
  | cons first rest ih =>
    rw [List.forall_mem_cons] at h
    obtain ⟨⟨raw, hfirst⟩, hrest⟩ := h
    rw [List.filterMap_cons_some hfirst.fill_eq]
    exact .cons hfirst (ih hrest)

/-- A filled form binds its names to what their values decode to, and nothing else. -/
theorem get?_formParams_of_fillsIn (h : List.Forall₂ (FillsIn patternOf values) form raws)
    (name : String) :
    (formParams patternOf form (raws.map decode)).get? name =
      if name ≠ "" ∧ name ∈ Template.namesOf form
      then (latest? name values).map decode else none := by
  have hlength : form.length ≤ (raws.map decode).length := by
    rw [List.length_map, h.length_eq]
  cases hget : (formParams patternOf form (raws.map decode)).get? name with
  | none =>
    rw [if_neg]
    intro hbound
    have hsome := (isSome_get?_formParams patternOf hlength).mpr hbound
    rw [hget] at hsome
    contradiction
  | some text =>
    rw [if_pos ((isSome_get?_formParams patternOf hlength).mp (Option.isSome_of_eq_some hget))]
    obtain ⟨hname, written, hzip, p, hparse, rfl⟩ := exists_of_get?_formParams hget
    rw [List.zip_map_right, List.mem_map] at hzip
    obtain ⟨⟨_, raw⟩, hzip, heq⟩ := hzip
    obtain ⟨rfl, rfl⟩ := Prod.mk.inj heq
    have hfills := (List.forall₂_iff_zip.mp h).2 hzip
    rw [hfills.latest?_eq hparse hname]
    rfl

/-- A route answers the address that values make of its path, if they make of a form of it what
answers that and nothing of the rest. -/
theorem Tree.find?_path {α : Type u} (hparts : ∀ text ∈ written, Path.IsPart text)
    (hform : IsForm patternOf written form)
    (hfills : ∀ text ∈ form, ∃ raw, FillsIn patternOf values text raw)
    (hrest : written.filterMap (Template.fill values) = form.filterMap (Template.fill values))
    (value : α) :
    ∃ params, (Tree.ofHistory (.ofRoute (written.map (Segment.ofText patternOf)) value)).find?
        (Template.path (Path.render written) values) = some (value, params) ∧
      ∀ name, params.get? name =
        if name ≠ "" ∧ name ∈ Template.namesOf form
        then (latest? name values).map decode else none := by
  have hall := forall₂_filterMap_fill hfills
  have hanswers := hall.imp fun _ _ => FillsIn.answers
  have hfilled : ∀ raw ∈ form.filterMap (Template.fill values), Path.IsPart raw :=
    forall_isPart_of_answers hanswers fun text htext => hparts text (hform.subset htext)
  have hpath : Template.path (Path.render written) values =
      Path.render (form.filterMap (Template.fill values)) := by
    rw [← hrest]
    exact Template.path_render hparts values (hrest ▸ hfilled)
  refine ⟨formParams patternOf form ((form.filterMap (Template.fill values)).map decode), ?_,
    get?_formParams_of_fillsIn hall⟩
  rw [hpath, Tree.find?_ofRoute_iff, Path.segments_render hfilled]
  exact ⟨rfl, form, hform, Segment.forall₂_admits_ofText hanswers, rfl⟩

end Address

end Signpost.Route
