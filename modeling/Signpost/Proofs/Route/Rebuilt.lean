import Signpost.Proofs.Percent
import Signpost.Proofs.Route.Filled

/-!
# Addresses rebuilt from bound parameters

A request that a route answered has bound texts to names, and the path of the route can be filled
with them again.  The values go into the address as they are, but the segments of a request are
decoded.  Main statement: the route answers the rebuilt address and binds the same exactly if every
literal and every bound text is one segment that decodes to itself, and no anonymous placeholder
that may be missing stands behind a pattern.
-/

namespace Signpost.Route

universe u

open Text.Percent

/-- Whether a text is read back from an address that it is put into. -/
def IsPlain (text : String) : Prop := '/' ∉ text.toList ∧ decode text = text

/-- A text that is decoded from a piece of another is plain, or the other is longer and not plain
either. -/
theorem isPlain_decode_of_mem_pieces {piece text : String} (h : piece ∈ Text.pieces '/' text)
    (hbad : ¬IsPlain (decode piece)) :
    ¬IsPlain text ∧ (decode piece).utf8ByteSize < text.utf8ByteSize := by
  have hslash := Text.not_mem_of_mem_pieces h
  have hshorter : (decode piece).utf8ByteSize < piece.utf8ByteSize := by
    rcases decode_eq_or_utf8ByteSize_lt piece with heq | hlt
    · have hplain : IsPlain (decode piece) := by
        rw [heq]
        exact ⟨hslash, heq⟩
      exact absurd hplain hbad
    · exact hlt
  refine ⟨fun hplain => ?_, hshorter.trans_le (Text.utf8ByteSize_le_of_mem_pieces h)⟩
  have heq : piece = text := Text.eq_of_mem_pieces hplain.1 h
  rw [heq, hplain.2] at hshorter
  exact Nat.lt_irrefl _ hshorter

/-- A request took a form of a declared path, and the values are what it bound. -/
structure TookForm (patternOf : String → Option Pattern) (written form texts : List String)
    (values : List (String × String)) : Prop where
  /-- The path is canonical. -/
  isPart : ∀ text ∈ written, Path.IsPart text
  /-- No segment but the last may be missing. -/
  required : ∀ {initial last}, written = initial ++ [last] →
    ∀ text ∈ initial, ∀ p, Placeholder.parse? text = some p → p.isOptional = false
  /-- The form that was taken. -/
  isForm : IsForm patternOf written form
  /-- The texts of the request stand for the segments of the form. -/
  admits : List.Forall₂ Segment.Admits (form.map (Segment.ofText patternOf)) texts
  /-- The values are those that the texts are bound to. -/
  values : ∀ name, latest? name values = (formParams patternOf form texts).get? name

namespace TookForm

variable {patternOf : String → Option Pattern} {written form texts : List String}
  {values : List (String × String)}

/-- A request that is answered took a form. -/
theorem exists_of_find? {α : Type u} {value found : α} {path : String}
    {params : Dict String String} (hpart : ∀ text ∈ written, Path.IsPart text)
    {segments : List Segment} (hclassify : Segment.classifyAll patternOf written = .ok segments)
    (hfind : (Tree.ofHistory (.ofRoute (written.map (Segment.ofText patternOf)) value)).find? path =
      some (found, params))
    (hvalues : ∀ name, latest? name values = params.get? name) :
    found = value ∧ ∃ form texts, TookForm patternOf written form texts values := by
  obtain ⟨hfound, form, hform, hadmits, rfl⟩ := Tree.find?_ofRoute_iff.mp hfind
  have hrequired : ∀ {initial last}, written = initial ++ [last] →
      ∀ text ∈ initial, ∀ p, Placeholder.parse? text = some p → p.isOptional = false := by
    rintro initial last rfl
    exact Segment.isOptional_eq_false_of_classifyAll hclassify
  exact ⟨hfound, form, _, hpart, hrequired, hform, hadmits, hvalues⟩

/-- A value has been admitted by a placeholder of its name. -/
theorem exists_of_latest? (h : TookForm patternOf written form texts values)
    {name value : String} (hvalue : latest? name values = some value) :
    name ≠ "" ∧ ∃ text ∈ form, ∃ p, Placeholder.parse? text = some p ∧ p.name = name ∧
      (Segment.ofText patternOf text).Admits value := by
  rw [h.values] at hvalue
  obtain ⟨hname, text, hzip, p, hparse, hp⟩ := exists_of_get?_formParams hvalue
  have hadmits := h.admits
  rw [List.forall₂_map_left_iff, List.forall₂_iff_zip] at hadmits
  exact ⟨hname, text, (List.of_mem_zip hzip).1, p, hparse, hp, hadmits.2 hzip⟩

/-- No value is without a placeholder. -/
theorem mem_namesOf (h : TookForm patternOf written form texts values) {name value : String}
    (hvalue : latest? name values = some value) : name ∈ Template.namesOf written := by
  obtain ⟨-, text, htext, p, hparse, hname, -⟩ := h.exists_of_latest? hvalue
  exact Template.mem_namesOf.mpr ⟨text, h.isForm.subset htext, p, hparse, hname⟩

private theorem latest?_empty (h : TookForm patternOf written form texts values) :
    latest? "" values = none := by
  rw [Option.eq_none_iff_forall_ne_some]
  intro value hvalue
  exact (h.exists_of_latest? hvalue).1 rfl

/-- The names of the form have values. -/
theorem latest?_ne_none (h : TookForm patternOf written form texts values) {text : String}
    (htext : text ∈ form) {p : Placeholder} (hparse : Placeholder.parse? text = some p)
    (hname : p.name ≠ "") : latest? p.name values ≠ none := by
  have hlength : form.length ≤ texts.length := by
    rw [← h.admits.length_eq, List.length_map]
  rw [h.values, ← Option.isSome_iff_ne_none, isSome_get?_formParams patternOf hlength]
  exact ⟨hname, Template.mem_namesOf.mpr ⟨text, htext, p, hparse, rfl⟩⟩

/-- A plain value answers every placeholder of its name. -/
theorem answers (h : TookForm patternOf written form texts values) {text value : String}
    {p : Placeholder} (hparse : Placeholder.parse? text = some p)
    (hvalue : latest? p.name values = some value) (hplain : IsPlain value) :
    Answers patternOf text value := by
  obtain ⟨-, text', -, p', hparse', hname, hadmits⟩ := h.exists_of_latest? hvalue
  rw [Segment.admits_ofText_of_placeholder hparse', hname] at hadmits
  rw [Segment.answers_iff, hplain.2, Segment.admits_ofText_of_placeholder hparse]
  exact ⟨hplain.1, hadmits⟩

/-- If literals and values are plain, all segments are filled but placeholders without a value that
may be missing. -/
theorem exists_fillsIn_or (h : TookForm patternOf written form texts values)
    (hliterals : ∀ text ∈ written, Placeholder.parse? text = none → decode text = text)
    (hvalues : ∀ name value, latest? name values = some value → IsPlain value)
    {text : String} (htext : text ∈ written) :
    (∃ raw, FillsIn patternOf values text raw) ∨
      ∃ p, Placeholder.parse? text = some p ∧ p.isOptional = true ∧
        latest? p.name values = none := by
  cases hparse : Placeholder.parse? text with
  | none =>
    have hanswers : Answers patternOf text text := by
      rw [Segment.answers_iff, Segment.admits_ofText_of_literal hparse]
      exact ⟨(h.isPart text htext).2, hliterals text htext hparse⟩
    exact Or.inl ⟨text, .literal hparse hanswers⟩
  | some p =>
    cases hvalue : latest? p.name values with
    | some value =>
      have hanswers := h.answers hparse hvalue (hvalues p.name value hvalue)
      exact Or.inl ⟨value, .value hparse hvalue hanswers⟩
    | none =>
      cases hoptional : p.isOptional with
      | true => exact Or.inr ⟨p, rfl, hoptional, hvalue⟩
      | false =>
        have hrequired : ∀ q, Placeholder.parse? text = some q → q.isOptional = false := by
          intro q hq
          rw [hparse] at hq
          rwa [← Option.some.inj hq]
        have hform := h.isForm.mem_of_not_isOptional htext hrequired
        -- A named one that has to be there was bound by the request.
        have hname : p.name = "" := by
          by_contra hname
          exact h.latest?_ne_none hform hparse hname hvalue
        have hp : p = ⟨"", false⟩ := by
          rw [← hname, ← hoptional]
        rw [hname] at hvalue
        exact Or.inl ⟨"null", .unset (hp ▸ hparse) hvalue⟩

/-- If literals and values are plain, values fill the whole path or, where its last segment has to
be left out, the form without it. -/
theorem exists_filled_form (h : TookForm patternOf written form texts values)
    (hliterals : ∀ text ∈ written, Placeholder.parse? text = none → decode text = text)
    (hvalues : ∀ name value, latest? name values = some value → IsPlain value)
    (hreach : ∀ initial last, written = initial ++ [last] →
      Placeholder.parse? last = some ⟨"", true⟩ → ∀ text ∈ initial, ¬IsConstrained patternOf text) :
    ∃ filled, IsForm patternOf written filled ∧
      (∀ text ∈ filled, ∃ raw, FillsIn patternOf values text raw) ∧
      (∀ text ∈ written, text ∉ filled → Template.fill values text = none) ∧
      written.filterMap (Template.fill values) = filled.filterMap (Template.fill values) := by
  by_cases hall : ∀ text ∈ written, ∃ raw, FillsIn patternOf values text raw
  · exact ⟨written, .whole, hall, fun text htext hnot => absurd htext hnot, rfl⟩
  simp only [not_forall] at hall
  obtain ⟨missing, hmem, hmissing⟩ := hall
  obtain ⟨p, hparse, hoptional, hunset⟩ :=
    (h.exists_fillsIn_or hliterals hvalues hmem).resolve_left hmissing
  have hnone := Template.fill_of_missing hparse hoptional hunset
  -- Only the last segment may be missing.
  obtain rfl | ⟨initial, last, rfl⟩ := List.eq_nil_or_concat' written
  · exact absurd hmem List.not_mem_nil
  have hlast : missing = last := by
    rcases List.mem_append.mp hmem with hinitial | hlast
    · have hrequired := h.required rfl missing hinitial p hparse
      rw [hoptional] at hrequired
      contradiction
    · exact List.mem_singleton.mp hlast
  subst hlast
  have hplain : ∀ text ∈ initial, ¬IsConstrained patternOf text := by
    by_cases hname : p.name = ""
    · have hp : p = ⟨"", true⟩ := by
        rw [← hname, ← hoptional]
      exact hreach initial missing rfl (hp ▸ hparse)
    · cases h.isForm with
      | whole => exact absurd hunset (h.latest?_ne_none hmem hparse hname)
      | short hwritten _ _ hplain =>
        obtain ⟨rfl, -⟩ := List.append_inj' hwritten rfl
        exact hplain
  refine ⟨initial, .short rfl hparse hoptional hplain, fun text htext => ?_,
    fun text htext hnot => ?_, ?_⟩
  · refine (h.exists_fillsIn_or hliterals hvalues
      (List.mem_append_left _ htext)).resolve_right ?_
    rintro ⟨q, hq, hqoptional, -⟩
    have hrequired := h.required rfl text htext q hq
    rw [hqoptional] at hrequired
    contradiction
  · rcases List.mem_append.mp htext with htext | htext
    · exact absurd htext hnot
    · rwa [List.mem_singleton.mp htext]
  · rw [List.filterMap_append, List.filterMap_cons_none hnone, List.filterMap_nil, List.append_nil]

/-- Plain literals and values lead back to the route, and to the same values. -/
theorem find?_path_of_isPlain {α : Type u} (h : TookForm patternOf written form texts values)
    (hliterals : ∀ text ∈ written, Placeholder.parse? text = none → decode text = text)
    (hvalues : ∀ name value, latest? name values = some value → IsPlain value)
    (hreach : ∀ initial last, written = initial ++ [last] →
      Placeholder.parse? last = some ⟨"", true⟩ → ∀ text ∈ initial, ¬IsConstrained patternOf text)
    (value : α) :
    ∃ params, (Tree.ofHistory (.ofRoute (written.map (Segment.ofText patternOf)) value)).find?
        (Template.path (Path.render written) values) = some (value, params) ∧
      ∀ name, params.get? name = latest? name values := by
  obtain ⟨filled, hfilled, hfills, hout, hrest⟩ := h.exists_filled_form hliterals hvalues hreach
  obtain ⟨params, hfind, hparams⟩ := Tree.find?_path h.isPart hfilled hfills hrest value
  refine ⟨params, hfind, fun name => ?_⟩
  rw [hparams]
  cases hvalue : latest? name values with
  | none =>
    rw [Option.map_none]
    split <;> rfl
  | some text =>
    obtain ⟨hname, source, hsource, p, hparse, rfl, -⟩ := h.exists_of_latest? hvalue
    have hmem : source ∈ filled := by
      by_contra hnot
      have hnone := hout source (h.isForm.subset hsource) hnot
      rw [Template.fill, hparse] at hnone
      simp [hvalue] at hnone
    rw [if_pos ⟨hname, Template.mem_namesOf.mpr ⟨source, hmem, p, hparse, rfl⟩⟩, Option.map_some,
      (hvalues p.name text hvalue).2]

section Converse

variable {α : Type u} {value found : α} {params : Dict String String}

/-- A route that answers the rebuilt address, and binds the same, has read back all that went into
the address. -/
theorem isPlain_of_find?_path (h : TookForm patternOf written form texts values)
    (hfind : (Tree.ofHistory (.ofRoute (written.map (Segment.ofText patternOf)) value)).find?
      (Template.path (Path.render written) values) = some (found, params))
    (hparams : ∀ name, params.get? name = latest? name values) :
    ∀ text ∈ written.filterMap (Template.fill values), IsPlain text := by
  obtain ⟨-, taken, htaken, hadmits, rfl⟩ := Tree.find?_ofRoute_iff.mp hfind
  have hempty : IsPlain (decode "") := ⟨by decide, rfl⟩
  have hnull : IsPlain "null" := ⟨by decide, by decide +kernel⟩
  -- What is not plain was bound or is a literal, so that the address was read as it somewhere.
  have hdecoded : ∀ text ∈ written.filterMap (Template.fill values), ¬IsPlain text →
      text ∈ (Path.segments (Template.path (Path.render written) values)).map decode := by
    intro text htext hbad
    obtain ⟨source, hsource, hfill⟩ := List.mem_filterMap.mp htext
    rcases Template.fill_cases hfill with ⟨hparse, rfl⟩ | ⟨p, hparse, hvalue⟩ | rfl
    · have hmem := htaken.mem_of_not_isOptional hsource (by simp [hparse])
      rw [List.forall₂_map_left_iff] at hadmits
      obtain ⟨read, hread, hliteral⟩ := exists_of_mem_of_forall₂ hadmits hmem
      rwa [← (Segment.admits_ofText_of_literal hparse).mp hliteral]
    · rw [← hparams] at hvalue
      obtain ⟨-, _, hzip, -⟩ := exists_of_get?_formParams hvalue
      exact (List.of_mem_zip hzip).2
    · exact absurd hnull hbad
  -- It was decoded from a longer segment, which came from a text that is not plain either.
  have hplain : ∀ text ∈ written.filterMap (Template.fill values), ¬¬IsPlain text := by
    refine not_of_exists_larger String.utf8ByteSize fun text htext hbad => ?_
    obtain ⟨segment, hsegment, rfl⟩ := List.mem_map.mp (hdecoded text htext hbad)
    rcases Template.mem_pieces_of_mem_segments h.isPart values hsegment with
      rfl | ⟨longer, hlonger, hpiece⟩
    · exact absurd hempty hbad
    · exact ⟨longer, hlonger, isPlain_decode_of_mem_pieces hpiece hbad⟩
  exact fun text htext => not_not.mp (hplain text htext)

/-- Nothing that goes into an address is empty. -/
theorem ne_empty_of_mem_filled (h : TookForm patternOf written form texts values) :
    ∀ text ∈ written.filterMap (Template.fill values), text ≠ "" := by
  intro text htext
  obtain ⟨source, hsource, hfill⟩ := List.mem_filterMap.mp htext
  rcases Template.fill_cases hfill with ⟨-, rfl⟩ | ⟨p, -, hvalue⟩ | rfl
  · exact (h.isPart text hsource).1
  · obtain ⟨-, _, -, q, hparse, -, hadmits⟩ := h.exists_of_latest? hvalue
    exact ((Segment.admits_ofText_of_placeholder hparse).mp hadmits).1
  · decide

/-- The address has no segment for an anonymous placeholder that may be missing, so that only the
short form can answer it. -/
theorem not_isConstrained_of_find?_path (h : TookForm patternOf written form texts values)
    (hfind : (Tree.ofHistory (.ofRoute (written.map (Segment.ofText patternOf)) value)).find?
      (Template.path (Path.render written) values) = some (found, params))
    (hplain : ∀ text ∈ written.filterMap (Template.fill values), IsPlain text)
    {initial : List String} {last : String} (hwritten : written = initial ++ [last])
    (hlast : Placeholder.parse? last = some ⟨"", true⟩) :
    ∀ text ∈ initial, ¬IsConstrained patternOf text := by
  obtain ⟨-, taken, htaken, hadmits, -⟩ := Tree.find?_ofRoute_iff.mp hfind
  cases htaken with
  | short hwritten' _ _ hplain =>
    obtain ⟨rfl, -⟩ := List.append_inj' (hwritten.symm.trans hwritten') rfl
    exact hplain
  | whole =>
    -- The whole form asks for one segment more than the address has.
    have hparts : ∀ text ∈ written.filterMap (Template.fill values), Path.IsPart text :=
      fun text htext => ⟨h.ne_empty_of_mem_filled text htext, (hplain text htext).1⟩
    have hmissing := Template.fill_of_missing hlast rfl h.latest?_empty
    have hlength := hadmits.length_eq
    rw [Template.path_render h.isPart values hparts, Path.segments_render hparts, hwritten,
      List.filterMap_append, List.filterMap_cons_none hmissing, List.filterMap_nil,
      List.append_nil, List.length_map, List.length_map, List.length_append,
      List.length_singleton] at hlength
    have hle : (initial.filterMap (Template.fill values)).length ≤ initial.length :=
      List.length_filterMap_le _ _
    omega

end Converse

/-- The route answers the rebuilt address, and binds the same, exactly if literals and values are
plain and no anonymous placeholder that may be missing is out of reach. -/
theorem find?_path_iff {α : Type u} (h : TookForm patternOf written form texts values)
    (value : α) :
    (∃ params, (Tree.ofHistory (.ofRoute (written.map (Segment.ofText patternOf)) value)).find?
        (Template.path (Path.render written) values) = some (value, params) ∧
      ∀ name, params.get? name = latest? name values) ↔
    (∀ text ∈ written, Placeholder.parse? text = none → decode text = text) ∧
      (∀ name text, latest? name values = some text → IsPlain text) ∧
      (∀ initial last, written = initial ++ [last] → Placeholder.parse? last = some ⟨"", true⟩ →
        ∀ text ∈ initial, ¬IsConstrained patternOf text) := by
  constructor
  · rintro ⟨params, hfind, hparams⟩
    have hplain := h.isPlain_of_find?_path hfind hparams
    refine ⟨fun text htext hparse => ?_, fun name text hvalue => ?_,
      fun _ _ => h.not_isConstrained_of_find?_path hfind hplain⟩
    · have hfill : Template.fill values text = some text := by
        rw [Template.fill, hparse]
      exact (hplain text (List.mem_filterMap.mpr ⟨text, htext, hfill⟩)).2
    · obtain ⟨-, source, hsource, p, hparse, rfl, -⟩ := h.exists_of_latest? hvalue
      have hfill : Template.fill values source = some text := by
        rw [Template.fill, hparse]
        dsimp only
        rw [hvalue]
      exact hplain text (List.mem_filterMap.mpr ⟨source, h.isForm.subset hsource, hfill⟩)
  · rintro ⟨hliterals, hvalues, hreach⟩
    exact h.find?_path_of_isPlain hliterals hvalues hreach value

end TookForm

end Signpost.Route
