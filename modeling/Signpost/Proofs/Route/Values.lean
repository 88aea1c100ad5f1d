import Signpost.Proofs.Dict
import Signpost.Proofs.Path
import Signpost.Proofs.Route.Written

/-!
# Values in request paths

A request path is cut into segments before any of them is decoded, so that whatever a value holds,
its encoding stays one segment.  Main statement: a route of variables binds to each of them the
value whose encoding stands in its place, in whichever way the values are encoded and however many
slashes stand around them.
-/

namespace Signpost

/-- Segments that encode texts are found again between slashes. -/
theorem Path.isPart_of_encodes {raw text : String} (h : Text.Percent.Encodes raw text)
    (hne : text ≠ "") : IsPart raw := by
  refine ⟨?_, h.slash_not_mem⟩
  rintro rfl
  exact hne (h.decode_eq.symm.trans (Text.Percent.decode_eq_empty_iff.mpr rfl))

namespace Route

universe u

variable {α : Type u}

/-- The segments of a route that has variables of the given names and nothing else. -/
def variablesOf (names : List String) : List Segment := names.map (.variable · false)

/-- Variables bind their names to the texts that stand in their places. -/
theorem bindingsAll_variablesOf {names : List String} (h : "" ∉ names) (texts : List String) :
    Segment.bindingsAll (variablesOf names) texts = names.zip texts := by
  induction names generalizing texts with
  | nil => rfl
  | cons name rest ih =>
    rw [List.mem_cons, not_or] at h
    cases texts with
    | nil => rfl
    | cons text texts =>
      have hcons : Segment.bindingsAll (variablesOf (name :: rest)) (text :: texts) =
          (Segment.variable name false).bindings text ++
            Segment.bindingsAll (variablesOf rest) texts := rfl
      rw [hcons, ih h.2, Segment.bindings, if_neg (Ne.symm h.1), List.zip_cons_cons,
        List.singleton_append]

/-- Variables admit as many texts as there are of them, if none is empty. -/
theorem admits_variablesOf {names texts : List String} (hlength : names.length = texts.length)
    (htexts : "" ∉ texts) : List.Forall₂ Segment.Admits (variablesOf names) texts := by
  rw [variablesOf, List.forall₂_map_left_iff, List.forall₂_iff_zip]
  refine ⟨hlength, fun {name text} hmem => ?_⟩
  rintro rfl
  exact htexts (List.of_mem_zip hmem).2

/-- A tree with one route answers the texts that its segments admit. -/
theorem Tree.find?_insert_empty {segments : List Segment} {path : String}
    (h : List.Forall₂ Segment.Admits segments ((Path.segments path).map Text.Percent.decode))
    (value : α) :
    (Tree.insert {} segments value).find? path =
      some (value, .ofList (Segment.bindingsAll segments
        ((Path.segments path).map Text.Percent.decode))) := by
  have htree : Tree.insert {} segments value =
      Tree.ofHistory (History.behind segments [([], value)]) := by
    simp [History.behind, Tree.ofHistory]
  have hleft : History.leftBehind segments [(([] : List Segment), value)] = [([], value)] := by
    unfold History.leftBehind
    split <;> rfl
  have hresolve := History.resolve?_behind h (List.cons_ne_nil (([] : List Segment), value) []) []
  rw [List.append_nil, hleft] at hresolve
  rw [htree, Tree.find?_ofHistory, hresolve]
  simp [History.resolve?, History.value?]

open Text.Percent in
/-- A route of variables with different names answers the path of any encodings of as many values
that are not empty, those that `encode` makes among them: every encoding is one segment, decodes to
its value, and binds it to the name in its place, and nothing else is bound. -/
theorem Tree.find?_encoded {names values : List String} (hnames : names.Nodup)
    (hnamed : "" ∉ names) (hlength : names.length = values.length) (hvalues : "" ∉ values)
    (answer : α) (leading trailing : Nat) :
    List.Forall₂ Encodes (values.map encode) values ∧
      ∀ raws, List.Forall₂ Encodes raws values →
        Path.segments (Path.surround leading raws trailing) = raws ∧
          raws.map decode = values ∧
          ∃ params, (Tree.insert {} (variablesOf names) answer).find?
              (Path.surround leading raws trailing) = some (answer, params) ∧
            ∀ name value, params.get? name = some value ↔ (name, value) ∈ names.zip values := by
  constructor
  · rw [List.forall₂_map_left_iff, List.forall₂_same]
    exact fun value _ => encodes_encode value
  intro raws hraws
  have hparts : ∀ raw ∈ raws, Path.IsPart raw := by
    intro raw hmem
    obtain ⟨value, hvalue, hencodes⟩ := exists_of_mem_of_forall₂ hraws hmem
    exact Path.isPart_of_encodes hencodes fun hempty => hvalues (hempty ▸ hvalue)
  have hsegments := Path.segments_surround hparts leading trailing
  have hdecoded : raws.map decode = values := by
    rw [← List.forall₂_eq_eq_eq, List.forall₂_map_left_iff]
    exact hraws.imp fun _ _ => Encodes.decode_eq
  have hadmits : List.Forall₂ Segment.Admits (variablesOf names)
      ((Path.segments (Path.surround leading raws trailing)).map decode) := by
    rw [hsegments, hdecoded]
    exact admits_variablesOf hlength hvalues
  have hfound := Tree.find?_insert_empty hadmits answer
  rw [hsegments, hdecoded, bindingsAll_variablesOf hnamed] at hfound
  have hkeys : ((names.zip values).map Prod.fst).Nodup := by
    rwa [List.map_fst_zip hlength.le]
  exact ⟨hsegments, hdecoded, _, hfound, fun _ _ => Dict.get?_ofList_eq_some_iff hkeys⟩

open Text.Percent in
/-- A slash, an escape and a brace in values, between more slashes than the path needs. -/
theorem Tree.find?_encoded_files :
    "//a%2Fb/%252F%3F%2B%7B%C3%A9/" =
        Path.surround 2 (["a/b", "%2F?+\x7bé"].map encode) 1 ∧
      ["dir", "file"].Nodup ∧ "" ∉ ["dir", "file"] ∧ "" ∉ ["a/b", "%2F?+\x7bé"] ∧
      ∃ params, (Tree.insert {} (variablesOf ["dir", "file"]) 7).find?
          "//a%2Fb/%252F%3F%2B%7B%C3%A9/" = some (7, params) ∧
        params.get? "dir" = some "a/b" ∧ params.get? "file" = some "%2F?+\x7bé" := by
  have hpath : "//a%2Fb/%252F%3F%2B%7B%C3%A9/" =
      Path.surround 2 (["a/b", "%2F?+\x7bé"].map encode) 1 := by decide +kernel
  have hnames : ["dir", "file"].Nodup := by decide
  have hnamed : "" ∉ ["dir", "file"] := by decide
  have hvalues : "" ∉ ["a/b", "%2F?+\x7bé"] := by decide
  have hlength : ["dir", "file"].length = ["a/b", "%2F?+\x7bé"].length := rfl
  refine ⟨hpath, hnames, hnamed, hvalues, ?_⟩
  obtain ⟨hencodes, hcarried⟩ := Tree.find?_encoded hnames hnamed hlength hvalues 7 2 1
  obtain ⟨-, -, params, hfound, hbound⟩ := hcarried _ hencodes
  rw [hpath]
  exact ⟨params, hfound, (hbound _ _).mpr (by decide), (hbound _ _).mpr (by decide)⟩

end Route

end Signpost
