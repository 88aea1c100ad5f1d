import Signpost.Proofs.Route.Template
import Signpost.Request

/-!
# The targets of requests

The target of a request is its path and, behind a question mark, its query.  An address is a target
whose query holds the values that no placeholder asks for.  Main statement: a request for an address
has the path that the other values make, and its query has exactly those values, whatever characters
they are made of.
-/

namespace Signpost

open Text.Percent

/-- The target of a request, which is its path and, behind a question mark, its query. -/
def Http.target (path : String) : Option String → String
  | some query => path ++ "?" ++ query
  | none => path

private theorem Http.cutAt_target {path : String} (h : '?' ∉ path.toList) (query : Option String) :
    Text.cutAt '?' (target path query) = (path, query) := by
  cases query with
  | none => exact Text.cutAt_of_not_mem h
  | some query =>
    have htarget : target path (some query) =
        String.ofList (path.toList ++ '?' :: query.toList) := by
      rw [← String.toList_inj]
      simp [target]
    rw [htarget, Text.cutAt_append_separator h, String.ofList_toList]

namespace Http.Query

/-- What was encoded is read back from a query, since no plus is left in it. -/
theorem decode_encode (text : String) : decode (encode text) = text := by
  have hplus : (encode text).toList.map (fun c => if c = '+' then ' ' else c) =
      (encode text).toList := by
    have hchar : ∀ c ∈ (encode text).toList, (if c = '+' then ' ' else c) = id c := fun c hc =>
      if_neg fun heq => not_mem_encode (by decide) text (heq ▸ hc)
    rw [List.map_congr_left hchar, List.map_id]
  rw [decode, hplus, String.ofList_toList, Text.Percent.decode_encode]

/-- How a pair is written in a query. -/
def writePair (pair : String × String) : String := encode pair.1 ++ "=" ++ encode pair.2

private theorem toList_writePair (pair : String × String) :
    (writePair pair).toList = (encode pair.1).toList ++ '=' :: (encode pair.2).toList := by
  simp [writePair]

/-- A written pair is one piece of a query. -/
theorem ampersand_not_mem_writePair (pair : String × String) : '&' ∉ (writePair pair).toList := by
  rw [toList_writePair, List.mem_append, List.mem_cons, not_or, not_or]
  exact ⟨not_mem_encode (by decide) _, by decide, not_mem_encode (by decide) _⟩

/-- A written pair is read back: the first equals sign is the one between key and value. -/
theorem decodePair_writePair (pair : String × String) : decodePair (writePair pair) = pair := by
  have htext : writePair pair =
      String.ofList ((encode pair.1).toList ++ '=' :: (encode pair.2).toList) := by
    rw [← String.toList_inj, toList_writePair, String.toList_ofList]
  rw [decodePair, htext, Text.cutAt_append_separator (not_mem_encode (by decide) _),
    String.ofList_toList]
  simp [decode_encode]

/-- A query is read back as the pairs it was written of. -/
theorem parse_query (pairs : List (String × String)) :
    parse (Route.Template.query pairs) = .ofList pairs := by
  cases pairs with
  | nil => rfl
  | cons first rest =>
    have hquery : Route.Template.query (first :: rest) =
        String.ofList (['&'].intercalate (((first :: rest).map writePair).map String.toList)) := by
      rw [← String.toList_inj, String.toList_ofList]
      exact String.toList_intercalate
    have hfree : ∀ piece ∈ (first :: rest).map writePair, '&' ∉ piece.toList := by
      rw [List.forall_mem_map]
      exact fun pair _ => ampersand_not_mem_writePair pair
    have hkept : ((first :: rest).map writePair).filter (· != "") =
        (first :: rest).map writePair := by
      rw [List.filter_eq_self, List.forall_mem_map]
      intro pair _
      rw [bne_iff_ne, ne_eq, ← String.toList_inj, toList_writePair]
      simp
    rw [parse, hquery, Text.pieces_intercalate '&' (by simp) hfree, hkept, List.map_map]
    have hpairs : (first :: rest).map (decodePair ∘ writePair) = (first :: rest).map id :=
      List.map_congr_left fun pair _ => decodePair_writePair pair
    rw [hpairs, List.map_id]

end Http.Query

namespace Route.Template

section Filtering

variable (wanted : String → Bool)

private theorem setParams_filter (params : List (String × Option String)) :
    setParams (params.filter fun param => wanted param.1) =
      (setParams params).filter fun param => wanted param.1 := by
  rw [setParams, setParams, List.filterMap_filter, List.filter_filterMap]
  refine List.filterMap_congr fun param _ => ?_
  obtain ⟨key, value⟩ := param
  cases value <;> simp [Option.filter]

end Filtering

/-- The values that placeholders of a template ask for. -/
def ownParams (template : Template) (params : List (String × Option String)) :
    List (String × Option String) :=
  params.filter fun param => param.1 ∈ template.placeholderNames

/-- Two lists of values that agree on the placeholders of a template make the same path of it. -/
theorem path_congr {template : Template} {values values' : List (String × String)}
    (h : ∀ name ∈ template.placeholderNames, latest? name values = latest? name values') :
    template.path values = template.path values' := by
  have hfill : (Text.pieces '/' template).filterMap (fill values) =
      (Text.pieces '/' template).filterMap (fill values') := by
    refine List.filterMap_congr fun segment hsegment => ?_
    cases hparse : Placeholder.parse? segment with
    | none => simp [fill, hparse]
    | some p =>
      have hname : p.name ∈ template.placeholderNames :=
        mem_namesOf.mpr ⟨segment, hsegment, p, hparse, rfl⟩
      simp [fill, hparse, h p.name hname]
  rw [path, path, hfill]

/-- An address is the path that the values of its placeholders make and, if there are other values,
their query. -/
theorem url_eq_target (template : Template) (params : List (String × Option String)) :
    template.url params = Http.target (template.url (template.ownParams params))
      (if template.extraParams (setParams params) = [] then none
        else some (query (template.extraParams (setParams params)))) := by
  have hpath : template.url (template.ownParams params) = template.path (setParams params) := by
    have hkeys : ∀ param ∈ template.ownParams params, param.1 ∈ template.placeholderNames :=
      fun param hparam => decide_eq_true_iff.mp (List.mem_filter.mp hparam).2
    rw [url_eq_path hkeys, ownParams,
      setParams_filter fun key => key ∈ template.placeholderNames]
    refine path_congr fun name hname => ?_
    rw [latest?_filter fun key => key ∈ template.placeholderNames, if_pos (by simpa using hname)]
  rw [hpath, url]
  cases template.extraParams (setParams params) with
  | nil => rfl
  | cons first rest => rfl

/-- What is left for the query of an address are the values under keys that are no placeholders. -/
theorem latest?_extraParams (template : Template) (params : List (String × String))
    (key : String) :
    latest? key (template.extraParams params) =
      if key ∈ template.placeholderNames then none else latest? key params := by
  rw [extraParams, latest?_filter fun key => !template.placeholderNames.contains key]
  by_cases h : key ∈ template.placeholderNames <;> simp [h]

private theorem extraParams_ne_nil_iff
    {template : Template} {params : List (String × Option String)} :
    template.extraParams (setParams params) ≠ [] ↔
      ∃ param ∈ params, param.1 ∉ template.placeholderNames ∧ param.2.isSome := by
  rw [extraParams, ne_eq, List.filter_eq_nil_iff]
  push Not
  constructor
  · rintro ⟨param, hparam, hextra⟩
    obtain ⟨⟨key, value⟩, hmem, hvalue⟩ := List.mem_filterMap.mp hparam
    obtain ⟨value, rfl, rfl⟩ := Option.map_eq_some_iff.mp hvalue
    exact ⟨_, hmem, by simpa using hextra, rfl⟩
  · rintro ⟨⟨key, value⟩, hmem, hextra, hvalue⟩
    obtain ⟨value, rfl⟩ := Option.isSome_iff_exists.mp hvalue
    exact ⟨(key, value), List.mem_filterMap.mpr ⟨_, hmem, rfl⟩, by simpa using hextra⟩

end Route.Template

namespace Request

open Route

variable {ε : Type}

/-- A request for a target takes its two parts as they are. -/
theorem create_target [Inhabited ε] {path : String} (h : '?' ∉ path.toList) (method : Method)
    (query : Option String) (headers : Dict String String) (body : Option ByteArray) :
    (create method (Http.target path query) headers body : Request ε) =
      ofParts method path query (.ofPairs headers.entries) body := by
  rw [create, Http.cutAt_target h]

/-- A request for an address reads back what the address was made of: the path that the values of
the placeholders make, if it has no question mark, and a query of the last value under every other
key; there is a query exactly if there is such a value. -/
theorem create_url [Inhabited ε] {template : Template} {params : List (String × Option String)}
    (h : '?' ∉ (template.url (template.ownParams params)).toList) (method : Method)
    (headers : Dict String String) (body : Option ByteArray) :
    let request : Request ε := create method (template.url params) headers body
    request.path = template.url (template.ownParams params) ∧
      (∀ key, request.query.get? key =
        if key ∈ template.placeholderNames then none
        else latest? key (Template.setParams params)) ∧
      (request.queryString.isSome ↔
        ∃ param ∈ params, param.1 ∉ template.placeholderNames ∧ param.2.isSome) := by
  intro request
  have hrequest : request = ofParts method (template.url (template.ownParams params))
      (if template.extraParams (Template.setParams params) = [] then none
        else some (Template.query (template.extraParams (Template.setParams params))))
      (.ofPairs headers.entries) body := by
    rw [← create_target h, ← Template.url_eq_target]
  rw [hrequest]
  refine ⟨rfl, fun key => ?_, ?_⟩
  · rw [← Template.latest?_extraParams, ← Dict.get?_ofList, ofParts]
    split
    next hextra => rw [hextra]; rfl
    next => rw [Option.map_some, Option.getD_some, Http.Query.parse_query]
  · rw [← Template.extraParams_ne_nil_iff, ofParts]
    split
    next hextra => simp [hextra]
    next hextra => simp [hextra]

/-- A search: of two values under one key the last counts, and one that is not set does not; a key
may be empty, and so may a value. -/
theorem create_url_search :
    let template : Template := "/find/\x7bterm?\x7d"
    let params : List (String × Option String) :=
      [("q", some "x"), ("page", none), ("", some ""), ("term", some "a/b"),
        ("q", some "50% of 1+1 = ü&?")]
    let request : Request Unit := create .get (template.url params) .empty none
    '?' ∉ (template.url (template.ownParams params)).toList ∧
      request.path = "/find/a/b" ∧ request.query.get? "q" = some "50% of 1+1 = ü&?" ∧
      request.query.get? "" = some "" ∧ request.query.get? "page" = none ∧
      request.query.get? "term" = none ∧ request.queryString.isSome := by
  intro template params request
  have hmark : '?' ∉ (template.url (template.ownParams params)).toList := by decide +kernel
  have hextra : ∃ param ∈ params, param.1 ∉ template.placeholderNames ∧ param.2.isSome :=
    ⟨("", some ""), by decide, by decide +kernel⟩
  obtain ⟨hpath, hquery, hstring⟩ := create_url (ε := Unit) hmark .get .empty none
  refine ⟨hmark, hpath.trans (by decide +kernel), (hquery "q").trans (by decide +kernel),
    (hquery "").trans (by decide +kernel), (hquery "page").trans (by decide +kernel),
    (hquery "term").trans (by decide +kernel), hstring.mpr hextra⟩

end Request

end Signpost
