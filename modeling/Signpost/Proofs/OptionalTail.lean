import Signpost.Proofs.Registration
import Signpost.Proofs.Route.Written

/-!
# Routes whose last segment may be missing

Such a route is inserted twice, with its last segment and without it.  The two insertions share the
branches of literals and of variables but none of a pattern.  Main statements: the whole form is
always answered, and the short one exactly if no segment before the last has a pattern; otherwise
the branch that holds it is never taken.
-/

namespace Signpost

namespace Route

universe u

variable {α : Type u} {initial : List Segment} {tail : Segment} {value : α}

/-- What a route with an optional tail inserts. -/
def History.ofOptional (initial : List Segment) (tail : Segment) (value : α) : History α :=
  History.behind initial [([tail], value), ([], value)]

/-- A route with an optional tail is inserted in both of its forms. -/
theorem History.ofRoute_of_isOptional (htail : tail.isOptional = true) :
    ofRoute (initial ++ [tail]) value = ofOptional initial tail value := by
  have htwo : ofOptional initial tail value =
      [(initial ++ [tail], value), (initial ++ [], value)] := rfl
  rw [ofRoute, List.getLast?_concat, Option.any_some, if_pos htail, List.dropLast_concat, htwo,
    List.append_nil]

namespace History

/-- An insertion that ends does not matter to a text that goes on. -/
theorem narrow?_append_end (history : History α) (value : α) (text : String) :
    narrow? text (history ++ [([], value)]) = history.narrow? text := by
  have hliteral := afterLiteral_append_of_ne [] history value
    fun _ _ => (List.cons_ne_nil _ _).symm
  have hconstrained := constrained_append_of_ne [] history value
    fun _ _ _ _ => (List.cons_ne_nil _ _).symm
  have hplain := plain_append_of_ne [] history value fun _ _ _ => (List.cons_ne_nil _ _).symm
  rw [narrow?, narrow?, hliteral, hconstrained, hplain]

/-- With both forms left, or the whole one alone, a text that the tail admits leads to the value. -/
theorem resolve?_tail {text : String} (h : tail.Admits text) {ended : History α}
    (hended : ended = [] ∨ ended = [([], value)]) :
    History.resolve? [text] ([([tail], value)] ++ ended) = some (value, tail.bindings text) := by
  have hwhole : ([([tail], value)] : History α) = History.behind [tail] [([], value)] := rfl
  have hnarrow : History.narrow? text ([([tail], value)] ++ ended) =
      some (tail.bindings text, [([], value)]) := by
    have hone : History.narrow? text [([tail], value)] =
        some (tail.bindings text, [([], value)]) := by
      rw [hwhole, narrow?_behind_singleton h (List.cons_ne_nil _ _)]
      split <;> rfl
    rcases hended with rfl | rfl
    · exact hone
    · rw [narrow?_append_end, hone]
  rw [resolve?, hnarrow]
  simp [resolve?, value?]

/-- Whatever comes before the tail, the whole form is left. -/
theorem exists_leftBehind_eq (initial : List Segment) (tail : Segment) (value : α) :
    ∃ ended, (ended = [] ∨ ended = [([], value)]) ∧
      leftBehind initial [([tail], value), ([], value)] = [([tail], value)] ++ ended := by
  rw [leftBehind]
  split
  · exact ⟨[], Or.inl rfl, rfl⟩
  · exact ⟨_, Or.inr rfl, rfl⟩

/-- The whole form is answered whatever comes before the tail. -/
theorem resolve?_ofOptional_whole {texts : List String} {text : String}
    (hinitial : List.Forall₂ Segment.Admits initial texts) (htail : tail.Admits text) :
    (ofOptional initial tail value).resolve? (texts ++ [text]) =
      some (value, Segment.bindingsAll initial texts ++ tail.bindings text) := by
  obtain ⟨ended, hended, hleft⟩ := exists_leftBehind_eq initial tail value
  rw [ofOptional, resolve?_behind hinitial (List.cons_ne_nil _ _), hleft,
    resolve?_tail htail hended, Option.map_some]

/-- The short form is answered as long as no segment has a pattern. -/
theorem resolve?_ofOptional_short {texts : List String}
    (hinitial : List.Forall₂ Segment.Admits initial texts) :
    (ofOptional initial tail value).resolve? texts =
      if initial.any Segment.isConstrained then none
      else some (value, Segment.bindingsAll initial texts) := by
  have hresolve := resolve?_behind hinitial
    (List.cons_ne_nil ([tail], value) [(([] : List Segment), value)]) []
  rw [List.append_nil] at hresolve
  rw [ofOptional, hresolve, leftBehind]
  split
  · rfl
  · simp [resolve?, value?]

end History

section OptionalTail

variable {patternOf : String → Option Pattern} {initial : List String} {last x : String}
  (hlast : Placeholder.parse? last = some ⟨x, true⟩)

include hlast

/-- What a written path inserts whose last segment may be missing. -/
theorem History.ofRoute_map_ofText (value : α) :
    ofRoute ((initial ++ [last]).map (Segment.ofText patternOf)) value =
      ofOptional (initial.map (Segment.ofText patternOf)) (Segment.ofText patternOf last)
        value := by
  have hoptional : (Segment.ofText patternOf last).isOptional = true := by
    rw [Segment.ofText, hlast]
    exact Segment.isOptional_ofPlaceholder _ _
  rw [List.map_append, List.map_singleton, ofRoute_of_isOptional hoptional]

variable {raws : List String} (hparts : ∀ written ∈ initial ++ [last], Path.IsPart written)
  (hraws : List.Forall₂ (Answers patternOf) initial raws)

include hparts hraws

/-- The parts that answer the segments before the last are looked up among the forms of a route by
what they decode to. -/
theorem Tree.find?_render_of_answers (value : α) :
    (Tree.ofHistory (.ofRoute ((initial ++ [last]).map (Segment.ofText patternOf)) value)).find?
        (Path.render raws) =
      if (initial.map (Segment.ofText patternOf)).any Segment.isConstrained then none
      else some (value, Dict.ofList (Segment.bindingsAll
        (initial.map (Segment.ofText patternOf)) (raws.map Text.Percent.decode))) := by
  have hrawParts := forall_isPart_of_answers hraws (List.forall_mem_append.mp hparts).1
  rw [find?_ofHistory, Path.segments_render hrawParts, History.ofRoute_map_ofText hlast,
    History.resolve?_ofOptional_short (Segment.forall₂_admits_ofText hraws)]
  split <;> rfl

/-- The whole form is found and binds the last name. -/
theorem Tree.find?_render_append (hx : x ≠ "") {raw : String} (hraw : Answers patternOf last raw)
    (value : α) :
    ∃ params, (Tree.ofHistory (.ofRoute ((initial ++ [last]).map (Segment.ofText patternOf))
        value)).find? (Path.render (raws ++ [raw])) = some (value, params) ∧
      params.get? x = some (Text.Percent.decode raw) := by
  obtain ⟨hinitial, hlastPart⟩ := List.forall_mem_append.mp hparts
  have hrawPart := isPart_of_answers (hlastPart last List.mem_cons_self) hraw
  have hallParts : ∀ part ∈ raws ++ [raw], Path.IsPart part :=
    List.forall_mem_append.mpr
      ⟨forall_isPart_of_answers hraws hinitial, List.forall_mem_singleton.mpr hrawPart⟩
  have htail : Segment.ofText patternOf last =
      Segment.ofPlaceholder ⟨x, true⟩ (patternOf x) := by
    rw [Segment.ofText, hlast]
  have hwhole : (History.ofOptional (initial.map (Segment.ofText patternOf))
      (Segment.ofText patternOf last) value).resolve? (raws.map Text.Percent.decode ++
        [Text.Percent.decode raw]) = some (value, _) :=
    History.resolve?_ofOptional_whole (Segment.forall₂_admits_ofText hraws)
      (Segment.admits_ofText hraw)
  have hfind : (Tree.ofHistory (.ofRoute ((initial ++ [last]).map (Segment.ofText patternOf))
      value)).find? (Path.render (raws ++ [raw])) = some (value, Dict.ofList
        (Segment.bindingsAll (initial.map (Segment.ofText patternOf))
            (raws.map Text.Percent.decode) ++
          (Segment.ofText patternOf last).bindings (Text.Percent.decode raw))) := by
    rw [find?_ofHistory, Path.segments_render hallParts, History.ofRoute_map_ofText hlast,
      List.map_append, List.map_singleton, hwhole]
    rfl
  refine ⟨_, hfind, ?_⟩
  rw [Dict.get?_ofList, htail, Segment.bindings_ofPlaceholder, if_neg hx,
    latest?_append_singleton, if_pos rfl]

end OptionalTail

end Route

open Route

variable {ε : Type}

/-- A route whose last segment is a named placeholder that may be missing answers its whole form;
its short form it answers if no segment before the last has a pattern, and otherwise never. -/
theorem Registration.match?_of_route_optional {router router' : Router ε} {scope : Scope ε}
    {method : Method} {path : String} {action : Action ε} {initial : List String}
    {last x : String} (hfresh : router.trees = .empty)
    (hroute : route method path action scope router = (.ok (), router'))
    (hsegments : Path.segments (Path.join scope.base path) = initial ++ [last])
    (hlast : Placeholder.parse? last = some ⟨x, true⟩) (hx : x ≠ "") :
    ∃ prepared, action.prepare router.aliases router.resolver scope.space scope.nameStart
        (Path.join scope.base path) = .ok prepared ∧
      ∀ raws, List.Forall₂ (Answers (prepared.patternOf router.patterns)) initial raws →
        (∀ raw, Answers (prepared.patternOf router.patterns) last raw →
          ∃ params, router'.match? method (Path.render (raws ++ [raw])) =
              .ok (scope.stack prepared, params) ∧
            params.get? x = some (Text.Percent.decode raw)) ∧
        ((∀ written ∈ initial, ¬IsConstrained (prepared.patternOf router.patterns) written) →
          ∃ params, router'.match? method (Path.render raws) =
              .ok (scope.stack prepared, params) ∧
            ((∀ written ∈ initial, ∀ p, Placeholder.parse? written = some p → p.name ≠ x) →
              params.get? x = none)) ∧
        ((∃ written ∈ initial, IsConstrained (prepared.patternOf router.patterns) written) →
          router'.match? method (Path.render raws) =
            .error (.routeNotFound method (Path.render raws))) := by
  obtain ⟨plan, hplan, rfl⟩ := exists_plan_of_route hroute
  obtain ⟨prepared, hprepared, hofPath, -, hstack, -⟩ := Router.plan_eq_ok_iff.mp hplan
  have hparts : ∀ written ∈ initial ++ [last], Path.IsPart written := fun written hwritten =>
    Path.isPart_of_mem_segments_join (hsegments ▸ hwritten)
  have hinsertions : plan.insertions = .ofRoute ((initial ++ [last]).map
      (Segment.ofText (prepared.patternOf router.patterns))) (scope.stack prepared) := by
    rw [Plan.insertions, hstack, ← hsegments]
    exact congrArg (History.ofRoute · _) (Segment.eq_map_ofText_of_ofPath hofPath)
  have hanswer (request : String) :=
    plan.match?_carryOut_of_fresh hfresh method request
  rw [hinsertions] at hanswer
  refine ⟨prepared, hprepared, fun raws hraws => ?_⟩
  have hshort := Tree.find?_render_of_answers hlast hparts hraws (scope.stack prepared)
  refine ⟨fun raw hraw => ?_, fun hplain => ?_, fun hconstrained => ?_⟩
  · obtain ⟨params, hfind, hbound⟩ :=
      Tree.find?_render_append hlast hparts hraws hx hraw (scope.stack prepared)
    exact ⟨params, by rw [hanswer, hfind]; rfl, hbound⟩
  · have hnone : ¬(initial.map (Segment.ofText (prepared.patternOf router.patterns))).any
        Segment.isConstrained = true := by
      rw [Segment.any_isConstrained_map_ofText]
      rintro ⟨written, hwritten, hconstrained⟩
      exact hplain written hwritten hconstrained
    rw [if_neg hnone] at hshort
    refine ⟨_, by rw [hanswer, hshort]; rfl, fun hother => ?_⟩
    rw [Dict.get?_ofList, Option.eq_none_iff_forall_ne_some]
    intro text htext
    exact Segment.ne_of_mem_bindingsAll_ofText hother (mem_of_latest? htext) rfl
  · rw [hanswer, hshort, if_pos (Segment.any_isConstrained_map_ofText.mpr hconstrained)]
    rfl

/-- A page number may be left out. -/
theorem Registration.match?_of_route_optional_page :
    ∃ router' : Router Unit,
      route .get "/pages/\x7bnumber?\x7d" (.ofHandler logging) {} {} = (.ok (), router') ∧
      ∃ stack params, router'.match? .get "/pages" = .ok (stack, params) ∧
        params.get? "number" = none := by
  have hroute : route .get "/pages/\x7bnumber?\x7d" (.ofHandler logging) {} {} =
      (.ok (), (apply (route .get "/pages/\x7bnumber?\x7d" (.ofHandler logging))
        ({} : Router Unit)).2) :=
    Prod.ext (by decide +kernel) rfl
  have hsegments : Path.segments (Path.join "/" "/pages/\x7bnumber?\x7d") =
      ["pages"] ++ ["\x7bnumber?\x7d"] := by decide +kernel
  have hlast : Placeholder.parse? "\x7bnumber?\x7d" = some ⟨"number", true⟩ := by decide +kernel
  have hparse : Placeholder.parse? "pages" = none := by decide +kernel
  have hdecode : Text.Percent.decode "pages" = "pages" := by decide +kernel
  have hrender : Path.render ["pages"] = "/pages" := by decide +kernel
  obtain ⟨prepared, -, hmatch⟩ :=
    match?_of_route_optional rfl hroute hsegments hlast (by decide)
  have hanswers : Answers (prepared.patternOf .empty) "pages" "pages" :=
    ⟨by decide, by rw [hparse]; exact hdecode⟩
  have hplain : ∀ written ∈ ["pages"], ¬IsConstrained (prepared.patternOf .empty) written := by
    simp [IsConstrained, hparse]
  obtain ⟨params, hshort, hunbound⟩ := (hmatch ["pages"] (.cons hanswers .nil)).2.1 hplain
  rw [hrender] at hshort
  exact ⟨_, hroute, _, params, hshort, hunbound (by simp [hparse])⟩

/-- Behind an identifier that has a pattern the page number can not be left out. -/
theorem Registration.match?_route_optional_constrained :
    ((Pattern.compile "id" "b").toOption.map (·.accepts "b")) = some true ∧
      (apply (route .get "/\x7bid\x7d/\x7bnumber?\x7d"
        { target := some (.handler logging), constraints := [("id", "b")] })
          ({} : Router Unit)).1 = .ok () ∧
      ∀ found, (apply (route .get "/\x7bid\x7d/\x7bnumber?\x7d"
        { target := some (.handler logging), constraints := [("id", "b")] })
          ({} : Router Unit)).2.match? .get "/b" ≠ .ok found := by
  refine ⟨by decide +kernel, by decide +kernel, fun found hfound => ?_⟩
  have hmissed : ((apply (route .get "/\x7bid\x7d/\x7bnumber?\x7d"
      { target := some (.handler logging), constraints := [("id", "b")] })
        ({} : Router Unit)).2.match? .get "/b").toOption.isNone = true := by
    decide +kernel
  rw [hfound] at hmissed
  contradiction

end Signpost
