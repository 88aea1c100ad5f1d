import Signpost.Proofs.Programs
import Signpost.Proofs.Route.Literals
import Signpost.Proofs.Route.Written

/-!
# Routes that only literals lead to

Whatever a program declares, before and after, no pattern and no variable gets in the way of a route
that only literals lead to, be it its end or the place before an optional tail.  Main statement: the
path that encodes the literals gets the latest route of its method that ends there, and binds
nothing.
-/

namespace Signpost

variable {ε : Type}

namespace Plan

/-- Where only literals lead to what was planned: at the end of its segments or, if the last may be
missing, before it. -/
def EndsAt (plan : Plan ε) (texts : List String) : Prop :=
  plan.segments = texts.map .literal ∨
    ∃ tail : Route.Segment, tail.isOptional = true ∧ plan.segments = texts.map .literal ++ [tail]

/-- Only literals lead to what was planned if the segments are literals, or all of them are before
a last one that may be missing. -/
theorem endsAt_iff {plan : Plan ε} {texts : List String} :
    plan.EndsAt texts ↔ plan.segments = texts.map .literal ∨
      plan.segments.getLast?.any Route.Segment.isOptional = true ∧
        plan.segments.dropLast = texts.map .literal := by
  refine or_congr_right ⟨?_, ?_⟩
  · rintro ⟨tail, htail, hsegments⟩
    rw [hsegments, List.getLast?_concat, List.dropLast_concat]
    exact ⟨htail, rfl⟩
  · rintro ⟨hlast, hinitial⟩
    cases htail : plan.segments.getLast? with
    | none =>
      rw [htail] at hlast
      contradiction
    | some tail =>
      rw [htail] at hlast
      obtain ⟨initial, hsegments⟩ := List.getLast?_eq_some_iff.mp htail
      rw [hsegments, List.dropLast_concat] at hinitial
      exact ⟨tail, hlast, hinitial ▸ hsegments⟩

/-- The stack is inserted at literals exactly where only literals lead to what was planned. -/
theorem mem_literals_insertions {plan : Plan ε} {texts : List String} {stack : Stack ε} :
    (texts, stack) ∈ plan.insertions.literals ↔ plan.EndsAt texts ∧ stack = plan.stack := by
  rw [Route.History.mem_literals, insertions, Route.History.ofRoute, List.mem_cons, endsAt_iff,
    Prod.mk.injEq, or_and_right]
  split
  next hlast => simp [hlast, eq_comm]
  next hlast => simp [hlast, eq_comm]

/-- The literals that lead to what was planned are parts of a path. -/
theorem IsMade.isPart {plan : Plan ε} (hmade : plan.IsMade) {texts : List String}
    (hends : plan.EndsAt texts) : ∀ text ∈ texts, Path.IsPart text := by
  obtain ⟨router, scope, path, action, hplan⟩ := hmade
  obtain ⟨prepared, -, hofPath, -⟩ := Router.plan_eq_ok_iff.mp hplan
  intro text htext
  have hmem : Route.Segment.literal text ∈ plan.segments := by
    rcases hends with hsegments | ⟨tail, -, hsegments⟩
    · rw [hsegments]
      exact List.mem_map_of_mem htext
    · rw [hsegments]
      exact List.mem_append_left _ (List.mem_map_of_mem htext)
  rw [Route.Segment.eq_map_ofText_of_ofPath hofPath] at hmem
  obtain ⟨written, hwritten, hliteral⟩ := List.mem_map.mp hmem
  rw [Route.Segment.eq_of_ofText_eq_literal hliteral] at hwritten
  exact Path.isPart_of_mem_segments_join hwritten

end Plan

/-- What is found in the tree of a method matches its requests. -/
theorem Router.match?_of_find? {router : Router ε} {method : Method} {path : String}
    {found : Stack ε × Dict String String} (h : (router.tree method).find? path = some found) :
    router.match? method path = .ok found := by
  rw [match?_eq, h, Option.map_some, Option.getD_some]

/-- What routes are inserted as at literals comes from a route that ends there. -/
theorem Journal.exists_of_mem_literals {journal : Journal ε} {method : Method}
    {texts : List String} {stack : Stack ε}
    (h : (texts, stack) ∈ (journal.history method).literals) :
    ∃ route ∈ journal, route.1 = method ∧ route.2.EndsAt texts := by
  rw [Route.History.mem_literals, history, List.mem_flatMap] at h
  obtain ⟨route, hroute, hentry⟩ := h
  split at hentry
  next hmethod =>
    exact ⟨route, hroute, hmethod,
      (Plan.mem_literals_insertions.mp (Route.History.mem_literals.mpr hentry)).1⟩
  next => exact absurd hentry List.not_mem_nil

/-- The latest route of a method that ends at literals is the latest insertion there. -/
theorem Journal.latest?_history {before after : Journal ε} {method : Method} {plan : Plan ε}
    {texts : List String} (hends : plan.EndsAt texts)
    (hlatest : ∀ route ∈ after, route.1 = method → ¬route.2.EndsAt texts) :
    latest? texts (Journal.history (before ++ (method, plan) :: after) method).literals =
      some plan.stack := by
  have hafter : latest? texts (after.history method).literals = none := by
    rw [Option.eq_none_iff_forall_not_mem]
    intro stack hstack
    obtain ⟨route, hroute, hmethod, hroutes⟩ :=
      exists_of_mem_literals (mem_of_latest? hstack)
    exact hlatest route hroute hmethod hroutes
  have hown : latest? texts plan.insertions.literals = some plan.stack := by
    obtain ⟨stack, hstack⟩ := exists_latest?_iff.mpr
      (List.mem_map_of_mem (Plan.mem_literals_insertions.mpr ⟨hends, rfl⟩))
    rw [hstack, (Plan.mem_literals_insertions.mp (mem_of_latest? hstack)).2]
  have hhistory : Journal.history ((method, plan) :: after) method =
      plan.insertions ++ after.history method := by
    rw [history, List.flatMap_cons, if_pos rfl]
    rfl
  rw [history_append, hhistory, Route.History.literals_append, Route.History.literals_append,
    latest?_append, latest?_append, hafter, hown]
  rfl

/-- A route is never shadowed where only literals lead to it: the path that encodes them gets the
latest route of the method that ends there. -/
theorem Program.match?_of_endsAt (program : Program ε) (scope : Scope ε) {router : Router ε}
    (hfresh : router.trees = .empty) {method : Method} {before after : Journal ε} {plan : Plan ε}
    (hroutes : program.routes scope router = before ++ (method, plan) :: after)
    {texts : List String} (hends : plan.EndsAt texts)
    (hlatest : ∀ route ∈ after, route.1 = method → ¬route.2.EndsAt texts) :
    (program.register scope router).2.match? method
        (Path.render (texts.map Text.Percent.encode)) = .ok (plan.stack, .empty) := by
  obtain ⟨htree, hmade⟩ := program.leaves scope router
  have hfound : latest? texts ((program.routes scope router).history method).literals =
      some plan.stack := hroutes ▸ Journal.latest?_history hends hlatest
  have hparts : ∀ text ∈ texts, Path.IsPart text := by
    refine (hmade (method, plan) ?_).isPart hends
    rw [hroutes]
    exact List.mem_append_right _ List.mem_cons_self
  have hempty : router.tree method = {} := by
    rw [Router.tree, hfresh, Dict.get?_empty, Option.getD_none]
  refine Router.match?_of_find? ?_
  rw [htree, hempty, Route.Tree.insertAll_empty]
  exact Route.Tree.find?_of_latest? hparts hfound

/-- The handler that ends every request. -/
def Handler.ending : Handler ε := fun exchange => (.done, exchange)

/-- A program that declares a page with an optional tail, a route that fails, the page again in a
group, and a variable beside it. -/
def Program.pages : Program ε :=
  .single (.route .get "/my page/\x7btail?\x7d" (.ofHandler logging)) fun _ =>
  .single (.route .get "/\x7btail?\x7d/page" (.ofHandler logging)) fun _ =>
  .group { base := "/my page" } (.single (.route .get "" (.ofHandler .ending)) .done) fun _ =>
  .single (.route .get "/\x7bany\x7d" (.ofHandler logging)) .done

/-- The page is the one of the group. -/
theorem Program.match?_of_endsAt_pages :
    ((pages : Program Unit).register {} {}).2.match? .get "/my%20page" =
      .ok ([.ending], .empty) := by
  have hroutes : (pages : Program Unit).routes {} {} =
      [(.get, ⟨"/my page/\x7btail?\x7d", [.literal "my page", .variable "tail" true], [logging],
        none⟩)] ++
      (.get, ⟨"/my page", [.literal "my page"], [.ending], none⟩) ::
      [(.get, ⟨"/\x7bany\x7d", [.variable "any" false], [logging], none⟩)] := rfl
  have hpath : Path.render (["my page"].map Text.Percent.encode) = "/my%20page" := by
    decide +kernel
  rw [← hpath]
  exact pages.match?_of_endsAt {} rfl hroutes (Or.inl rfl) (by simp [Plan.EndsAt])

end Signpost
