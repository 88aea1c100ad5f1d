import Signpost.Proofs.Programs
import Signpost.Proofs.Route.Terminals

/-!
# The names of routes

Names are kept apart from the trees: a name can be given again, to another path or for another
method, and what a route inserted can be replaced.  Main statement: whatever a program declares,
every name has the path of the latest route that it was given to, and a tree still leads to where
that path was declared.
-/

namespace Signpost

variable {ε : Type}

namespace Route

/-- Whether a path is as paths are declared: in canonical form, and without a segment that may be
missing before its last one. -/
structure Template.IsDeclarable (template : Template) : Prop where
  join_eq : Path.join "/" template = template
  isOptional_eq_false : ∀ segment ∈ (Path.segments template).dropLast,
    ∀ p ∈ Placeholder.parse? segment, p.isOptional = false

/-- Whether a tree has values where a path was declared: at its end and, if its last segment may be
missing, before it. -/
structure Tree.Covers {α : Type} (tree : Tree α) (template : Template) : Prop where
  reaches : tree.Reaches (Path.segments template)
  reaches_dropLast : ∀ last ∈ (Path.segments template).getLast?, ∀ p ∈ Placeholder.parse? last,
    p.isOptional = true → tree.Reaches (Path.segments template).dropLast

end Route

namespace Plan

/-- What is planned is for a path as paths are declared, and for its segments. -/
theorem IsMade.isDeclarable {plan : Plan ε} (h : plan.IsMade) :
    Route.Template.IsDeclarable plan.path ∧
      ∃ patternOf,
        plan.segments = (Path.segments plan.path).map (Route.Segment.ofText patternOf) := by
  obtain ⟨router, scope, path, action, hplan⟩ := h
  obtain ⟨prepared, -, hofPath, hpath, -, -⟩ := Router.plan_eq_ok_iff.mp hplan
  rw [← hpath] at hofPath
  have hjoin : Path.join "/" plan.path = plan.path := by
    rw [hpath, Path.join_slash_join]
  refine ⟨⟨hjoin, ?_⟩, _, Route.Segment.eq_map_ofText_of_ofPath hofPath⟩
  have hclassified := Route.Segment.classifyAll_of_ofPath hofPath
  rcases List.eq_nil_or_concat (Path.segments plan.path) with hnil | ⟨initial, last, hsegments⟩
  · rw [hnil]
    exact nofun
  · rw [hsegments] at hclassified ⊢
    rw [List.concat_eq_append] at hclassified ⊢
    rw [List.dropLast_concat]
    exact Route.Segment.isOptional_eq_false_of_classifyAll hclassified

/-- What a plan inserts stands for its path and, if its last segment may be missing, also for what
comes before it. -/
theorem mem_insertions {plan : Plan ε} {patternOf : String → Option Route.Pattern}
    (hsegments : plan.segments =
      (Path.segments plan.path).map (Route.Segment.ofText patternOf)) :
    ((Path.segments plan.path).map (Route.Segment.ofText patternOf), plan.stack) ∈
        plan.insertions ∧
      ∀ last ∈ (Path.segments plan.path).getLast?, ∀ p ∈ Route.Placeholder.parse? last,
        p.isOptional = true →
          ((Path.segments plan.path).dropLast.map (Route.Segment.ofText patternOf), plan.stack) ∈
            plan.insertions := by
  rw [insertions, hsegments, Route.History.ofRoute]
  refine ⟨List.mem_cons_self, fun last hlast p hparse hoptional => ?_⟩
  have hmissing : ((Path.segments plan.path).map
      (Route.Segment.ofText patternOf)).getLast?.any Route.Segment.isOptional = true := by
    rw [List.getLast?_map, hlast, Option.map_some, Option.any_some, Route.Segment.ofText, hparse]
    exact (Route.Segment.isOptional_ofPlaceholder p _).trans hoptional
  rw [if_pos hmissing, List.map_dropLast]
  exact List.mem_cons_of_mem _ List.mem_cons_self

/-- A plan with a name is for the joined path of a declaration, and its name goes on from that of
the scope. -/
theorem IsMade.exists_named {plan : Plan ε} (h : plan.IsMade) {name : String}
    (hname : plan.name = some name) :
    ∃ (router : Router ε) (scope : Scope ε) (path : String) (action : Action ε) (own : String),
      router.plan scope path action = .ok plan ∧ action.name = some own ∧
      name = scope.nameStart ++ own ∧ plan.path = Path.join scope.base path := by
  obtain ⟨router, scope, path, action, hplan⟩ := h
  obtain ⟨prepared, hprepared, -, hpath, -, hplanned⟩ := Router.plan_eq_ok_iff.mp hplan
  obtain ⟨-, -, -, -, -, hprefixed⟩ := Action.prepare_eq_ok_iff.mp hprepared
  rw [hplanned, hprefixed, Option.map_eq_some_iff] at hname
  obtain ⟨own, hown, hjoined⟩ := hname
  exact ⟨router, scope, path, action, own, hplan, hown, hjoined.symm, hpath⟩

end Plan

namespace Journal

/-- Whether a route is the latest with a name. -/
def LatestNamed (journal : Journal ε) (name : String) (method : Method) (plan : Plan ε) : Prop :=
  ∃ before after, journal = before ++ (method, plan) :: after ∧ plan.name = some name ∧
    ∀ route ∈ after, route.2.name ≠ some name

private theorem mem_named {journal : Journal ε} {name : String} {template : Route.Template} :
    (name, template) ∈ journal.named ↔
      ∃ route ∈ journal, route.2.name = some name ∧ route.2.path = template := by
  rw [named, List.mem_filterMap]
  refine exists_congr fun route => and_congr_right fun _ => ?_
  rw [Option.map_eq_some_iff]
  constructor
  · rintro ⟨own, hown, heq⟩
    obtain ⟨rfl, rfl⟩ := Prod.mk.inj heq
    exact ⟨hown, rfl⟩
  · rintro ⟨hown, rfl⟩
    exact ⟨name, hown, rfl⟩

/-- A name has the path of the latest route that it was given to. -/
theorem get?_insertAll_named {journal : Journal ε} {name : String} {template : Route.Template} :
    (Route.Names.insertAll .empty journal.named).get? name = some template ↔
      ∃ method plan, journal.LatestNamed name method plan ∧ plan.path = template := by
  have hlatest : (Route.Names.insertAll .empty journal.named).get? name =
      latest? name journal.named := Dict.get?_ofList journal.named name
  rw [hlatest, latest?_eq_some_iff]
  constructor
  · rintro ⟨earlier, later, hnamed, hlater⟩
    obtain ⟨front, back, rfl, -, hback⟩ := List.filterMap_eq_append_iff.mp hnamed
    obtain ⟨skipped, ⟨method, plan⟩, after, rfl, -, hentry, hafter⟩ :=
      List.filterMap_eq_cons_iff.mp hback
    obtain ⟨own, hown, heq⟩ := Option.map_eq_some_iff.mp hentry
    obtain ⟨rfl, rfl⟩ := Prod.mk.inj heq
    refine ⟨method, plan, ⟨front ++ skipped, after, (List.append_assoc _ _ _).symm, hown, ?_⟩, rfl⟩
    intro route hroute hsame
    have hmem : (own, route.2.path) ∈ later := by
      rw [← hafter]
      exact mem_named.mpr ⟨route, hroute, hsame, rfl⟩
    exact hlater _ hmem rfl
  · rintro ⟨method, plan, ⟨before, after, rfl, hname, hlater⟩, rfl⟩
    have hcons : named ((method, plan) :: after) = (name, plan.path) :: named after :=
      List.filterMap_cons_some (congrArg (Option.map (·, plan.path)) hname)
    refine ⟨named before, named after, by rw [named_append, hcons], ?_⟩
    rintro ⟨own, path⟩ hentry rfl
    obtain ⟨route, hroute, hown, -⟩ := mem_named.mp hentry
    exact hlater route hroute hown

private theorem LatestNamed.mem
    {journal : Journal ε} {name : String} {method : Method} {plan : Plan ε}
    (h : journal.LatestNamed name method plan) : (method, plan) ∈ journal := by
  obtain ⟨before, after, rfl, -, -⟩ := h
  exact List.mem_append_right _ List.mem_cons_self

/-- What a route inserted is in the history of its method. -/
theorem subset_history {journal : Journal ε} {method : Method} {plan : Plan ε}
    (h : (method, plan) ∈ journal) : plan.insertions ⊆ journal.history method := by
  intro entry hentry
  rw [history, List.mem_flatMap]
  refine ⟨_, h, ?_⟩
  rw [if_pos rfl]
  exact hentry

/-- The tree of a method covers the path of every route that was made for it. -/
theorem covers_ofHistory {journal : Journal ε} {method : Method} {plan : Plan ε}
    (h : (method, plan) ∈ journal) (hmade : plan.IsMade) :
    (Route.Tree.ofHistory (journal.history method)).Covers plan.path := by
  obtain ⟨-, patternOf, hsegments⟩ := hmade.isDeclarable
  obtain ⟨hwhole, hshort⟩ := Plan.mem_insertions hsegments
  have hsubset := subset_history h
  exact ⟨Route.Tree.reaches_ofHistory (hsubset hwhole), fun last hlast p hparse hoptional =>
    Route.Tree.reaches_ofHistory (hsubset (hshort last hlast p hparse hoptional))⟩

end Journal

/-- Whatever a program declares in a fresh router, and whatever of it fails: a name has the joined
path of the latest route that it was given to, which is as paths are declared, and the tree of the
route's method still leads there. -/
theorem Program.get?_names (program : Program ε) (scope : Scope ε) {router : Router ε}
    (htrees : router.trees = .empty) (hnames : router.names = .empty) (name : String)
    (template : Route.Template) :
    let router' := (program.register scope router).2
    (router'.names.get? name = some template ↔ ∃ method plan,
      (program.routes scope router).LatestNamed name method plan ∧ plan.path = template) ∧
    ∀ method plan, (program.routes scope router).LatestNamed name method plan →
      plan.path = template →
        template.IsDeclarable ∧ (router'.tree method).Covers template ∧
        ∃ (made : Router ε) (within : Scope ε) (path : String) (action : Action ε) (own : String),
          made.plan within path action = .ok plan ∧ action.name = some own ∧
          name = within.nameStart ++ own ∧ template = Path.join within.base path := by
  intro router'
  obtain ⟨htree, hmade, hnamed⟩ := program.leaves scope router
  constructor
  · rw [hnamed, hnames]
    exact Journal.get?_insertAll_named
  · rintro method plan hlatest rfl
    have hplanned : plan.IsMade := hmade _ hlatest.mem
    refine ⟨hplanned.isDeclarable.1, ?_, ?_⟩
    · rw [htree, Router.tree_of_fresh htrees, Route.Tree.insertAll_empty]
      exact Journal.covers_ofHistory hlatest.mem hplanned
    · obtain ⟨before, after, -, hname, -⟩ := hlatest
      exact hplanned.exists_named hname

/-- A program that names a page, fails to name another, names one in a group for another method, so
that both names are the same, and gives the place of that one to another variable. -/
def Program.renamed : Program ε :=
  .single (.route .get "/page/\x7btail?\x7d"
    { target := some (.handler logging), name := some "a page" }) fun _ =>
  .single (.route .get "/\x7btail?\x7d/page"
    { target := some (.handler logging), name := some "a page" }) fun _ =>
  .group { base := "/page", name := "a " } (.single (.route .put "\x7bother?\x7d"
    { target := some (.handler logging), name := some "page" }) .done) fun _ =>
  .single (.route .put "/page/\x7bany\x7d" (.ofHandler logging)) .done

/-- The name has the path of the group's page, which is still reached. -/
theorem Program.get?_names_renamed :
    let router := ((renamed : Program Unit).register {} {}).2
    router.names.get? "a page" = some "/page/\x7bother?\x7d" ∧
      Route.Template.IsDeclarable "/page/\x7bother?\x7d" ∧
      (router.tree .put).Covers "/page/\x7bother?\x7d" := by
  have htrees : ({} : Router Unit).trees = .empty := rfl
  have hnames : ({} : Router Unit).names = .empty := rfl
  let page : Plan Unit := ⟨"/page/\x7bother?\x7d", [.literal "page", .variable "other" true],
    [logging], some "a page"⟩
  have hroutes : (renamed : Program Unit).routes {} {} =
      [(.get, ⟨"/page/\x7btail?\x7d", [.literal "page", .variable "tail" true], [logging],
        some "a page"⟩)] ++
      (.put, page) ::
      [(.put, ⟨"/page/\x7bany\x7d", [.literal "page", .variable "any" false], [logging],
        none⟩)] := rfl
  have hlatest : ((renamed : Program Unit).routes {} {}).LatestNamed "a page" .put page :=
    ⟨_, _, hroutes, rfl, by simp⟩
  obtain ⟨hnamed, hkept⟩ :=
    renamed.get?_names {} htrees hnames "a page" "/page/\x7bother?\x7d"
  obtain ⟨hdeclarable, hcovers, -⟩ := hkept .put page hlatest rfl
  exact ⟨hnamed.mpr ⟨.put, page, hlatest, rfl⟩, hdeclarable, hcovers⟩

end Signpost
