import Signpost.Proofs.Kebab
import Signpost.Proofs.Programs
import Signpost.Proofs.Route.Written

/-!
# Routes of controllers

A controller's method answers requests of the method its name begins with, at a path that the rest
of its name gives; one whose name begins with no such token answers none.  Main statement: to
declare a controller is to declare one route for each of the methods that have one, in their order
and in a group of their own, each at the path of the group or one literal segment below it.
-/

namespace Signpost

variable {ε : Type}

namespace Method

/-- No token begins another one. -/
theorem eq_of_token_begins {m m' : Method} (h : m.token.toList <+: m'.token.toList) : m = m' := by
  revert h
  cases m <;> cases m' <;> decide

/-- What two texts begin with is the same method if the texts are. -/
theorem token_append_inj {m m' : Method} {rest rest' : String}
    (h : m.token ++ rest = m'.token ++ rest') : m = m' ∧ rest = rest' := by
  have hlist : m.token.toList ++ rest.toList = m'.token.toList ++ rest'.toList := by
    rw [← String.toList_append, h, String.toList_append]
  have hm : m.token.toList <+: m'.token.toList ++ rest'.toList := hlist ▸ List.prefix_append _ _
  have hm' : m'.token.toList <+: m'.token.toList ++ rest'.toList := List.prefix_append _ _
  have heq : m = m' := by
    rcases Nat.le_total m.token.toList.length m'.token.toList.length with hle | hle
    · exact eq_of_token_begins (List.prefix_of_prefix_length_le hm hm' hle)
    · exact (eq_of_token_begins (List.prefix_of_prefix_length_le hm' hm hle)).symm
  subst heq
  exact ⟨rfl, String.toList_inj.mp (List.append_cancel_left hlist)⟩

/-- The method that the name of a controller's method begins with, and the rest of the name. -/
def splitToken? (name : String) : Option (Method × String) :=
  all.findSome? fun method => (Text.after? method.token name).map (method, ·)

/-- A name begins with no more than one token. -/
theorem splitToken?_eq_some_iff {name rest : String} {method : Method} :
    splitToken? name = some (method, rest) ↔ name = method.token ++ rest := by
  have hfound {m : Method} {found : Method × String} :
      (Text.after? m.token name).map (m, ·) = some found ↔
        found.1 = m ∧ name = m.token ++ found.2 := by
    rw [Option.map_eq_some_iff]
    constructor
    · rintro ⟨tail, htail, rfl⟩
      exact ⟨rfl, Text.after?_eq_some_iff.mp htail⟩
    · rintro ⟨rfl, hname⟩
      exact ⟨found.2, Text.after?_eq_some_iff.mpr hname, rfl⟩
  constructor
  · intro h
    obtain ⟨m, -, hm⟩ := List.exists_of_findSome?_eq_some h
    obtain ⟨rfl, hname⟩ := hfound.mp hm
    exact hname
  · intro h
    cases hsplit : splitToken? name with
    | none =>
      have hnone := List.findSome?_eq_none_iff.mp hsplit method (mem_all method)
      rw [hfound.mpr (⟨rfl, h⟩ : (method, rest).1 = method ∧ _)] at hnone
      exact absurd hnone (Option.some_ne_none _)
    | some found =>
      obtain ⟨m, -, hm⟩ := List.exists_of_findSome?_eq_some hsplit
      obtain ⟨rfl, hname⟩ := hfound.mp hm
      obtain ⟨rfl, rfl⟩ := token_append_inj (hname.symm.trans h)
      rfl

end Method

namespace Registration

/-- The path below its group at which a controller's method answers, `rest` being its name without
the token. -/
def subpath (rest : String) : String :=
  if Text.Kebab.kebab rest = "index" then "" else Text.Kebab.kebab rest

/-- The call that a controller's method stands for, if its name begins with a token. -/
def callOf? (options : Dict String (ActionOptions ε)) (entry : String × Handler ε) :
    Option (Method × String × Action ε) :=
  (Method.splitToken? entry.1).map fun found =>
    (found.1, subpath found.2,
      { target := some (.handler entry.2)
        middleware := ((options.get? entry.1).getD {}).middleware
        name := ((options.get? entry.1).getD {}).name })

/-- A controller's method has one route, or none. -/
theorem methodRoutes_eq (name : String) :
    methodRoutes name = ((Method.splitToken? name).map fun found =>
      (found.1, subpath found.2)).toList := by
  cases hsplit : Method.splitToken? name with
  | none =>
    have hnone := List.findSome?_eq_none_iff.mp hsplit
    refine List.filterMap_eq_nil_iff.mpr fun method hmethod => ?_
    rw [Option.map_eq_none_iff.mp (hnone method hmethod)]
    rfl
  | some found =>
    obtain ⟨method, rest⟩ := found
    have hname := Method.splitToken?_eq_some_iff.mp hsplit
    have hafter (m : Method) :
        Text.after? m.token name = if m = method then some rest else none := by
      split
      next hm => exact Text.after?_eq_some_iff.mpr (hm ▸ hname)
      next hm =>
        rw [Option.eq_none_iff_forall_ne_some]
        intro tail htail
        exact hm (Method.token_append_inj ((Text.after?_eq_some_iff.mp htail).symm.trans hname)).1
    simp only [methodRoutes, hafter]
    cases method <;> rfl

/-- The calls of a controller are those of its methods. -/
theorem callsOf_eq_filterMap (options : Dict String (ActionOptions ε))
    (controller : Controller ε) :
    callsOf options controller = controller.filterMap (callOf? options) := by
  rw [callsOf, List.filterMap_eq_flatMap_toList]
  congr 1
  funext entry
  rw [methodRoutes_eq, callOf?]
  cases Method.splitToken? entry.1 <;> rfl

/-- Calls that are made one after the other within a scope, from one router to another: what each
of them plans is carried out before the next, and the first that can plan nothing ends it. -/
inductive InOrder (scope : Scope ε) :
    List (Method × String × Action ε) → Router ε → Except Error Unit × Router ε → Prop
  /-- There are no more calls. -/
  | done (router : Router ε) : InOrder scope [] router (.ok (), router)
  /-- A route is declared, and it goes on. -/
  | declared {method : Method} {path : String} {action : Action ε} {plan : Plan ε}
    {rest : List (Method × String × Action ε)} {router : Router ε}
    {outcome : Except Error Unit × Router ε}
    (hplan : router.plan scope path action = .ok plan)
    (hrest : InOrder scope rest (plan.carryOut (.requests method) router) outcome) :
    InOrder scope ((method, path, action) :: rest) router outcome
  /-- A call fails, which ends it. -/
  | failed {method : Method} {path : String} {action : Action ε}
    {rest : List (Method × String × Action ε)} {router : Router ε} {error : Error}
    (hplan : router.plan scope path action = .error error) :
    InOrder scope ((method, path, action) :: rest) router (.error error, router)

/-- Routes that are declared one after the other are declared in order. -/
theorem inOrder_routeAll (scope : Scope ε) (calls : List (Method × String × Action ε))
    (router : Router ε) : InOrder scope calls router (routeAll calls scope router) := by
  induction calls generalizing router with
  | nil => exact .done router
  | cons call rest ih =>
    obtain ⟨method, path, action⟩ := call
    have hcons : routeAll ((method, path, action) :: rest) =
        route method path action >>= fun _ => routeAll rest := rfl
    rw [hcons, bind_apply, route, declare_apply]
    cases hplan : router.plan scope path action with
    | error error => exact .failed hplan
    | ok plan => exact .declared hplan (ih _)

/-- The segments that a controller's method adds to the path of its group, `rest` being its name
without the token: none if there is nothing left of it or `index`, and else the rest in kebab
case. -/
def ownSegments (rest : String) : List String :=
  if Text.Kebab.kebab rest = "" ∨ Text.Kebab.kebab rest = "index" then []
  else [Text.Kebab.kebab rest]

private theorem segments_join_subpath (base path rest : String) :
    Path.segments (Path.join (Path.join base path) (subpath rest)) =
      Path.segments (Path.join base path) ++ ownSegments rest := by
  have hempty : Text.pieces '/' "" = [""] := rfl
  have hstay (parts : List String) : [""].foldl Path.follow parts = parts := Path.follow_empty parts
  have hslash : '/' ∉ (Text.Kebab.kebab rest).toList := Text.Kebab.not_mem_kebab (by decide) rest
  rw [Path.segments_join, Path.resolve_append, Path.resolve_pieces_join, ← Path.segments_join,
    subpath, ownSegments]
  by_cases hindex : Text.Kebab.kebab rest = "index"
  · rw [if_pos hindex, if_pos (Or.inr hindex), hempty, hstay, List.append_nil]
  · rw [if_neg hindex, Text.pieces_of_not_mem hslash]
    by_cases hnil : Text.Kebab.kebab rest = ""
    · rw [if_pos (Or.inl hnil), hnil, hstay, List.append_nil]
    · obtain ⟨-, hdot, hdotdot⟩ := Text.Kebab.goesDown_kebab hnil
      simp [Path.follow, hnil, hdot, hdotdot, hindex]

/-- What is planned for a controller's method stands at the path of its group, or at one literal
segment below it. -/
theorem segments_plan_subpath {router : Router ε} {scope : Scope ε} {path rest : String}
    {middleware : Stack ε} {action : Action ε} {plan : Plan ε}
    (h : router.plan (scope.nest { base := path } middleware) (subpath rest) action = .ok plan) :
    Path.segments plan.path =
        Path.segments (Path.join scope.base path) ++ ownSegments rest ∧
      ∃ patternOf, plan.segments =
        (Path.segments (Path.join scope.base path)).map (Route.Segment.ofText patternOf) ++
          (ownSegments rest).map .literal := by
  obtain ⟨prepared, -, hofPath, hpath, -, -⟩ := Router.plan_eq_ok_iff.mp h
  have hjoin : Path.segments (Path.join (Path.join scope.base path) (subpath rest)) =
      Path.segments (Path.join scope.base path) ++ ownSegments rest :=
    segments_join_subpath scope.base path rest
  refine ⟨(congrArg Path.segments hpath).trans hjoin,
    fun name => prepared.constraints.get? name <|> router.patterns.get? name, ?_⟩
  have hnested : (scope.nest { base := path } middleware).base = Path.join scope.base path := rfl
  have hliteral (patternOf : String → Option Route.Pattern) :
      (ownSegments rest).map (Route.Segment.ofText patternOf) =
        (ownSegments rest).map .literal := by
    rw [ownSegments]
    split
    · rfl
    · rw [List.map_singleton, Route.Segment.ofText, Text.Kebab.parse?_kebab]
      rfl
  rw [Route.Segment.eq_map_ofText_of_ofPath hofPath, hnested, hjoin, List.map_append, hliteral]

section Routes

variable {controllers : Controllers ε} {router : Router ε} {scope : Scope ε} {name : String}
  {actions : Controller ε}

/-- Declaring a controller that is known is declaring its calls, one after the other, in a group of
their own: up to the first that fails each is carried out.  A controller's method stands for one
call if its name begins with a token, which no two tokens do, and for none if it does not; the call
is made at the path of the group or one literal segment below it. -/
theorem controller_routes (hresolver : router.resolver = some controllers.resolver)
    (hknown : controllers.resolver name scope.space = .ok actions)
    (path : String) (options : Dict String (ActionOptions ε)) :
    let group : GroupOptions ε := { base := path }
    let calls := actions.filterMap (callOf? options)
    controller path name options scope router =
        Registration.group group (routeAll calls) scope router ∧
      InOrder (scope.nest group []) calls router (controller path name options scope router) ∧
      (∀ entry method rest, Method.splitToken? entry = some (method, rest) ↔
        entry = method.token ++ rest) ∧
      ∀ (router' : Router ε) (rest : String) (action : Action ε) (plan : Plan ε),
        router'.plan (scope.nest group []) (subpath rest) action = .ok plan →
          Path.segments plan.path =
              Path.segments (Path.join scope.base path) ++ ownSegments rest ∧
            ∃ patternOf, plan.segments =
              (Path.segments (Path.join scope.base path)).map (Route.Segment.ofText patternOf) ++
                (ownSegments rest).map .literal := by
  intro group calls
  have hgroup : controller path name options scope router =
      Registration.group group (routeAll calls) scope router := by
    rw [controller_apply, hresolver]
    dsimp only
    rw [hknown]
    dsimp only
    rw [methods_eq_routeAll, callsOf_eq_filterMap]
  have hcalls : Registration.group group (routeAll calls) scope router =
      routeAll calls (scope.nest group []) router := group_apply _ _ _ _
  refine ⟨hgroup, ?_, fun _ _ _ => Method.splitToken?_eq_some_iff,
    fun _ _ _ _ hplan => segments_plan_subpath hplan⟩
  rw [hgroup, hcalls]
  exact inOrder_routeAll _ calls router

end Routes

/-- Methods of a controller, one of which has no route. -/
def pageMethods : Controller Unit :=
  [("getIndex", logging), ("helper", logging), ("getSomeGreeting", logging), ("postForm", logging)]

/-- Three of the methods have a route, and one of these has a name. -/
theorem controller_routes_page :
    let router := ({} : Router Unit).useControllers (.register {} "Page" pageMethods)
    let options := Dict.empty.insert "postForm" { name := some "send" }
    let calls : List (Method × String × Action Unit) :=
      [(.get, "", { target := some (.handler logging) }),
        (.get, "some-greeting", { target := some (.handler logging) }),
        (.post, "form", { target := some (.handler logging), name := some "send" })]
    controller "/pages" "Page" options {} router =
        group { base := "/pages" } (routeAll calls) {} router ∧
      InOrder (({} : Scope Unit).nest { base := "/pages" } []) calls router
        (controller "/pages" "Page" options {} router) := by
  intro router options calls
  have hkey : Path.join "" "Page" = Path.join "/" "Page" := by decide +kernel
  have hknown : (Controllers.register {} "Page" pageMethods).resolver "Page" "" =
      .ok pageMethods := by
    rw [Controllers.resolver, hkey, Controllers.register, Dict.get?_insert_self]
  have hcalls : pageMethods.filterMap (callOf? options) = calls := rfl
  obtain ⟨hgroup, horder, -, -⟩ :=
    @controller_routes _ _ router {} _ _ rfl hknown "/pages" options
  rw [hcalls] at hgroup horder
  exact ⟨hgroup, horder⟩

end Registration

end Signpost
