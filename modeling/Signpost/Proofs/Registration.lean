import Signpost.Proofs.Route.Entries
import Signpost.Registration

/-!
# What a declaration does

A declaration either fails and leaves the router as it is, or plants one stack at one list of
segments and notes at most one name.  It is planned first and then carried out, and what has been
carried out does not change what is planned later.  Main statements: both cases, for a router and
for a declaration within a scope, and what sequences and groups of declarations do.
-/

namespace Signpost

universe u v w

/-- A computation that succeeds has a part that succeeds first. -/
theorem exists_of_bind_eq_ok {ε : Type u} {α : Type v} {β : Type w} {x : Except ε α}
    {f : α → Except ε β} {b : β} (h : x.bind f = .ok b) : ∃ a, x = .ok a ∧ f a = .ok b := by
  cases x with
  | error error => contradiction
  | ok a => exact ⟨a, rfl, h⟩

/-- What is known of an answer is known of a result that was given. -/
theorem exists_of_toOption_map_eq_some {ε : Type u} {α : Type v} {β : Type w} {x : Except ε α}
    {f : α → β} {b : β} (h : x.toOption.map f = some b) : ∃ a, x = .ok a ∧ f a = b := by
  cases x with
  | error error => contradiction
  | ok a => exact ⟨a, rfl, Option.some.inj h⟩

variable {ε : Type}

/-- What a prepared action runs within a scope. -/
def Scope.stack (scope : Scope ε) (prepared : Prepared ε) : Stack ε :=
  scope.middleware ++ prepared.middleware ++ [prepared.handler]

/-- The patterns that the placeholders of an action stand for: its own go before the defaults. -/
def Prepared.patternOf (prepared : Prepared ε) (defaults : Route.Patterns) (name : String) :
    Option Route.Pattern :=
  prepared.constraints.get? name <|> defaults.get? name

/-- An action is prepared part by part. -/
theorem Action.prepare_eq_ok_iff {aliases : Aliases ε} {resolver : Option (Resolver ε)}
    {space nameStart path : String} {action : Action ε} {prepared : Prepared ε} :
    action.prepare aliases resolver space nameStart path = .ok prepared ↔
      ∃ target, action.target = some target ∧
        target.resolve resolver space = .ok prepared.handler ∧
        Route.Patterns.declareAll .empty action.constraints = .ok prepared.constraints ∧
        Middleware.resolveAll aliases action.middleware = .ok prepared.middleware ∧
        prepared.name = action.name.map (nameStart ++ ·) := by
  constructor
  · intro h
    cases htarget : action.target with
    | none =>
      rw [prepare, htarget] at h
      contradiction
    | some target =>
      rw [prepare, htarget] at h
      obtain ⟨handler, hhandler, h⟩ := exists_of_bind_eq_ok h
      obtain ⟨constraints, hconstraints, h⟩ := exists_of_bind_eq_ok h
      obtain ⟨middleware, hmiddleware, h⟩ := exists_of_bind_eq_ok h
      obtain rfl := Except.ok.inj h
      exact ⟨target, rfl, hhandler, hconstraints, hmiddleware, rfl⟩
  · rintro ⟨target, htarget, hhandler, hconstraints, hmiddleware, hname⟩
    rw [prepare, htarget]
    dsimp only
    rw [hhandler, hconstraints, hmiddleware]
    dsimp only [bind, Except.bind]
    rw [← hname]
    rfl

/-- What a declaration writes: a stack at some segments, and a name for the path. -/
structure Plan (ε : Type) where
  /-- The path that is declared. -/
  path : String
  /-- The segments of the path. -/
  segments : List Route.Segment
  /-- What is found there. -/
  stack : Stack ε
  /-- The name of the path. -/
  name : Option String

/-- What is inserted when a plan is carried out. -/
def Plan.insertions (plan : Plan ε) : Route.History (Stack ε) := .ofRoute plan.segments plan.stack

/-- Insert into the tree of a purpose, one stack after the other. -/
def Router.insertAll (router : Router ε) (purpose : Purpose) (history : Route.History (Stack ε)) :
    Router ε :=
  history.foldl (fun router entry => router.insert purpose entry.1 entry.2) router

/-- Name a path, if there is a name for it. -/
def Router.nameIfGiven (router : Router ε) (name : Option String) (path : String) : Router ε :=
  match name with
  | some name => router.nameRoute name path
  | none => router

/-- Write what was planned. -/
def Plan.carryOut (plan : Plan ε) (purpose : Purpose) (router : Router ε) : Router ε :=
  (router.insertAll purpose plan.insertions).nameIfGiven plan.name plan.path

/-- What a declaration is going to write, if everything is in order. -/
def Router.plan (router : Router ε) (scope : Scope ε) (path : String) (action : Action ε) :
    Except Error (Plan ε) := do
  let path := Path.join scope.base path
  let prepared ← action.prepare router.aliases router.resolver scope.space scope.nameStart path
  let segments ← Route.Segment.ofPath path prepared.constraints router.patterns
  return { path, segments, stack := scope.stack prepared, name := prepared.name }

/-- What is planned is read off the prepared action and the joined path. -/
theorem Router.plan_eq_ok_iff {router : Router ε} {scope : Scope ε} {path : String}
    {action : Action ε} {plan : Plan ε} :
    router.plan scope path action = .ok plan ↔
      ∃ prepared,
        action.prepare router.aliases router.resolver scope.space scope.nameStart
          (Path.join scope.base path) = .ok prepared ∧
        Route.Segment.ofPath (Path.join scope.base path) prepared.constraints router.patterns =
          .ok plan.segments ∧
        plan.path = Path.join scope.base path ∧ plan.stack = scope.stack prepared ∧
        plan.name = prepared.name := by
  constructor
  · intro h
    obtain ⟨prepared, hprepared, h⟩ := exists_of_bind_eq_ok h
    obtain ⟨segments, hsegments, h⟩ := exists_of_bind_eq_ok h
    obtain rfl := Except.ok.inj h
    exact ⟨prepared, hprepared, hsegments, rfl, rfl, rfl⟩
  · rintro ⟨prepared, hprepared, hsegments, hpath, hstack, hname⟩
    obtain ⟨planned, segments, stack, name⟩ := plan
    obtain ⟨rfl, rfl, rfl⟩ := And.intro hpath (And.intro hstack hname)
    rw [plan, hprepared]
    dsimp only [bind, Except.bind]
    rw [hsegments]
    rfl

section Trees

variable (router : Router ε) (purpose : Purpose)

/-- The tree in which the routes of a method are looked up. -/
def Router.tree (router : Router ε) (method : Method) : Route.Tree (Stack ε) :=
  (router.trees.get? method).getD {}

/-- The tree in which what is declared for a purpose is looked up. -/
def Router.treeOf (router : Router ε) : Purpose → Route.Tree (Stack ε)
  | .requests method => router.tree method
  | .files => router.served

/-- The tree of a method without routes is empty. -/
theorem Router.tree_of_fresh {router : Router ε} (hfresh : router.trees = .empty)
    (method : Method) : router.tree method = {} := by
  rw [tree, hfresh, Dict.get?_empty, Option.getD_none]

/-- A stack is inserted into the tree of its purpose, and into no other. -/
theorem Router.treeOf_insert (segments : List Route.Segment) (stack : Stack ε) (other : Purpose) :
    (router.insert purpose segments stack).treeOf other =
      if purpose = other then (router.treeOf other).insert segments stack
      else router.treeOf other := by
  cases purpose with
  | files => cases other <;> rfl
  | requests method =>
    cases other with
    | files => rfl
    | requests m =>
      change ((router.trees.insert method _).get? m).getD {} = _
      rw [Dict.get?_insert]
      by_cases hm : method = m
      · subst hm
        rw [if_pos rfl, if_pos rfl]
        rfl
      · rw [if_neg hm, if_neg (by simpa using hm)]
        rfl

/-- A history is inserted into the tree of its purpose, and into no other. -/
theorem Router.treeOf_insertAll (history : Route.History (Stack ε)) (other : Purpose) :
    (router.insertAll purpose history).treeOf other =
      if purpose = other then (router.treeOf other).insertAll history
      else router.treeOf other := by
  induction history generalizing router with
  | nil => exact (ite_self _).symm
  | cons entry rest ih =>
    have hcons : router.insertAll purpose (entry :: rest) =
        (router.insert purpose entry.1 entry.2).insertAll purpose rest := rfl
    rw [hcons, ih, treeOf_insert]
    split <;> rfl

/-- A stack that is inserted changes the trees and nothing else. -/
theorem Router.exists_insert_eq (segments : List Route.Segment) (stack : Stack ε) :
    ∃ trees served, router.insert purpose segments stack = { router with trees, served } := by
  cases purpose <;> exact ⟨_, _, rfl⟩

/-- A history that is inserted changes the trees and nothing else. -/
theorem Router.exists_insertAll_eq (history : Route.History (Stack ε)) :
    ∃ trees served, router.insertAll purpose history = { router with trees, served } := by
  induction history generalizing router with
  | nil => exact ⟨_, _, rfl⟩
  | cons entry rest ih =>
    obtain ⟨trees, served, hinsert⟩ := router.exists_insert_eq purpose entry.1 entry.2
    obtain ⟨trees', served', hrest⟩ := ih (router.insert purpose entry.1 entry.2)
    refine ⟨trees', served', ?_⟩
    have hcons : router.insertAll purpose (entry :: rest) =
        (router.insert purpose entry.1 entry.2).insertAll purpose rest := rfl
    rw [hcons, hrest, hinsert]

/-- What a method answers is what its tree finds. -/
theorem Router.match?_eq (method : Method) (path : String) :
    router.match? method path =
      (((router.tree method).find? path).map Except.ok).getD
        (.error (.routeNotFound method path)) := by
  have hnone : ({} : Route.Tree (Stack ε)).find? path = none := by
    rw [Route.Tree.find?]
    cases (Path.segments path).map Text.Percent.decode <;> rfl
  rw [match?, tree]
  cases router.trees.get? method with
  | none => rw [Option.getD_none, hnone]; rfl
  | some tree =>
    rw [Option.bind_some, Option.getD_some]
    cases tree.find? path <;> rfl

end Trees

/-- What a router holds after a plan was carried out for some purposes, one after the other. -/
structure Plan.Written (plan : Plan ε) (purposes : List Purpose) (router router' : Router ε) :
    Prop where
  /-- The tree of every purpose is the one it was with the insertions of the plan made in it, once
  for each time that the purpose is among the given ones. -/
  treeOf_eq : ∀ purpose, router'.treeOf purpose =
    (router.treeOf purpose).insertAll
      ((purposes.filter (· = purpose)).flatMap fun _ => plan.insertions)
  /-- The stack is listed wherever it was inserted. -/
  listed : ∀ purpose ∈ purposes, ∀ entry ∈ plan.insertions,
    (entry.1.map fun segment => (Route.Label.ofSegment segment).render, entry.2) ∈
      (router'.treeOf purpose).entries
  /-- The name of the plan is that of its path, and other names are what they were. -/
  names_eq : ∀ name, router'.names.get? name =
    if plan.name = some name then some plan.path else router.names.get? name
  /-- Nothing but trees and names has changed. -/
  kept : ∃ trees served names, router' = { router with trees, served, names }

section CarriedOut

variable (plan : Plan ε) (purpose : Purpose) (router : Router ε)

/-- A path that is named changes the names and nothing else. -/
theorem Router.exists_nameIfGiven_eq (name : Option String) (path : String) :
    ∃ names, router.nameIfGiven name path = { router with names } := by
  cases name <;> exact ⟨_, rfl⟩

/-- What is carried out are routes, served files and names, and nothing else. -/
theorem Plan.exists_carryOut_eq :
    ∃ trees served names, plan.carryOut purpose router = { router with trees, served, names } := by
  obtain ⟨trees, served, hinsert⟩ := router.exists_insertAll_eq purpose plan.insertions
  obtain ⟨names, hname⟩ :=
    (router.insertAll purpose plan.insertions).exists_nameIfGiven_eq plan.name plan.path
  exact ⟨trees, served, names, by rw [carryOut, hname, hinsert]⟩

/-- What is carried out leaves the names of middleware as they are. -/
@[simp] theorem Plan.aliases_carryOut :
    (plan.carryOut purpose router).aliases = router.aliases := by
  obtain ⟨_, _, _, h⟩ := plan.exists_carryOut_eq purpose router
  rw [h]

/-- What is carried out does not change what is planned after it. -/
theorem Plan.plan_carryOut (scope : Scope ε) (path : String) (action : Action ε) :
    (plan.carryOut purpose router).plan scope path action = router.plan scope path action := by
  obtain ⟨_, _, _, h⟩ := plan.exists_carryOut_eq purpose router
  rw [h]
  rfl

/-- A plan that is carried out for a purpose is inserted into the tree of that purpose. -/
theorem Plan.treeOf_carryOut (other : Purpose) :
    (plan.carryOut purpose router).treeOf other =
      if purpose = other then (router.treeOf other).insertAll plan.insertions
      else router.treeOf other := by
  obtain ⟨names, hname⟩ :=
    (router.insertAll purpose plan.insertions).exists_nameIfGiven_eq plan.name plan.path
  rw [carryOut, hname, ← Router.treeOf_insertAll]
  cases other <;> rfl

/-- A plan that is carried out names its path, if it has a name, whatever it is carried out for. -/
theorem Plan.names_carryOut :
    (plan.carryOut purpose router).names =
      match plan.name with
      | some name => router.names.insert name plan.path
      | none => router.names := by
  obtain ⟨trees, served, hinsert⟩ := router.exists_insertAll_eq purpose plan.insertions
  rw [carryOut, hinsert]
  cases plan.name <;> rfl

/-- In a router without routes one that is carried out answers what a tree of it alone finds. -/
theorem Plan.match?_carryOut_of_fresh {router : Router ε} (hfresh : router.trees = .empty)
    (method : Method) (path : String) :
    (plan.carryOut (.requests method) router).match? method path =
      (((Route.Tree.ofHistory plan.insertions).find? path).map Except.ok).getD
        (.error (.routeNotFound method path)) := by
  have htree : (plan.carryOut (.requests method) router).tree method =
      .ofHistory plan.insertions := by
    have hinserted := plan.treeOf_carryOut (.requests method) router (.requests method)
    rw [if_pos rfl] at hinserted
    refine hinserted.trans ?_
    rw [Router.treeOf, Router.tree_of_fresh hfresh, Route.Tree.insertAll_empty]
  rw [Router.match?_eq, htree]

/-- Where nothing was declared before, a request gets what the insertions of the plan lead it to. -/
theorem Plan.match?_carryOut_eq_ok_iff {router : Router ε} (hfresh : router.trees = .empty)
    {method : Method} {path : String} {found : Stack ε × Dict String String} :
    (plan.carryOut (.requests method) router).match? method path = .ok found ↔
      (Route.Tree.ofHistory plan.insertions).find? path = some found := by
  rw [plan.match?_carryOut_of_fresh hfresh]
  cases (Route.Tree.ofHistory plan.insertions).find? path with
  | none => exact ⟨nofun, nofun⟩
  | some answered => rw [Option.map_some, Option.getD_some, Except.ok.injEq, Option.some.injEq]

/-- What is carried out for one purpose is written for it. -/
theorem Plan.Written.carryOut : plan.Written [purpose] router (plan.carryOut purpose router) where
  treeOf_eq other := by
    rw [treeOf_carryOut, List.filter_cons]
    by_cases h : purpose = other
    · rw [if_pos h, if_pos (decide_eq_true h), List.filter_nil, List.flatMap_singleton]
    · rw [if_neg h, if_neg (by simpa using h)]
      rfl
  listed := by
    rw [List.forall_mem_singleton, treeOf_carryOut, if_pos rfl]
    exact Route.Tree.mem_entries_insertAll_ofRoute _ plan.segments plan.stack
  names_eq name := by
    rw [names_carryOut]
    cases plan.name with
    | none => rfl
    | some given => simp only [Dict.get?_insert, Option.some.injEq]
  kept := plan.exists_carryOut_eq purpose router

/-- What is written for more purposes after the first is written for all of them. -/
theorem Plan.Written.append {plan : Plan ε} {front back : List Purpose}
    {router router' router'' : Router ε} (hfront : plan.Written front router router')
    (hback : plan.Written back router' router'') :
    plan.Written (front ++ back) router router'' where
  treeOf_eq purpose := by
    rw [hback.treeOf_eq, hfront.treeOf_eq, ← Route.Tree.insertAll_append, List.filter_append,
      List.flatMap_append]
  listed purpose hpurpose entry hentry := by
    by_cases hmem : purpose ∈ back
    · exact hback.listed purpose hmem entry hentry
    -- Nothing was inserted into this tree afterwards.
    · have hnone : back.filter (· = purpose) = [] :=
        List.filter_eq_nil_iff.mpr fun other hother heq =>
          hmem (of_decide_eq_true heq ▸ hother)
      have htree : router''.treeOf purpose = router'.treeOf purpose := by
        rw [hback.treeOf_eq, hnone]
        rfl
      rw [htree]
      exact hfront.listed purpose ((List.mem_append.mp hpurpose).resolve_right hmem) entry hentry
  names_eq name := by
    rw [hback.names_eq, hfront.names_eq]
    split <;> rfl
  kept := by
    obtain ⟨trees, served, names, rfl⟩ := hfront.kept
    obtain ⟨trees', served', names', rfl⟩ := hback.kept
    exact ⟨trees', served', names', rfl⟩

end CarriedOut

namespace Registration

section Application

variable {α β : Type} (scope : Scope ε) (router : Router ε)

theorem pure_apply (a : α) : (pure a : Registration ε α) scope router = (.ok a, router) := rfl

theorem read_apply : (read : Registration ε (Scope ε)) scope router = (.ok scope, router) := rfl

theorem get_apply : (get : Registration ε (Router ε)) scope router = (.ok router, router) := rfl

/-- A value that is required is used, or the error in its place ends the declaration. -/
theorem require_apply (value : Except Error α) :
    (require value : Registration ε α) scope router = (value, router) := by
  cases value <;> rfl

/-- What comes second is declared where the first left the router, unless the first failed. -/
theorem bind_apply (first : Registration ε α) (second : α → Registration ε β) :
    (first >>= second) scope router =
      match first scope router with
      | (.ok a, router') => second a scope router'
      | (.error error, router') => (.error error, router') := by
  have hbind : (first >>= second) scope router =
      ExceptT.bindCont (m := StateM (Router ε)) (fun a => second a scope)
        (first scope router).1 (first scope router).2 := rfl
  rw [hbind]
  obtain ⟨_ | _, _⟩ := first scope router <;> rfl

/-- What is declared within another scope does not see the one outside. -/
theorem withReader_apply (inner : Scope ε) (body : Registration ε α) :
    (withReader (fun _ => inner) body : Registration ε α) scope router = body inner router := rfl

/-- The body of a group is declared in a scope of its own, if its middleware is known. -/
theorem group_apply (options : GroupOptions ε) (body : Registration ε α) :
    group options body scope router =
      match Middleware.resolveAll router.aliases options.middleware with
      | .ok middleware => body (scope.nest options middleware) router
      | .error error => (.error error, router) := by
  have hgroup : group options body scope router =
      ((do
        let middleware ← require (Middleware.resolveAll router.aliases options.middleware)
        withReader (fun _ => scope.nest options middleware) body) : Registration ε α)
          scope router := rfl
  rw [hgroup]
  cases Middleware.resolveAll router.aliases options.middleware <;> rfl

end Application

/-- A pattern becomes the default of a parameter, or it is none and changes nothing. -/
theorem pattern_apply (param source : String) (scope : Scope ε) (router : Router ε) :
    pattern param source scope router =
      match Route.Pattern.compile param source with
      | .ok pattern => (.ok (), router.keepPattern param pattern)
      | .error error => (.error error, router) := by
  rw [pattern, bind_apply, require_apply]
  cases Route.Pattern.compile param source <;> rfl

/-- A declaration within a scope carries out its plan, or it fails and changes nothing. -/
theorem declare_apply (purpose : Purpose) (path : String) (action : Action ε) (scope : Scope ε)
    (router : Router ε) :
    declare purpose path action scope router =
      match router.plan scope path action with
      | .ok plan => (.ok (), plan.carryOut purpose router)
      | .error error => (.error error, router) := by
  rw [declare, bind_apply, read_apply]
  dsimp only
  rw [bind_apply, get_apply]
  dsimp only
  rw [bind_apply, require_apply]
  cases hprepared : action.prepare router.aliases router.resolver scope.space scope.nameStart
      (Path.join scope.base path) with
  | error error =>
    rw [Router.plan, hprepared]
    rfl
  | ok prepared =>
    dsimp only
    rw [bind_apply, require_apply]
    cases hsegments : Route.Segment.ofPath (Path.join scope.base path) prepared.constraints
        router.patterns with
    | error error =>
      rw [Router.plan, hprepared]
      dsimp only [bind, Except.bind]
      rw [hsegments]
    | ok segments =>
      rw [Router.plan, hprepared]
      dsimp only [bind, Except.bind]
      rw [hsegments]
      dsimp only [pure, Except.pure]
      rw [Plan.carryOut, Plan.insertions, Route.History.ofRoute]
      dsimp only
      cases segments.getLast?.any Route.Segment.isOptional <;> cases prepared.name <;> rfl

/-- A route that is declared with success carries out its plan. -/
theorem exists_plan_of_route {method : Method} {path : String} {action : Action ε}
    {scope : Scope ε} {router router' : Router ε}
    (h : route method path action scope router = (.ok (), router')) :
    ∃ plan, router.plan scope path action = .ok plan ∧
      router' = plan.carryOut (.requests method) router := by
  rw [route, declare_apply] at h
  cases hplan : router.plan scope path action with
  | error error =>
    rw [hplan] at h
    exact absurd (congrArg Prod.fst h) nofun
  | ok plan =>
    rw [hplan] at h
    exact ⟨plan, rfl, (congrArg Prod.snd h).symm⟩

end Registration

end Signpost
