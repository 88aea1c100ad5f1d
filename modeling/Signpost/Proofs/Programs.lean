import Signpost.Proofs.Groups

/-!
# Programs that declare routes

A program makes one call after the other, each with regard to how the calls before it ended: it may
go on where one failed.  Its routes are those that were declared with success, in their order.  Main
statement: after a program the trees and the names are what they were before it with its routes
inserted, one after the other, and nothing else changes them.
-/

namespace Signpost

variable {ε : Type}

/-- A plan that was made by some router. -/
def Plan.IsMade (plan : Plan ε) : Prop :=
  ∃ (router : Router ε) (scope : Scope ε) (path : String) (action : Action ε),
    router.plan scope path action = .ok plan

/-- Routes that were declared, in their order. -/
abbrev Journal (ε : Type) := List (Method × Plan ε)

/-- What the routes of a method were inserted as. -/
def Journal.history (journal : Journal ε) (method : Method) : Route.History (Stack ε) :=
  journal.flatMap fun route => if route.1 = method then route.2.insertions else []

/-- The names that routes were given, each with the path it was given to. -/
def Journal.named (journal : Journal ε) : List (String × Route.Template) :=
  journal.filterMap fun route => route.2.name.map (·, route.2.path)

/-- The names after more paths were named. -/
def Route.Names.insertAll (names : Route.Names) (named : List (String × Route.Template)) :
    Route.Names :=
  named.foldl (fun names entry => names.insert entry.1 entry.2) names

/-- The routes that a declaration leaves within a scope, depending on where it begins. -/
abbrev Routes (ε : Type) := Scope ε → Router ε → Journal ε

namespace Registration

/-- Declare routes one after the other. -/
def routeAll (calls : List (Method × String × Action ε)) : Registration ε Unit :=
  calls.forM fun call => route call.1 call.2.1 call.2.2

/-- Go on from a declaration, knowing how it ended. -/
def attempt (first : Registration ε Unit) (next : Except Error Unit → Registration ε Unit) :
    Registration ε Unit := fun scope router =>
  next (first scope router).1 scope (first scope router).2

/-- The routes that are declared one after the other, up to the first that fails. -/
def routesOfAll : List (Method × String × Action ε) → Routes ε
  | [], _, _ => []
  | (method, path, action) :: rest, scope, router =>
    match router.plan scope path action with
    | .ok plan =>
      (method, plan) :: routesOfAll rest scope (plan.carryOut (.requests method) router)
    | .error _ => []

/-- The routes of a group are those of its body, if its middleware is known. -/
def routesOfGroup (options : GroupOptions ε) (body : Routes ε) : Routes ε := fun scope router =>
  match Middleware.resolveAll router.aliases options.middleware with
  | .ok middleware => body (scope.nest options middleware) router
  | .error _ => []

/-- The routes of a declaration and of what comes after it. -/
def routesOfAttempt (first : Registration ε Unit) (routes : Routes ε)
    (next : Except Error Unit → Routes ε) : Routes ε := fun scope router =>
  routes scope router ++ next (first scope router).1 scope (first scope router).2

/-- The calls that a controller's methods stand for. -/
def callsOf (options : Dict String (ActionOptions ε)) (controller : Controller ε) :
    List (Method × String × Action ε) :=
  controller.flatMap fun entry => (methodRoutes entry.1).map fun found =>
    (found.1, found.2,
      { target := some (.handler entry.2)
        middleware := ((options.get? entry.1).getD {}).middleware
        name := ((options.get? entry.1).getD {}).name })

/-- The routes of a controller, if it is found. -/
def routesOfController (path name : String) (options : Dict String (ActionOptions ε)) :
    Routes ε := fun scope router =>
  match router.resolver with
  | none => []
  | some resolver =>
    match resolver name scope.space with
    | .ok controller =>
      routesOfGroup { base := path } (routesOfAll (callsOf options controller)) scope router
    | .error _ => []

end Registration

/-- The routes of a single declaration. -/
def Declaration.routes : Declaration ε → Routes ε
  | .route method path action => Registration.routesOfAll [(method, path, action)]
  | .matching methods path action =>
    Registration.routesOfAll (methods.map (·, path, action))
  | .any path action => Registration.routesOfAll (Method.all.map (·, path, action))
  | .serve _ _ _ => fun _ _ => []
  | .pattern _ _ => fun _ _ => []

/-- What is set up in a router beside what is declared. -/
inductive Setup (ε : Type)
  /-- A name for middleware. -/
  | middleware (name : String) (run : Handler ε)
  /-- Where controllers are found. -/
  | controllers (resolver : Resolver ε)
  /-- One more error handler. -/
  | errorHandler (run : ErrorHandler ε)

/-- Set something up. -/
def Setup.apply : Setup ε → Router ε → Router ε
  | .middleware name run, router => router.nameMiddleware name run
  | .controllers resolver, router => { router with resolver := some resolver }
  | .errorHandler run, router => router.addErrorHandler run

/-- Calls made one after the other, each with regard to how those before it ended. -/
inductive Program (ε : Type)
  /-- Come to an end. -/
  | done (result : Except Error Unit)
  /-- Set something up. -/
  | setup (change : Setup ε) (next : Program ε)
  /-- A single declaration. -/
  | single (declaration : Declaration ε) (next : Except Error Unit → Program ε)
  /-- The routes of a controller. -/
  | controller (path name : String) (options : Dict String (ActionOptions ε))
    (next : Except Error Unit → Program ε)
  /-- A group, whose body is a program itself. -/
  | group (options : GroupOptions ε) (body : Program ε) (next : Except Error Unit → Program ε)

namespace Program

/-- Make the calls of a program. -/
def register : Program ε → Registration ε Unit
  | .done result => Registration.require result
  | .setup change next => do
    modify change.apply
    next.register
  | .single declaration next =>
    Registration.attempt declaration.register fun result => (next result).register
  | .controller path name options next =>
    Registration.attempt (Registration.controller path name options) fun result =>
      (next result).register
  | .group options body next =>
    Registration.attempt (Registration.group options body.register) fun result =>
      (next result).register

/-- The routes that a program declares. -/
def routes : Program ε → Routes ε
  | .done _ => fun _ _ => []
  | .setup change next => fun scope router => next.routes scope (change.apply router)
  | .single declaration next =>
    Registration.routesOfAttempt declaration.register declaration.routes fun result =>
      (next result).routes
  | .controller path name options next =>
    Registration.routesOfAttempt (Registration.controller path name options)
      (Registration.routesOfController path name options) fun result => (next result).routes
  | .group options body next =>
    Registration.routesOfAttempt (Registration.group options body.register)
      (Registration.routesOfGroup options body.routes) fun result => (next result).routes

end Program

/-- To declare a handler alone gives no name. -/
theorem Router.name_of_plan_ofHandler {router : Router ε} {scope : Scope ε} {path : String}
    {run : Handler ε} {plan : Plan ε}
    (h : router.plan scope path (.ofHandler run) = .ok plan) : plan.name = none := by
  obtain ⟨prepared, hprepared, -, -, -, hname⟩ := Router.plan_eq_ok_iff.mp h
  obtain ⟨-, -, -, -, -, hprefixed⟩ := Action.prepare_eq_ok_iff.mp hprepared
  rw [hname, hprefixed]
  rfl

/-- A longer journal adds its insertions to the history of each method. -/
theorem Journal.history_append (front back : Journal ε) (method : Method) :
    Journal.history (front ++ back) method = front.history method ++ back.history method :=
  List.flatMap_append

private theorem Route.Names.insertAll_append (names : Route.Names)
    (front back : List (String × Route.Template)) :
    names.insertAll (front ++ back) = (names.insertAll front).insertAll back := List.foldl_append

/-- It adds its names behind those before. -/
theorem Journal.named_append (front back : Journal ε) :
    Journal.named (front ++ back) = front.named ++ back.named := List.filterMap_append

/-- Whether a router came by these routes: its trees and its names are what they were with the
routes inserted, and all of them were planned by a router. -/
structure Router.Gains (router : Router ε) (journal : Journal ε) (router' : Router ε) : Prop where
  tree_eq : ∀ method, router'.tree method = (router.tree method).insertAll (journal.history method)
  isMade : ∀ route ∈ journal, route.2.IsMade
  names_eq : router'.names = router.names.insertAll journal.named

namespace Router.Gains

/-- With the same trees and the same names there are no more routes. -/
theorem of_eq {router router' : Router ε}
    (htrees : ∀ method, router'.tree method = router.tree method)
    (hnames : router'.names = router.names) : router.Gains [] router' :=
  ⟨htrees, nofun, hnames⟩

private theorem refl (router : Router ε) : router.Gains [] router := of_eq (fun _ => rfl) rfl

/-- Routes that come later are added to those that came before. -/
theorem trans {router router' router'' : Router ε} {front back : Journal ε}
    (hfront : router.Gains front router') (hback : router'.Gains back router'') :
    router.Gains (front ++ back) router'' := by
  constructor
  · intro method
    rw [hback.tree_eq, hfront.tree_eq, Journal.history_append, Route.Tree.insertAll_append]
  · rw [List.forall_mem_append]
    exact ⟨hfront.isMade, hback.isMade⟩
  · rw [hback.names_eq, hfront.names_eq, Journal.named_append, Route.Names.insertAll_append]

/-- A plan that is carried out for a method is one more route. -/
theorem carryOut {router : Router ε} {scope : Scope ε} {path : String} {action : Action ε}
    {plan : Plan ε} (h : router.plan scope path action = .ok plan) (method : Method) :
    router.Gains [(method, plan)] (plan.carryOut (.requests method) router) := by
  refine ⟨fun m => ?_, List.forall_mem_singleton.mpr ⟨router, scope, path, action, h⟩, ?_⟩
  · have hhistory : Journal.history [(method, plan)] m =
        if method = m then plan.insertions else [] := List.append_nil _
    have htree := plan.treeOf_carryOut (.requests method) router (.requests m)
    simp only [Purpose.requests.injEq] at htree
    rw [hhistory]
    refine htree.trans ?_
    split <;> rfl
  · rw [plan.names_carryOut, Journal.named, List.filterMap_cons]
    cases plan.name <;> rfl

end Router.Gains

namespace Registration

/-- Whether a declaration leaves these routes, wherever it is made. -/
def Leaves (registration : Registration ε Unit) (routes : Routes ε) : Prop :=
  ∀ (scope : Scope ε) (router : Router ε),
    router.Gains (routes scope router) (registration scope router).2

private theorem matching_eq_routeAll (methods : List Method) (path : String) (action : Action ε) :
    matching methods path action = routeAll (methods.map (·, path, action)) := by
  rw [matching, routeAll, List.forM_eq_forM, List.forM_eq_forM, List.forM_map]

/-- The methods of a controller are declared one after the other. -/
theorem methods_eq_routeAll (options : Dict String (ActionOptions ε))
    (controller : Controller ε) :
    methods options controller = routeAll (callsOf options controller) := by
  induction controller with
  | nil => rfl
  | cons entry rest ih =>
    have hcalls : callsOf options (entry :: rest) =
        (methodRoutes entry.1).map (fun found => (found.1, found.2,
          { target := some (.handler entry.2)
            middleware := ((options.get? entry.1).getD {}).middleware
            name := ((options.get? entry.1).getD {}).name })) ++ callsOf options rest := rfl
    have hrest : (forM (callsOf options rest) fun call => route call.1 call.2.1 call.2.2) =
        methods options rest := ih.symm
    rw [hcalls, routeAll, List.forM_eq_forM, List.forM_append, List.forM_map, hrest]
    rfl

namespace Leaves

variable {registration : Registration ε Unit} {routes : Routes ε}

/-- What comes after a declaration adds its routes to those that are there. -/
theorem attempt {next : Except Error Unit → Registration ε Unit}
    {nextRoutes : Except Error Unit → Routes ε} (hfirst : Leaves registration routes)
    (hnext : ∀ result, Leaves (next result) (nextRoutes result)) :
    Leaves (Registration.attempt registration next)
      (routesOfAttempt registration routes nextRoutes) :=
  fun scope router => (hfirst scope router).trans (hnext _ scope _)

/-- Routes are left one by one, up to the first that fails. -/
theorem routeAll (calls : List (Method × String × Action ε)) :
    Leaves (Registration.routeAll calls) (routesOfAll calls) := by
  induction calls with
  | nil => exact fun _ router => .refl router
  | cons call rest ih =>
    obtain ⟨method, path, action⟩ := call
    intro scope router
    have hcons : Registration.routeAll ((method, path, action) :: rest) =
        route method path action >>= fun _ => Registration.routeAll rest := rfl
    rw [hcons, bind_apply, route, declare_apply, routesOfAll]
    cases hplan : router.plan scope path action with
    | error error => exact .refl router
    | ok plan => exact (Router.Gains.carryOut hplan method).trans (ih scope _)

private theorem group (options : GroupOptions ε) (h : Leaves registration routes) :
    Leaves (Registration.group options registration) (routesOfGroup options routes) := by
  intro scope router
  rw [group_apply, routesOfGroup]
  cases Middleware.resolveAll router.aliases options.middleware with
  | error error => exact .refl router
  | ok middleware => exact h (scope.nest options middleware) router

private theorem controller (path name : String) (options : Dict String (ActionOptions ε)) :
    Leaves (Registration.controller path name options)
      (routesOfController path name options) := by
  intro scope router
  rw [controller_apply, routesOfController]
  cases router.resolver with
  | none => exact .refl router
  | some resolver =>
    dsimp only
    cases resolver name scope.space with
    | error error => exact .refl router
    | ok actions =>
      dsimp only
      rw [methods_eq_routeAll]
      exact (routeAll (callsOf options actions)).group { base := path } scope router

private theorem declaration (declaration : Declaration ε) :
    Leaves declaration.register declaration.routes := by
  cases declaration with
  | route method path action =>
    have hone : Registration.routeAll [(method, path, action)] = route method path action :=
      bind_pure_unit
    rw [Declaration.register, ← hone]
    exact routeAll [(method, path, action)]
  | matching methods path action =>
    rw [Declaration.register, matching_eq_routeAll]
    exact routeAll _
  | any path action =>
    rw [Declaration.register, any, matching_eq_routeAll]
    exact routeAll _
  | serve files path dir =>
    intro scope router
    rw [Declaration.register, serve, declare_apply]
    cases hplan : router.plan scope path (.ofHandler (dir.handler files)) with
    | error error => exact .refl router
    | ok plan =>
      have htree (method : Method) : (plan.carryOut .files router).tree method =
          router.tree method := plan.treeOf_carryOut .files router (.requests method)
      refine .of_eq htree ?_
      rw [plan.names_carryOut, Router.name_of_plan_ofHandler hplan]
  | pattern param source =>
    intro scope router
    rw [Declaration.register, pattern_apply]
    cases Route.Pattern.compile param source with
    | error error => exact .refl router
    | ok pattern => exact .of_eq (fun _ => rfl) rfl

end Leaves

end Registration

/-- What is set up is no route. -/
theorem Setup.gains_apply (change : Setup ε) (router : Router ε) :
    router.Gains [] (change.apply router) := by
  cases change <;> exact .of_eq (fun _ => rfl) rfl

/-- A program leaves the routes that it declares. -/
theorem Program.leaves (program : Program ε) :
    Registration.Leaves program.register program.routes := by
  induction program with
  | done result =>
    intro scope router
    cases result <;> exact .refl router
  | setup change next ih =>
    intro scope router
    exact (change.gains_apply router).trans (ih scope (change.apply router))
  | single declaration next ih => exact (Registration.Leaves.declaration declaration).attempt ih
  | controller path name options next ih =>
    exact (Registration.Leaves.controller path name options).attempt ih
  | group options body next hbody hnext => exact (hbody.group options).attempt hnext

end Signpost
