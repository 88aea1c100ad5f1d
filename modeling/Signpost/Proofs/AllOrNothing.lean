import Signpost.Proofs.Registration

/-!
# All or nothing

A single declaration is made as a whole or not at all: all of its steps that can fail come before
the first that writes.  This is also so when it is made for several methods, where writing for one
method comes before looking everything up for the next, since whether it succeeds depends neither
on the method nor on what was declared for the methods before.  Main statement: a declaration that
fails leaves the router as it is, one for several methods that succeeds is carried out for each of
them, and a group whose middleware is unknown never comes to its body.
-/

namespace Signpost

variable {ε : Type}

/-- A single declaration. -/
inductive Declaration (ε : Type)
  /-- A route of one method. -/
  | route (method : Method) (path : String) (action : Action ε)
  /-- A route of several methods. -/
  | matching (methods : List Method) (path : String) (action : Action ε)
  /-- A route of every method. -/
  | any (path : String) (action : Action ε)
  /-- A directory that is served. -/
  | serve (files : Files.Tree) (path : String) (dir : Files.Directory)
  /-- The default pattern of a parameter. -/
  | pattern (param source : String)

/-- Make a declaration. -/
def Declaration.register : Declaration ε → Registration ε Unit
  | .route method path action => Registration.route method path action
  | .matching methods path action => Registration.matching methods path action
  | .any path action => Registration.any path action
  | .serve files path dir => Registration.serve files path dir
  | .pattern param source => Registration.pattern param source

/-- Write what was planned for each of several methods. -/
def Plan.carryOutFor (plan : Plan ε) (methods : List Method) (router : Router ε) : Router ε :=
  methods.foldl (fun router method => plan.carryOut (.requests method) router) router

/-- What is carried out for some methods is written for them. -/
theorem Plan.Written.carryOutFor (plan : Plan ε) (method : Method) (rest : List Method)
    (router : Router ε) :
    plan.Written ((method :: rest).map .requests) router
      (plan.carryOutFor (method :: rest) router) := by
  induction rest generalizing method router with
  | nil => exact .carryOut plan (.requests method) router
  | cons next rest ih =>
    exact (Written.carryOut plan (.requests method) router).append (ih next _)

namespace Registration

section Effects

variable {α β : Type}

/-- A step that leaves the router as it is. -/
def Looks (step : Registration ε α) : Prop :=
  ∀ scope router, (step scope router).2 = router

/-- A step that cannot fail. -/
def Succeeds (step : Registration ε α) : Prop :=
  ∀ scope router, ∃ a, (step scope router).1 = .ok a

/-- A declaration that leaves the router as it is whenever it fails. -/
def Atomic (declaration : Registration ε α) : Prop :=
  ∀ scope router error, (declaration scope router).1 = .error error →
    (declaration scope router).2 = router

private theorem Looks.read : Looks (read : Registration ε (Scope ε)) := fun _ _ => rfl

private theorem Looks.get : Looks (get : Registration ε (Router ε)) := fun _ _ => rfl

private theorem Looks.require (value : Except Error α) :
    Looks (Registration.require value : Registration ε α) := by
  intro scope router
  rw [require_apply]

private theorem Succeeds.pure (a : α) :
    Succeeds (Pure.pure a : Registration ε α) := fun _ _ => ⟨a, rfl⟩

private theorem Succeeds.modify (change : Router ε → Router ε) :
    Succeeds (modify change : Registration ε Unit) := fun _ _ => ⟨(), rfl⟩

/-- Steps that cannot fail do not fail one after the other. -/
theorem Succeeds.bind {first : Registration ε α} {second : α → Registration ε β}
    (hfirst : Succeeds first) (hsecond : ∀ a, Succeeds (second a)) :
    Succeeds (first >>= second) := by
  intro scope router
  obtain ⟨a, ha⟩ := hfirst scope router
  rw [bind_apply]
  rcases hresult : first scope router with ⟨result, router'⟩
  obtain rfl : result = .ok a := by rw [← ha, hresult]
  exact hsecond a scope router'

/-- What cannot fail writes as it likes. -/
theorem Succeeds.atomic {step : Registration ε α} (h : Succeeds step) : Atomic step := by
  intro scope router error herror
  obtain ⟨a, ha⟩ := h scope router
  rw [ha] at herror
  contradiction

/-- To look first is to fail before anything was written. -/
theorem Looks.bind_atomic {first : Registration ε α} {second : α → Registration ε β}
    (hfirst : Looks first) (hsecond : ∀ a, Atomic (second a)) : Atomic (first >>= second) := by
  intro scope router error herror
  have hkept := hfirst scope router
  rw [bind_apply] at herror ⊢
  rcases hresult : first scope router with ⟨failed | a, router'⟩
  · rw [hresult] at hkept
    exact hkept
  · rw [hresult] at hkept herror
    obtain rfl : router' = router := hkept
    exact hsecond a scope router' error herror

/-- What is declared with success or not at all. -/
theorem Atomic.cases {declaration : Registration ε Unit} (h : Atomic declaration)
    (scope : Scope ε) (router : Router ε) :
    (∃ router', declaration scope router = (.ok (), router')) ∨
    ∃ error, declaration scope router = (.error error, router) := by
  have hkept := h scope router
  rcases hresult : declaration scope router with ⟨error | _, router'⟩
  · rw [hresult] at hkept
    exact Or.inr ⟨error, congrArg (Prod.mk _) (hkept error rfl)⟩
  · exact Or.inl ⟨router', rfl⟩

/-- A declaration looks everything up, and then it writes. -/
theorem atomic_declare (purpose : Purpose) (path : String) (action : Action ε) :
    Atomic (declare purpose path action) := by
  refine Looks.read.bind_atomic fun scope => Looks.get.bind_atomic fun router => ?_
  refine (Looks.require _).bind_atomic fun prepared => (Looks.require _).bind_atomic
    fun segments => Succeeds.atomic ?_
  refine (Succeeds.modify _).bind fun _ => ?_
  dsimp only
  cases prepared.name with
  | none =>
    cases segments.getLast?.any Route.Segment.isOptional with
    | true => exact (Succeeds.modify _).bind fun _ => .pure ()
    | false => exact Succeeds.pure ()
  | some name =>
    cases segments.getLast?.any Route.Segment.isOptional with
    | true => exact (Succeeds.modify _).bind fun _ => .modify _
    | false => exact Succeeds.modify _

/-- A pattern is compiled, and then it is kept. -/
theorem atomic_pattern (param source : String) :
    Atomic (pattern param source : Registration ε Unit) :=
  (Looks.require _).bind_atomic fun _ => (Succeeds.modify _).atomic

end Effects

section Matching

variable {scope : Scope ε} {router : Router ε} {path : String} {action : Action ε}

private theorem matching_cons (method : Method) (rest : List Method) (path : String)
    (action : Action ε) :
    matching (method :: rest) path action =
      route method path action >>= fun _ => matching rest path action := rfl

/-- A plan that can be made is carried out for every method. -/
theorem matching_of_plan_eq_ok {plan : Plan ε} (h : router.plan scope path action = .ok plan)
    (methods : List Method) :
    matching methods path action scope router = (.ok (), plan.carryOutFor methods router) := by
  induction methods generalizing router with
  | nil => rfl
  | cons method rest ih =>
    have hroute : route method path action scope router =
        (.ok (), plan.carryOut (.requests method) router) := by
      rw [route, declare_apply, h]
    -- For the next method the same is planned, though the router is not the same.
    have hplan := (plan.plan_carryOut (.requests method) router scope path action).trans h
    rw [matching_cons, bind_apply, hroute]
    exact ih hplan

/-- Without a plan it comes to no method after the first. -/
theorem matching_of_plan_eq_error {error : Error}
    (h : router.plan scope path action = .error error) (method : Method) (rest : List Method) :
    matching (method :: rest) path action scope router = (.error error, router) := by
  have hroute : route method path action scope router = (.error error, router) := by
    rw [route, declare_apply, h]
  rw [matching_cons, bind_apply, hroute]

/-- A declaration for some methods carries out one plan for all, or it fails and changes
nothing. -/
theorem matching_cons_apply (method : Method) (rest : List Method) (path : String)
    (action : Action ε) (scope : Scope ε) (router : Router ε) :
    matching (method :: rest) path action scope router =
      match router.plan scope path action with
      | .ok plan => (.ok (), plan.carryOutFor (method :: rest) router)
      | .error error => (.error error, router) := by
  cases hplan : router.plan scope path action with
  | ok plan => exact matching_of_plan_eq_ok hplan (method :: rest)
  | error error => exact matching_of_plan_eq_error hplan method rest

end Matching

/-- For several methods the same is carried out for each, or nothing for any; which of the two does
not depend on the methods. -/
theorem matching_cases (methods : List Method) (path : String) (action : Action ε)
    (scope : Scope ε) (router : Router ε) :
    (∃ plan : Plan ε, (methods ≠ [] → router.plan scope path action = .ok plan) ∧
      matching methods path action scope router = (.ok (), plan.carryOutFor methods router)) ∨
    ∃ error, router.plan scope path action = .error error ∧
      matching methods path action scope router = (.error error, router) := by
  cases methods with
  | nil => exact Or.inl ⟨⟨path, [], [], none⟩, fun h => absurd rfl h, rfl⟩
  | cons method rest =>
    rw [matching_cons_apply]
    cases router.plan scope path action with
    | ok plan => exact Or.inl ⟨plan, fun _ => rfl, rfl⟩
    | error error => exact Or.inr ⟨error, rfl, rfl⟩

private theorem atomic_matching (methods : List Method) (path : String) (action : Action ε) :
    Atomic (matching methods path action) := by
  intro scope router error herror
  rcases matching_cases methods path action scope router with
    ⟨plan, -, hmatching⟩ | ⟨failure, -, hmatching⟩
  · rw [hmatching] at herror
    contradiction
  · rw [hmatching]

/-- A single declaration leaves the router as it is whenever it fails. -/
theorem atomic_register (declaration : Declaration ε) : Atomic declaration.register := by
  cases declaration with
  | route method path action => exact atomic_declare (.requests method) path action
  | matching methods path action => exact atomic_matching methods path action
  | any path action => exact atomic_matching Method.all path action
  | serve files path dir => exact atomic_declare .files path (.ofHandler (dir.handler files))
  | pattern param source => exact atomic_pattern param source

/-- Single declarations are all or nothing, for one method as for several, and so is what a group
begins with. -/
theorem all_or_nothing :
    (∀ (declaration : Declaration ε) (scope : Scope ε) (router : Router ε),
      (∃ router', declaration.register scope router = (.ok (), router')) ∨
      ∃ error, declaration.register scope router = (.error error, router)) ∧
    (∀ (methods : List Method) (path : String) (action : Action ε) (scope : Scope ε)
        (router : Router ε),
      (∃ plan : Plan ε, (methods ≠ [] → router.plan scope path action = .ok plan) ∧
        matching methods path action scope router = (.ok (), plan.carryOutFor methods router)) ∨
      ∃ error, router.plan scope path action = .error error ∧
        matching methods path action scope router = (.error error, router)) ∧
    ∀ {α : Type} (options : GroupOptions ε) (body : Registration ε α) (scope : Scope ε)
        (router : Router ε),
      (∃ middleware, Middleware.resolveAll router.aliases options.middleware = .ok middleware ∧
        group options body scope router = body (scope.nest options middleware) router) ∨
      ∃ error, Middleware.resolveAll router.aliases options.middleware = .error error ∧
        group options body scope router = (.error error, router) := by
  refine ⟨fun declaration => (atomic_register declaration).cases, matching_cases,
    fun options body scope router => ?_⟩
  rw [group_apply]
  cases Middleware.resolveAll router.aliases options.middleware with
  | ok middleware => exact Or.inl ⟨middleware, rfl, rfl⟩
  | error error => exact Or.inr ⟨error, rfl, rfl⟩

end Registration

end Signpost
