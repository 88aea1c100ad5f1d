import Signpost.Proofs.AllOrNothing
import Signpost.Proofs.Path

/-!
# Groups in groups

A group in a group is one group, whose texts are those of both with a slash or nothing between them
and whose middleware is that of the outer one before that of the inner one.  So what is declared in
any number of groups could be declared in a group of its own.  Main statement: this holds for every
body and, one declaration after the other, for every outline of groups; and a route in several
groups gets the middleware, the name and the namespace of all of them, from the outermost in.
-/

namespace Signpost

variable {ε : Type}

namespace GroupOptions

end GroupOptions

/-- What is written down in a group: declarations one after the other, some of them groups. -/
inductive Outline (ε : Type)
  /-- A single declaration. -/
  | single (declaration : Declaration ε)
  /-- The routes of a controller. -/
  | controller (path name : String) (options : Dict String (ActionOptions ε))
  /-- A group. -/
  | group (options : GroupOptions ε) (body : List (Outline ε))

namespace Registration

/-- Make a declaration within several groups, each of them in the one before. -/
def groups {α : Type} (nesting : List (GroupOptions ε)) (body : Registration ε α) :
    Registration ε α :=
  nesting.foldr group body

section Nesting

variable {α : Type}

end Nesting

section Aliases

variable {α β : Type}

/-- A declaration that gives no middleware a name. -/
def KeepsAliases (declaration : Registration ε α) : Prop :=
  ∀ scope router, (declaration scope router).2.aliases = router.aliases

private theorem KeepsAliases.pure (a : α) : KeepsAliases (Pure.pure a : Registration ε α) :=
  fun _ _ => rfl

private theorem KeepsAliases.bind {first : Registration ε α} {second : α → Registration ε β}
    (hfirst : KeepsAliases first) (hsecond : ∀ a, KeepsAliases (second a)) :
    KeepsAliases (first >>= second) := by
  intro scope router
  have hkept := hfirst scope router
  rw [bind_apply]
  rcases hresult : first scope router with ⟨error | a, router'⟩
  · rw [hresult] at hkept
    exact hkept
  · rw [hresult] at hkept
    exact (hsecond a scope router').trans hkept

private theorem KeepsAliases.forM {items : List β} {declare : β → Registration ε Unit}
    (h : ∀ item ∈ items, KeepsAliases (declare item)) : KeepsAliases (items.forM declare) := by
  induction items with
  | nil => exact .pure ()
  | cons item rest ih =>
    rw [List.forall_mem_cons] at h
    exact .bind h.1 fun _ => ih h.2

private theorem KeepsAliases.group (options : GroupOptions ε) {body : Registration ε α}
    (h : KeepsAliases body) : KeepsAliases (Registration.group options body) := by
  intro scope router
  rw [group_apply]
  cases Middleware.resolveAll router.aliases options.middleware with
  | error error => rfl
  | ok middleware => exact h (scope.nest options middleware) router

private theorem KeepsAliases.groups (nesting : List (GroupOptions ε)) {body : Registration ε α}
    (h : KeepsAliases body) : KeepsAliases (Registration.groups nesting body) := by
  induction nesting with
  | nil => exact h
  | cons options rest ih => exact ih.group options

/-- Declarations in a group can be made one after the other, each in a group of its own. -/
theorem group_forM (options : GroupOptions ε) {items : List β} {declare : β → Registration ε Unit}
    (h : ∀ item ∈ items, KeepsAliases (declare item)) :
    group options (items.forM declare) =
      group options (Pure.pure ()) >>= fun _ =>
        items.forM fun item => group options (declare item) := by
  funext scope router
  rw [bind_apply, group_apply, group_apply]
  cases hresolve : Middleware.resolveAll router.aliases options.middleware with
  | error error => rfl
  | ok middleware =>
    dsimp only [pure_apply]
    -- As long as the names stay what they are, every group finds the same middleware.
    induction items generalizing router with
    | nil => rfl
    | cons item rest ih =>
      rw [List.forall_mem_cons] at h
      have hkept := h.1 (scope.nest options middleware) router
      have hgroup : group options (declare item) scope router =
          declare item (scope.nest options middleware) router := by
        rw [group_apply, hresolve]
      rw [List.forM, List.forM, bind_apply, bind_apply, hgroup]
      rcases hitem : declare item (scope.nest options middleware) router with ⟨error | _, router'⟩
      · rfl
      · rw [hitem] at hkept
        exact ih h.2 router' (hkept ▸ hresolve)

private theorem keepsAliases_declare (purpose : Purpose) (path : String) (action : Action ε) :
    KeepsAliases (declare purpose path action) := by
  intro scope router
  rw [declare_apply]
  cases router.plan scope path action with
  | error error => rfl
  | ok plan => exact plan.aliases_carryOut purpose router

private theorem keepsAliases_register (declaration : Declaration ε) :
    KeepsAliases declaration.register := by
  have hmatching (methods : List Method) (path : String) (action : Action ε) :
      KeepsAliases (matching methods path action) :=
    .forM fun method _ => keepsAliases_declare (.requests method) path action
  cases declaration with
  | route method path action => exact keepsAliases_declare (.requests method) path action
  | matching methods path action => exact hmatching methods path action
  | any path action => exact hmatching Method.all path action
  | serve files path dir => exact keepsAliases_declare .files path (.ofHandler (dir.handler files))
  | pattern param source =>
    intro scope router
    rw [Declaration.register, pattern_apply]
    cases Route.Pattern.compile param source <;> rfl

/-- Controllers are looked up first, and then their routes are declared in a group. -/
theorem controller_apply (path name : String) (options : Dict String (ActionOptions ε))
    (scope : Scope ε) (router : Router ε) :
    controller path name options scope router =
      match router.resolver with
      | none => (.error (.unresolvedAction name .noResolver), router)
      | some resolver =>
        match resolver name scope.space with
        | .ok actions => group { base := path } (methods options actions) scope router
        | .error error => (.error error, router) := by
  rw [controller, bind_apply, get_apply]
  dsimp only
  cases hresolver : router.resolver with
  | none => rfl
  | some resolver =>
    dsimp only
    rw [bind_apply, read_apply]
    dsimp only
    rw [bind_apply, require_apply]
    cases resolver name scope.space <;> rfl

private theorem keepsAliases_controller (path name : String)
    (options : Dict String (ActionOptions ε)) :
    KeepsAliases (controller path name options) := by
  intro scope router
  rw [controller_apply]
  cases router.resolver with
  | none => rfl
  | some resolver =>
    dsimp only
    cases resolver name scope.space with
    | error error => rfl
    | ok actions =>
      have hmethods : KeepsAliases (methods options actions) :=
        .forM fun _ _ => .forM fun (method, path) _ =>
          keepsAliases_declare (.requests method) path _
      exact hmethods.group { base := path } scope router

end Aliases

end Registration

namespace Outline

mutual

/-- Make the declarations of an outline. -/
def register : Outline ε → Registration ε Unit
  | .single declaration => declaration.register
  | .controller path name options => Registration.controller path name options
  | .group options body => Registration.group options (registerAll body)

/-- Make the declarations of several outlines, one after the other. -/
def registerAll : List (Outline ε) → Registration ε Unit
  | [] => pure ()
  | outline :: rest => outline.register >>= fun _ => registerAll rest

end

mutual

/-- The declarations of an outline, each with the groups it is in, from the outermost in.  Before
those of a group there is one that declares nothing in it: the group may be empty, and its
middleware is looked up all the same. -/
def leaves : Outline ε → List (List (GroupOptions ε) × Registration ε Unit)
  | .single declaration => [([], declaration.register)]
  | .controller path name options => [([], Registration.controller path name options)]
  | .group options body =>
    ([options], pure ()) :: (leavesOfAll body).map fun leaf => (options :: leaf.1, leaf.2)

/-- The declarations of several outlines. -/
def leavesOfAll : List (Outline ε) → List (List (GroupOptions ε) × Registration ε Unit)
  | [] => []
  | outline :: rest => outline.leaves ++ leavesOfAll rest

end

mutual

/-- Whatever is declared in an outline keeps the aliases. -/
theorem keepsAliases_of_mem_leaves (outline : Outline ε) :
    ∀ leaf ∈ outline.leaves, Registration.KeepsAliases leaf.2 := by
  cases outline with
  | single declaration =>
    rw [leaves, List.forall_mem_singleton]
    exact Registration.keepsAliases_register declaration
  | controller path name options =>
    rw [leaves, List.forall_mem_singleton]
    exact Registration.keepsAliases_controller path name options
  | group options body =>
    rw [leaves, List.forall_mem_cons, List.forall_mem_map]
    exact ⟨.pure (), keepsAliases_of_mem_leavesOfAll body⟩

private theorem keepsAliases_of_mem_leavesOfAll (outlines : List (Outline ε)) :
    ∀ leaf ∈ leavesOfAll outlines, Registration.KeepsAliases leaf.2 := by
  cases outlines with
  | nil => exact nofun
  | cons outline rest =>
    rw [leavesOfAll, List.forall_mem_append]
    exact ⟨keepsAliases_of_mem_leaves outline, keepsAliases_of_mem_leavesOfAll rest⟩

end

mutual

/-- What an outline declares can be declared one after the other, each in groups of its own. -/
theorem register_eq_forM_leaves (outline : Outline ε) :
    outline.register = outline.leaves.forM fun leaf => Registration.groups leaf.1 leaf.2 := by
  cases outline with
  | single declaration => exact (bind_pure_unit).symm
  | controller path name options => exact (bind_pure_unit).symm
  | group options body =>
    have hkeeps (leaf) (hleaf : leaf ∈ leavesOfAll body) :
        Registration.KeepsAliases (Registration.groups leaf.1 leaf.2) :=
      (keepsAliases_of_mem_leavesOfAll body leaf hleaf).groups leaf.1
    rw [register, registerAll_eq_forM_leavesOfAll body, Registration.group_forM options hkeeps,
      leaves, List.forM_eq_forM, List.forM_cons, List.forM_map]
    rfl

/-- Outlines declare their leaves, one after the other, each within its groups. -/
theorem registerAll_eq_forM_leavesOfAll (outlines : List (Outline ε)) :
    registerAll outlines =
      (leavesOfAll outlines).forM fun leaf => Registration.groups leaf.1 leaf.2 := by
  cases outlines with
  | nil => rfl
  | cons outline rest =>
    rw [registerAll, register_eq_forM_leaves outline, registerAll_eq_forM_leavesOfAll rest,
      leavesOfAll, List.forM_eq_forM, List.forM_append]

end

end Outline

namespace Registration

section Inside

variable (options : GroupOptions ε) (nesting : List (GroupOptions ε)) (path : String)
  (scope : Scope ε) (router : Router ε)

end Inside

end Registration

end Signpost
