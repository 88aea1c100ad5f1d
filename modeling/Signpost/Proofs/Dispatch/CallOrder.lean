import Mathlib.Data.List.Nodup
import Signpost.Proofs.Dispatch.Calls

/-!
# Which handlers a request reaches

A request reaches the handlers of one stack, of its route or of the files served at its path, and
after them perhaps the error handlers.  Main statement: whatever the handlers do, they are called in
their order and each at most once, the error handlers only for a failure of the stack or because
nothing answered.
-/

namespace Signpost

variable {ε : Type}

/-- What a request is answered by. -/
inductive Resolution (ε : Type)
  /-- The stack of a route, with the parameters that the path binds. -/
  | route (stack : Stack ε) (params : Dict String String)
  /-- The stack of a place at which files are served, with what follows the place. -/
  | files (stack : Stack ε) (rest : String)
  /-- Nothing. -/
  | nothing

namespace Resolution

/-- The stack, if there is one. -/
def stack : Resolution ε → Stack ε
  | route stack _ => stack
  | files stack _ => stack
  | nothing => []

/-- The resolution of a traced router. -/
def traced : Resolution ε → Resolution (Traced ε)
  | route stack params => .route stack.traced params
  | files stack rest => .files stack.traced rest
  | nothing => .nothing

/-- The request as the first handler sees it. -/
def enter : Resolution ε → Request ε → Request ε
  | route _ params, req => { req with params }
  | files _ rest, req => { req with assetPath := some rest }
  | nothing, req => req

end Resolution

/-- The end of a pipeline, with the calls so far. -/
def Pipeline.noted (calls : List (Call ε)) (result : Completion × Exchange ε) :
    Completion × Exchange (Traced ε) :=
  (result.1, result.2.traced calls)

namespace Dispatcher

/-- What answers a request: a route of its method that its path matches, or else the files that are
served at its path, or else nothing. -/
def resolution (dispatcher : Dispatcher ε) (req : Request ε) : Resolution ε :=
  match dispatcher.router.match? req.method req.path with
  | .ok (stack, params) => .route stack params
  | .error _ =>
    match dispatcher.mounts.resolve? req.path with
    | some (stack, rest) => .files stack rest
    | none => .nothing

private theorem run_eq (dispatcher : Dispatcher ε) (exchange : Exchange ε) :
    dispatcher.run exchange =
      match dispatcher.resolution exchange.request with
      | .route stack params =>
        some (Pipeline.run dispatcher.router.errorHandlers stack
          (exchange.mapRequest ({ · with params })))
      | .files stack rest =>
        dispatcher.runServed stack (exchange.mapRequest ({ · with assetPath := some rest }))
      | .nothing => dispatcher.raiseNotFound exchange := by
  rw [run, resolution]
  cases dispatcher.router.match? exchange.request.method exchange.request.path with
  | ok found => rfl
  | error error => cases dispatcher.mounts.resolve? exchange.request.path <;> rfl

/-- Why an error is handed to the error handlers, given the calls of the stack and the exchange that
they left. -/
inductive Raised (dispatcher : Dispatcher ε) (req : Request ε) (stackCalls : List (Call ε))
    (current : Exchange ε) : HandlerError → Prop
  /-- The last handler that was called failed with it or crashed. -/
  | failed {call : Call ε} {error : HandlerError} (hlast : stackCalls.getLast? = some call)
    (herror : call.outcome.error? = some error) : Raised dispatcher req stackCalls current error
  /-- Nothing answers the request. -/
  | unknown {error : HandlerError} (hnothing : dispatcher.resolution req = .nothing)
    (hcalls : stackCalls = [])
    (herror : dispatcher.router.notFound current.request.path = some error) :
    Raised dispatcher req stackCalls current error
  /-- All handlers of served files went on and did not end the response. -/
  | exhausted {stack : Stack ε} {rest : String} {error : HandlerError}
    (hfiles : dispatcher.resolution req = .files stack rest)
    (hall : stackCalls.length = stack.length)
    (hnext : ∀ call ∈ stackCalls, call.outcome = .next)
    (hopen : current.response.finished = false)
    (herror : dispatcher.router.notFound current.request.path = some error) :
    Raised dispatcher req stackCalls current error

/-- In which order the handlers are called for an exchange that a dispatcher is to run. -/
structure CallOrder (dispatcher : Dispatcher ε) (exchange : Exchange ε)
    (stackCalls errorCalls : List (Call ε)) : Prop where
  /-- First the handlers of the stack are called, from the first one on. -/
  stack : stackCalls.map Call.site <+: (dispatcher.resolution exchange.request).stack.sites
  /-- Then the error handlers are, from the first one on. -/
  errorHandlers : errorCalls.map Call.site <+: ErrorHandler.sites dispatcher.router.errorHandlers
  /-- The first error handler is given an error that there is a reason for. -/
  raised : ∀ first ∈ errorCalls.head?, ∃ error, first.error = some error.normalize ∧
    dispatcher.Raised exchange.request stackCalls first.entry error
  /-- Each call is given what the one before it left, the first one the request as it enters. -/
  threaded : Call.Threaded
    (exchange.mapRequest (dispatcher.resolution exchange.request).enter) (stackCalls ++ errorCalls)

/-- The calls of the stack that answers an exchange. -/
def stackCalls (dispatcher : Dispatcher ε) (exchange : Exchange ε) : List (Call ε) :=
  let resolution := dispatcher.resolution exchange.request
  resolution.stack.callsFrom 0 resolution.stack (exchange.mapRequest resolution.enter)

/-- What the stack leaves that answers an exchange. -/
def afterStack (dispatcher : Dispatcher ε) (exchange : Exchange ε) : Exchange ε :=
  (exchange.mapRequest (dispatcher.resolution exchange.request).enter).after
    (dispatcher.stackCalls exchange)

/-- How the calls for an exchange end that a dispatcher is to run, given those of the error
handlers. -/
inductive Ended (dispatcher : Dispatcher ε) (exchange : Exchange ε) :
    List (Call ε) → Option (Completion × Exchange ε) → Prop
  /-- The last handler of the stack that was called is done. -/
  | finished {last : Call ε} (hlast : (dispatcher.stackCalls exchange).getLast? = some last)
    (hdone : last.outcome = .done) :
    Ended dispatcher exchange [] (some (.finished, dispatcher.afterStack exchange))
  /-- All handlers of the stack went on, and the stack is that of a route or the response is
  ended. -/
  | exhausted (hnext : ∀ call ∈ dispatcher.stackCalls exchange, call.outcome = .next)
    (hall : (dispatcher.stackCalls exchange).length =
      (dispatcher.resolution exchange.request).stack.length)
    (hanswered : (∃ stack params, dispatcher.resolution exchange.request = .route stack params) ∨
      (dispatcher.afterStack exchange).response.finished = true) :
    Ended dispatcher exchange [] (some (.exhausted, dispatcher.afterStack exchange))
  /-- There is a reason to call the error handlers. -/
  | raised {error : HandlerError}
    (hraised : dispatcher.Raised exchange.request (dispatcher.stackCalls exchange)
      (dispatcher.afterStack exchange) error) :
    Ended dispatcher exchange
      (ErrorHandler.callsFrom 0 error.normalize dispatcher.router.errorHandlers
        (dispatcher.afterStack exchange))
      (some (Pipeline.fail dispatcher.router.errorHandlers error (dispatcher.afterStack exchange)))
  /-- There is no error for the path, so that the dispatcher itself crashes. -/
  | crashed
    (hnone : dispatcher.router.notFound (dispatcher.afterStack exchange).request.path = none) :
    Ended dispatcher exchange [] none

/-- However the calls end, they are in order. -/
theorem Ended.callOrder {dispatcher : Dispatcher ε} {exchange : Exchange ε}
    {errorCalls : List (Call ε)} {result : Option (Completion × Exchange ε)}
    (h : dispatcher.Ended exchange errorCalls result) :
    dispatcher.CallOrder exchange (dispatcher.stackCalls exchange) errorCalls := by
  have hstack : (dispatcher.stackCalls exchange).map Call.site <+:
      (dispatcher.resolution exchange.request).stack.sites := Stack.sites_callsFrom _ _ _ _
  have hthreaded : Call.Threaded
      (exchange.mapRequest (dispatcher.resolution exchange.request).enter)
      (dispatcher.stackCalls exchange) := Stack.threaded_callsFrom _ _ _ _
  have hstackOnly : dispatcher.CallOrder exchange (dispatcher.stackCalls exchange) [] := by
    refine ⟨hstack, List.nil_prefix, fun first hfirst => ?_, ?_⟩
    · contradiction
    · rw [List.append_nil]
      exact hthreaded
  cases h with
  | finished hlast hdone => exact hstackOnly
  | exhausted hnext hall hanswered => exact hstackOnly
  | crashed hnone => exact hstackOnly
  | @raised error hraised =>
    have herrors := ErrorHandler.threaded_callsFrom dispatcher.router.errorHandlers 0
      error.normalize (dispatcher.afterStack exchange)
    refine ⟨hstack, ErrorHandler.sites_callsFrom _ _ _ _, fun first hfirst => ?_,
      hthreaded.append herrors⟩
    obtain ⟨hgiven, hentry⟩ := ErrorHandler.head_callsFrom hfirst
    exact ⟨error, hgiven, hentry.symm ▸ hraised⟩

/-- The calls come to an end if there is an error for every unknown path. -/
theorem Ended.isSome {dispatcher : Dispatcher ε} {exchange : Exchange ε}
    {errorCalls : List (Call ε)} {result : Option (Completion × Exchange ε)}
    (h : dispatcher.Ended exchange errorCalls result)
    (hnotFound : ∀ path, (dispatcher.router.notFound path).isSome = true) :
    result.isSome = true := by
  cases h with
  | finished hlast hdone => rfl
  | exhausted hnext hall hanswered => rfl
  | raised hraised => rfl
  | crashed hnone =>
    have hsome := hnotFound (dispatcher.afterStack exchange).request.path
    rw [hnone] at hsome
    contradiction

private theorem stackCalls_eq {dispatcher : Dispatcher ε} {exchange : Exchange ε}
    {resolution : Resolution ε} (h : dispatcher.resolution exchange.request = resolution) :
    dispatcher.stackCalls exchange =
      resolution.stack.callsFrom 0 resolution.stack (exchange.mapRequest resolution.enter) := by
  rw [← h]
  rfl

private theorem afterStack_eq {dispatcher : Dispatcher ε} {exchange : Exchange ε}
    {resolution : Resolution ε} (h : dispatcher.resolution exchange.request = resolution) :
    dispatcher.afterStack exchange =
      (exchange.mapRequest resolution.enter).after (dispatcher.stackCalls exchange) := by
  rw [← h]
  rfl

variable (router : Router ε) (exchange : Exchange ε)

private theorem resolution_traced (req : Request ε) :
    (ofRouter router.traced).resolution (req.traced []) =
      ((ofRouter router).resolution req).traced := by
  have hmatch : (ofRouter router.traced).router.match? (req.traced []).method (req.traced []).path =
      (router.match? req.method req.path).map fun found => (found.1.traced, found.2) :=
    router.match?_traced req.method req.path
  have hresolve : (ofRouter router.traced).mounts.resolve? (req.traced []).path =
      ((ofRouter router).mounts.resolve? req.path).map fun found => (found.1.traced, found.2) :=
    router.resolve?_traced req.path
  rw [resolution, hmatch, hresolve, resolution]
  have hrouter : (ofRouter router).router = router := rfl
  rw [hrouter]
  cases router.match? req.method req.path with
  | ok found => rfl
  | error error => cases (ofRouter router).mounts.resolve? req.path <;> rfl

/-- A traced router runs the traced stack on the same exchange, or else raises the same error. -/
theorem run_traced_eq :
    (ofRouter router.traced).run (exchange.traced []) =
      match (ofRouter router).resolution exchange.request with
      | .route stack params =>
        some (Pipeline.run (ErrorHandler.tracedFrom 0 router.errorHandlers) stack.traced
          ((exchange.mapRequest ({ · with params })).traced []))
      | .files stack rest =>
        (ofRouter router.traced).runServed stack.traced
          ((exchange.mapRequest ({ · with assetPath := some rest })).traced [])
      | .nothing => (ofRouter router.traced).raiseNotFound (exchange.traced []) := by
  have hresolution : (ofRouter router.traced).resolution (exchange.traced []).request =
      ((ofRouter router).resolution exchange.request).traced :=
    resolution_traced router exchange.request
  rw [run_eq, hresolution]
  cases (ofRouter router).resolution exchange.request <;> rfl

/-- A stack that does not go on to its end is all that is run for served files. -/
theorem runServed_of_ne_exhausted (dispatcher : Dispatcher ε) {stack : Stack ε}
    {start : Exchange ε}
    (h : (Pipeline.run dispatcher.router.errorHandlers stack start).1 ≠ .exhausted) :
    dispatcher.runServed stack start =
      some (Pipeline.run dispatcher.router.errorHandlers stack start) := by
  rw [runServed]
  split
  next hrun => exact absurd (congrArg Prod.fst hrun) h
  next => rfl

private theorem runServed_of_exhausted (dispatcher : Dispatcher ε) {stack : Stack ε}
    {start exit : Exchange ε}
    (h : Pipeline.run dispatcher.router.errorHandlers stack start = (.exhausted, exit)) :
    dispatcher.runServed stack start =
      if exit.response.finished then some (.exhausted, exit)
      else dispatcher.raiseNotFound exit := by
  rw [runServed, h]

/-- Where the path turns out to be unknown, the error handlers are called for it, if there is an
error. -/
theorem exists_ended_raiseNotFound
    (hraised : ∀ error,
      router.notFound ((ofRouter router).afterStack exchange).request.path = some error →
      (ofRouter router).Raised exchange.request ((ofRouter router).stackCalls exchange)
        ((ofRouter router).afterStack exchange) error) :
    ∃ errorCalls,
      (ofRouter router).Ended exchange errorCalls
        ((ofRouter router).raiseNotFound ((ofRouter router).afterStack exchange)) ∧
      (ofRouter router.traced).raiseNotFound
          (((ofRouter router).afterStack exchange).traced ((ofRouter router).stackCalls exchange)) =
        ((ofRouter router).raiseNotFound ((ofRouter router).afterStack exchange)).map
          (Pipeline.noted ((ofRouter router).stackCalls exchange ++ errorCalls)) := by
  generalize hleft : (ofRouter router).afterStack exchange = left at hraised
  generalize hcalls : (ofRouter router).stackCalls exchange = calls at hraised
  have hraise : (ofRouter router).raiseNotFound left =
      (router.notFound left.request.path).map fun error =>
        Pipeline.fail router.errorHandlers error left := rfl
  have htraced : (ofRouter router.traced).raiseNotFound (left.traced calls) =
      (router.notFound left.request.path).map fun error =>
        Pipeline.fail (ErrorHandler.tracedFrom 0 router.errorHandlers) error
          (left.traced calls) := rfl
  rw [hraise, htraced]
  cases herror : router.notFound left.request.path with
  | none => exact ⟨[], .crashed (hleft ▸ herror), rfl⟩
  | some error =>
    subst hleft hcalls
    exact ⟨_, .raised (hraised error herror), congrArg some (Pipeline.fail_traced _ _ _ _)⟩

/-- The calls of the stack and those for its error end with the stack, unless the path is unknown
after all. -/
theorem Ended.of_stack (dispatcher : Dispatcher ε) (exchange : Exchange ε)
    (hanswered : (∀ call ∈ dispatcher.stackCalls exchange, call.outcome = .next) →
      (∃ stack params, dispatcher.resolution exchange.request = .route stack params) ∨
        (dispatcher.afterStack exchange).response.finished = true) :
    dispatcher.Ended exchange
      (Pipeline.errorCalls dispatcher.router.errorHandlers (dispatcher.stackCalls exchange))
      (some (Pipeline.run dispatcher.router.errorHandlers
        (dispatcher.resolution exchange.request).stack
        (exchange.mapRequest (dispatcher.resolution exchange.request).enter))) := by
  have hcases := Pipeline.run_cases dispatcher.router.errorHandlers
    (dispatcher.resolution exchange.request).stack (dispatcher.resolution exchange.request).stack 0
    (exchange.mapRequest (dispatcher.resolution exchange.request).enter)
  have hcalls : dispatcher.stackCalls exchange = _ := stackCalls_eq rfl
  rw [← hcalls] at hcases
  rcases hcases with ⟨hnext, hall, hrun⟩ | ⟨last, hlast, hended⟩
  · rw [hrun, Pipeline.errorCalls_eq_nil _ hnext]
    exact .exhausted hnext hall (hanswered hnext)
  have hafter : dispatcher.afterStack exchange = last.exit := by
    rw [afterStack, Exchange.after, hlast]
    rfl
  rcases hended with ⟨hdone, hrun⟩ | ⟨error, herror, hrun⟩
  · rw [hrun, Pipeline.errorCalls_of_done _ hlast hdone, ← hafter]
    exact .finished hlast hdone
  · rw [hrun, Pipeline.errorCalls_of_error _ hlast herror, ← hafter]
    exact .raised (.failed hlast herror)

section Files

variable {stack : Stack ε} {rest : String}
  (h : (ofRouter router).resolution exchange.request = .files stack rest)

include h

/-- The traced stack of served files notes its calls and those for its error. -/
theorem pipeline_run_traced_of_files :
    Pipeline.run (ErrorHandler.tracedFrom 0 router.errorHandlers) stack.traced
        ((exchange.mapRequest ({ · with assetPath := some rest })).traced []) =
      Pipeline.noted ((ofRouter router).stackCalls exchange ++
          Pipeline.errorCalls router.errorHandlers ((ofRouter router).stackCalls exchange))
        (Pipeline.run router.errorHandlers stack
          (exchange.mapRequest ({ · with assetPath := some rest }))) := by
  rw [stackCalls_eq h]
  exact Pipeline.run_traced router.errorHandlers stack stack 0 _ []

/-- If all of the stack goes on without ending the response, the error handlers are called for the
unknown path. -/
theorem exists_ended_runServed_of_next
    (hnext : ∀ call ∈ (ofRouter router).stackCalls exchange, call.outcome = .next)
    (hall : ((ofRouter router).stackCalls exchange).length = stack.length)
    (hrun : Pipeline.run router.errorHandlers stack
        (exchange.mapRequest ({ · with assetPath := some rest })) =
      (.exhausted, (ofRouter router).afterStack exchange)) :
    ∃ errorCalls,
      (ofRouter router).Ended exchange errorCalls ((ofRouter router).runServed stack
        (exchange.mapRequest ({ · with assetPath := some rest }))) ∧
      (ofRouter router.traced).runServed stack.traced
          ((exchange.mapRequest ({ · with assetPath := some rest })).traced []) =
        ((ofRouter router).runServed stack
          (exchange.mapRequest ({ · with assetPath := some rest }))).map
            (Pipeline.noted ((ofRouter router).stackCalls exchange ++ errorCalls)) := by
  have hpipeline := pipeline_run_traced_of_files router exchange h
  rw [hrun, Pipeline.errorCalls_eq_nil _ hnext, List.append_nil] at hpipeline
  rw [runServed_of_exhausted (ofRouter router) hrun,
    runServed_of_exhausted (ofRouter router.traced) hpipeline]
  have hsame (calls : List (Call ε)) :
      (((ofRouter router).afterStack exchange).traced calls).response.finished =
        ((ofRouter router).afterStack exchange).response.finished := rfl
  rw [hsame]
  cases hfinished : ((ofRouter router).afterStack exchange).response.finished with
  | true =>
    refine ⟨[], ?_, ?_⟩
    · rw [if_pos rfl]
      exact .exhausted hnext (h ▸ hall) (Or.inr hfinished)
    · rw [if_pos rfl, if_pos rfl, List.append_nil]
      rfl
  | false =>
    rw [if_neg Bool.false_ne_true, if_neg Bool.false_ne_true]
    exact exists_ended_raiseNotFound router exchange fun error =>
      .exhausted h hall hnext hfinished

/-- If the stack comes to an end before, its calls and those for its error are all. -/
theorem ended_runServed_of_ne_exhausted
    (hrun : (Pipeline.run router.errorHandlers stack
      (exchange.mapRequest ({ · with assetPath := some rest }))).1 ≠ .exhausted)
    (hstops : ∃ call ∈ (ofRouter router).stackCalls exchange, call.outcome ≠ .next) :
    (ofRouter router).Ended exchange
        (Pipeline.errorCalls router.errorHandlers ((ofRouter router).stackCalls exchange))
        ((ofRouter router).runServed stack
          (exchange.mapRequest ({ · with assetPath := some rest }))) ∧
      (ofRouter router.traced).runServed stack.traced
          ((exchange.mapRequest ({ · with assetPath := some rest })).traced []) =
        ((ofRouter router).runServed stack
          (exchange.mapRequest ({ · with assetPath := some rest }))).map
            (Pipeline.noted ((ofRouter router).stackCalls exchange ++
              Pipeline.errorCalls router.errorHandlers
                ((ofRouter router).stackCalls exchange))) := by
  have hpipeline := pipeline_run_traced_of_files router exchange h
  have htraced : (Pipeline.run (ErrorHandler.tracedFrom 0 router.errorHandlers) stack.traced
      ((exchange.mapRequest ({ · with assetPath := some rest })).traced [])).1 ≠ .exhausted :=
    fun heq => hrun ((congrArg Prod.fst hpipeline).symm.trans heq)
  rw [runServed_of_ne_exhausted (ofRouter router) hrun,
    runServed_of_ne_exhausted (ofRouter router.traced) htraced]
  have hstack := Ended.of_stack (ofRouter router) exchange
  rw [h] at hstack
  refine ⟨hstack fun hnext => ?_, congrArg some hpipeline⟩
  obtain ⟨call, hcall, hne⟩ := hstops
  exact absurd (hnext call hcall) hne

/-- The calls for a request that served files answer.  If all of the stack goes on without ending
the response, the error handlers are called for the unknown path, and only then. -/
theorem exists_ended_run_of_files :
    ∃ errorCalls,
      (ofRouter router).Ended exchange errorCalls ((ofRouter router).run exchange) ∧
      (ofRouter router.traced).run (exchange.traced []) =
        ((ofRouter router).run exchange).map
          (Pipeline.noted ((ofRouter router).stackCalls exchange ++ errorCalls)) := by
  have hcases := Pipeline.run_cases router.errorHandlers stack stack 0
    (exchange.mapRequest ({ · with assetPath := some rest }))
  have hcalls : (ofRouter router).stackCalls exchange = stack.callsFrom 0 stack
      (exchange.mapRequest ({ · with assetPath := some rest })) := stackCalls_eq h
  have hafter : (ofRouter router).afterStack exchange =
      (exchange.mapRequest ({ · with assetPath := some rest })).after
        ((ofRouter router).stackCalls exchange) := afterStack_eq h
  rw [← hcalls] at hcases
  rw [run_eq, run_traced_eq, h]
  dsimp only
  rcases hcases with ⟨hnext, hall, hrun⟩ | ⟨last, hlast, ⟨hdone, hrun⟩ | ⟨error, herror, hrun⟩⟩
  · rw [← hafter] at hrun
    exact exists_ended_runServed_of_next router exchange h hnext hall hrun
  · refine ⟨_, ended_runServed_of_ne_exhausted router exchange h (by rw [hrun]; exact nofun)
      ⟨last, List.mem_of_getLast? hlast, by rw [hdone]; exact nofun⟩⟩
  · refine ⟨_, ended_runServed_of_ne_exhausted router exchange h
      (hrun ▸ Pipeline.fst_replay_ne_exhausted _ _ _)
      ⟨last, List.mem_of_getLast? hlast, fun hnext => ?_⟩⟩
    rw [hnext] at herror
    contradiction

end Files

/-- The calls for a request, whatever answers it and however they end. -/
theorem exists_ended_run :
    ∃ errorCalls,
      (ofRouter router).Ended exchange errorCalls ((ofRouter router).run exchange) ∧
      (ofRouter router.traced).run (exchange.traced []) =
        ((ofRouter router).run exchange).map
          (Pipeline.noted ((ofRouter router).stackCalls exchange ++ errorCalls)) := by
  cases h : (ofRouter router).resolution exchange.request with
  | files stack rest => exact exists_ended_run_of_files router exchange h
  | route stack params =>
    have hended := Ended.of_stack (ofRouter router) exchange fun _ => Or.inl ⟨stack, params, h⟩
    have hcalls := stackCalls_eq h
    rw [h] at hended
    rw [run_eq, run_traced_eq, h, hcalls]
    refine ⟨_, hended, ?_⟩
    rw [hcalls]
    exact congrArg some (Pipeline.run_traced router.errorHandlers stack stack 0 _ [])
  | nothing =>
    have hcalls : (ofRouter router).stackCalls exchange = [] := stackCalls_eq h
    have hafter : (ofRouter router).afterStack exchange = exchange := by
      rw [afterStack_eq h, hcalls]
      rfl
    have hended := exists_ended_raiseNotFound router exchange fun error => .unknown h hcalls
    rw [hafter, hcalls] at hended
    rw [run_eq, run_traced_eq, h, hcalls]
    exact hended

/-- The calls for a request are in order if there is an error for every unknown path. -/
theorem run_traced (hnotFound : ∀ path, (router.notFound path).isSome = true) :
    ∃ result stackCalls errorCalls,
      (ofRouter router).run exchange = some result ∧
      (ofRouter router.traced).run (exchange.traced []) =
        some (result.1, result.2.traced (stackCalls ++ errorCalls)) ∧
      (ofRouter router).CallOrder exchange stackCalls errorCalls := by
  obtain ⟨errorCalls, hended, htraced⟩ := exists_ended_run router exchange
  obtain ⟨result, hrun⟩ := Option.isSome_iff_exists.mp (hended.isSome hnotFound)
  rw [hrun, Option.map_some] at htraced
  exact ⟨result, _, errorCalls, hrun, htraced, hended.callOrder⟩

variable {router exchange}

/-- No handler is called twice. -/
theorem CallOrder.nodup_sites {stackCalls errorCalls : List (Call ε)}
    (h : (ofRouter router).CallOrder exchange stackCalls errorCalls) :
    ((stackCalls ++ errorCalls).map Call.site).Nodup := by
  rw [List.map_append, List.nodup_append]
  have hstack : Function.Injective (@Site.stack ε
      ((ofRouter router).resolution exchange.request).stack) :=
    fun a b heq => (Site.stack.inj heq).2
  have herror : Function.Injective (@Site.errorHandler ε) :=
    fun a b heq => Site.errorHandler.inj heq
  refine ⟨((List.Nodup.map hstack List.nodup_range').sublist h.stack.sublist),
    ((List.Nodup.map herror List.nodup_range').sublist h.errorHandlers.sublist), ?_⟩
  intro a ha b hb
  obtain ⟨i, -, rfl⟩ := List.mem_map.mp (h.stack.subset ha)
  obtain ⟨j, -, rfl⟩ := List.mem_map.mp (h.errorHandlers.subset hb)
  intro heq
  contradiction

/-- The first handler sees the request as it enters. -/
theorem CallOrder.entry_request {stackCalls errorCalls : List (Call ε)}
    (h : (ofRouter router).CallOrder exchange stackCalls errorCalls) {first : Call ε}
    (hfirst : first ∈ (stackCalls ++ errorCalls).head?) :
    first.entry.request =
      ((ofRouter router).resolution exchange.request).enter exchange.request := by
  rw [h.threaded.head_entry hfirst]
  rfl

/-- Dispatching a request calls the handlers of the stack it is resolved to, in their order, and
after them perhaps the error handlers, in theirs, each of them at most once. -/
theorem dispatch_traced (router : Router ε)
    (hnotFound : ∀ path, (router.notFound path).isSome = true) (req : Request ε) :
    ∃ answer stackCalls errorCalls,
      (ofRouter router).dispatch req = some answer ∧
      (ofRouter router.traced).dispatch (req.traced []) =
        some (answer.traced (stackCalls ++ errorCalls)) ∧
      (ofRouter router).CallOrder { request := { req with names := some router.names } }
        stackCalls errorCalls ∧
      ((stackCalls ++ errorCalls).map Call.site).Nodup ∧
      ∀ first ∈ (stackCalls ++ errorCalls).head?,
        (∀ stack params, (ofRouter router).resolution req = .route stack params →
          first.entry.request.params = params) ∧
        first.entry.request.assetPath =
          match (ofRouter router).resolution req with
          | .files _ rest => some rest
          | _ => req.assetPath := by
  let exchange : Exchange ε := { request := { req with names := some router.names } }
  obtain ⟨⟨completion, exit⟩, stackCalls, errorCalls, hrun, htraced, horder⟩ :=
    run_traced router exchange hnotFound
  have hdispatch : (ofRouter router).dispatch req =
      ((ofRouter router).run exchange).bind fun result =>
        some (result.2.mapResponse (result.1.complete result.2.request)) := rfl
  have hdispatchTraced : (ofRouter router.traced).dispatch (req.traced []) =
      ((ofRouter router.traced).run (exchange.traced [])).bind fun result =>
        some (result.2.mapResponse (result.1.complete result.2.request)) := rfl
  refine ⟨exit.mapResponse (completion.complete exit.request), stackCalls, errorCalls, ?_, ?_,
    horder, horder.nodup_sites, ?_⟩
  · rw [hdispatch, hrun]
    rfl
  · rw [hdispatchTraced, htraced]
    rfl
  · intro first hfirst
    have hresolution : (ofRouter router).resolution exchange.request =
        (ofRouter router).resolution req := rfl
    have hentry := horder.entry_request hfirst
    rw [hresolution] at hentry
    rw [hentry]
    cases (ofRouter router).resolution req with
    | route stack params =>
      refine ⟨fun stack' params' heq => ?_, rfl⟩
      exact (Resolution.route.inj heq).2
    | files stack rest =>
      refine ⟨fun stack' params' heq => ?_, rfl⟩
      contradiction
    | nothing =>
      refine ⟨fun stack' params' heq => ?_, rfl⟩
      contradiction

/-- The third of four handlers fails, the second of four error handlers fails with another error,
and the third is done: three of each are called, and the first of all sees what the path binds. -/
theorem dispatch_traced_failing :
    let router : Router Unit :=
      { trees := Dict.empty.insert .get (({} : Route.Tree (Stack Unit)).insert
          [.literal "a", .variable "id" false]
          [logging, fun exchange => (.next, exchange.mapResponse (·.setHeader "x-seen" "yes")),
            fun exchange => (.fail { status := some 403 }, exchange),
            fun exchange => (.done, exchange)])
        errorHandlers := [fun _ => logging, fun _ exchange => (.fail (.of 503 "later"), exchange),
          fun error exchange => (.done, exchange.mapResponse (·.finishText error.text)),
          fun _ exchange => (.done, exchange)] }
    let req : Request Unit := { method := .get, path := "/a/5", store := () }
    (∀ path, (router.notFound path).isSome = true) ∧
    ∃ (answer : Exchange Unit) (stackCalls errorCalls : List (Call Unit)),
      (ofRouter router.traced).dispatch (req.traced []) =
        some (answer.traced (stackCalls ++ errorCalls)) ∧
      (ofRouter router).CallOrder { request := { req with names := some router.names } }
        stackCalls errorCalls ∧
      ((stackCalls ++ errorCalls).map Call.site).Nodup ∧
      (stackCalls ++ errorCalls).map (fun call =>
          (call.error.map (·.statusCode), call.outcome.error?.map (·.statusCode))) =
        [(none, none), (none, none), (none, some 403),
          (some 403, none), (some 403, some 503), (some 503, none)] ∧
      (stackCalls ++ errorCalls).map (·.entry.request.params.get? "id") =
        List.replicate 6 (some "5") := by
  intro router req
  have hnotFound : ∀ path, (router.notFound path).isSome = true := fun _ => rfl
  obtain ⟨answer, stackCalls, errorCalls, -, htraced, horder, hnodup, -⟩ :=
    dispatch_traced router hnotFound req
  have hcalls : ((ofRouter router.traced).dispatch (req.traced [])).map (fun answer =>
      (answer.calls.map (fun call =>
          (call.error.map (·.statusCode), call.outcome.error?.map (·.statusCode))),
        answer.calls.map (·.entry.request.params.get? "id"))) =
      some ([(none, none), (none, none), (none, some 403),
        (some 403, none), (some 403, some 503), (some 503, none)],
        List.replicate 6 (some "5")) := by decide +kernel
  rw [htraced] at hcalls
  obtain ⟨hends, hparams⟩ := Prod.mk.inj (Option.some.inj hcalls)
  exact ⟨hnotFound, answer, stackCalls, errorCalls, htraced, horder, hnodup, hends, hparams⟩

end Dispatcher

end Signpost
