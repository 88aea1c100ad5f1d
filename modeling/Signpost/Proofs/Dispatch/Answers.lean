import Mathlib.Tactic.Tauto
import Signpost.Proofs.Dispatch.CallOrder
import Signpost.Proofs.Dispatch.Runs

/-!
# What a request is answered with

A response that was ended goes out as the last handler left it, and so does one that a handler is
done with.  Any other is ended by the dispatcher itself, without losing the headers that were set.
Main statement: which of these answers a request gets, given the calls of its handlers.
-/

namespace Signpost

variable {ε : Type}

namespace Completion

/-- What is answered once the handlers of a request came to an end. -/
def answer (result : Completion × Exchange ε) : Response :=
  result.1.complete result.2.request result.2.response

/-- A response that was ended is not changed any more. -/
theorem complete_of_finished (completion : Completion) (req : Request ε)
    {res : Response} (h : res.finished = true) : completion.complete req res = res := by
  rw [complete.eq_def, if_pos h]

/-- A response that a handler is done with is left as it is. -/
theorem complete_finished (req : Request ε) (res : Response) :
    complete .finished req res = res := by
  rw [complete]
  split <;> rfl

private theorem complete_exhausted (req : Request ε) {res : Response} (h : res.finished = false) :
    complete .exhausted req res =
      { res with
        status := 404
        contentType := "text/plain; charset=utf-8"
        body := ("Cannot " ++ req.method.name ++ " " ++ req.path).toUTF8
        finished := true } := by
  rw [complete, h]
  rfl

private theorem complete_unhandled (error : HandlerError) (req : Request ε) {res : Response}
    (h : res.finished = false) :
    complete (.unhandled error) req res =
      { res with
        status := error.statusCode
        contentType := "application/json"
        body := error.report.toBytes
        finished := true } := by
  rw [complete, h]
  rfl

end Completion

namespace Dispatcher

variable {dispatcher : Dispatcher ε} {exchange : Exchange ε} {errorCalls : List (Call ε)}

/-- What a request is dispatched with. -/
def opening (dispatcher : Dispatcher ε) (req : Request ε) : Exchange ε :=
  { request := { req with names := some dispatcher.router.names } }

/-- What answers an exchange, given the calls of the error handlers and what the last call for it
left. -/
inductive Answered (dispatcher : Dispatcher ε) (exchange : Exchange ε)
    (errorCalls : List (Call ε)) (left : Exchange ε) : Response → Prop
  /-- A response that was ended stays as it is. -/
  | ended (hended : left.response.finished = true) :
    Answered dispatcher exchange errorCalls left left.response
  /-- So does one that was not, but that the last handler to be called is done with. -/
  | done {last : Call ε} (hopen : left.response.finished = false)
    (hlast : (dispatcher.stackCalls exchange ++ errorCalls).getLast? = some last)
    (hdone : last.outcome = .done) : Answered dispatcher exchange errorCalls left left.response
  /-- If all handlers of a route went on, nothing can be done with the request. -/
  | exhausted {stack : Stack ε} {params : Dict String String}
    (hopen : left.response.finished = false)
    (hroute : dispatcher.resolution exchange.request = .route stack params)
    (hall : (dispatcher.stackCalls exchange).length = stack.length)
    (hnext : ∀ call ∈ dispatcher.stackCalls exchange, call.outcome = .next)
    (herrors : errorCalls = []) :
    Answered dispatcher exchange errorCalls left
      { left.response with
        status := 404
        contentType := "text/plain; charset=utf-8"
        body := ("Cannot " ++ left.request.method.name ++ " " ++ left.request.path).toUTF8
        finished := true }
  /-- An error that no handler is done with is reported, in its latest form. -/
  | unhandled {error : HandlerError} (hopen : left.response.finished = false)
    (hraised : dispatcher.Raised exchange.request (dispatcher.stackCalls exchange)
      (dispatcher.afterStack exchange) error)
    (hnone : ∀ call ∈ dispatcher.stackCalls exchange ++ errorCalls, call.outcome ≠ .done) :
    Answered dispatcher exchange errorCalls left
      { left.response with
        status := (error.latest errorCalls).statusCode
        contentType := "application/json"
        body := (error.latest errorCalls).report.toBytes
        finished := true }

/-- Where an error is raised, no handler of the stack is done. -/
theorem Raised.ne_done {error : HandlerError}
    (h : dispatcher.Raised exchange.request (dispatcher.stackCalls exchange)
      (dispatcher.afterStack exchange) error) :
    ∀ call ∈ dispatcher.stackCalls exchange, call.outcome ≠ .done := by
  intro call hcall hdone
  cases h with
  | failed hlast herror =>
    have hcalled := Stack.called_callsFrom (dispatcher.resolution exchange.request).stack
      (exchange.mapRequest (dispatcher.resolution exchange.request).enter)
    rcases getLast?_eq_or_mem_dropLast hcall with hsame | hbefore
    · obtain rfl := Option.some.inj (hlast.symm.trans hsame)
      rw [hdone] at herror
      contradiction
    · have hnext := hcalled.next_of_mem_dropLast call hbefore
      rw [hdone] at hnext
      contradiction
  | unknown hnothing hcalls herror =>
    rw [hcalls] at hcall
    exact absurd hcall List.not_mem_nil
  | exhausted hfiles hall hnext hopen herror =>
    have hgoesOn := hnext call hcall
    rw [hdone] at hgoesOn
    contradiction

/-- What is answered once the error handlers were called is what their calls come to. -/
theorem Raised.answered {error : HandlerError}
    (h : dispatcher.Raised exchange.request (dispatcher.stackCalls exchange)
      (dispatcher.afterStack exchange) error)
    (hcalls : ErrorHandler.callsFrom 0 error.normalize dispatcher.router.errorHandlers
      (dispatcher.afterStack exchange) = errorCalls) :
    dispatcher.Answered exchange errorCalls ((dispatcher.afterStack exchange).after errorCalls)
      (Completion.answer (Pipeline.fail dispatcher.router.errorHandlers error
        (dispatcher.afterStack exchange))) := by
  have hcases := Pipeline.replay_cases dispatcher.router.errorHandlers 0 error
    (dispatcher.afterStack exchange) hcalls
  rw [← Pipeline.fail] at hcases
  rcases hcases with ⟨last, hlast, hdone, hfinished⟩ | ⟨hnone, -, hunhandled⟩
  · have hleft : (dispatcher.afterStack exchange).after errorCalls = last.exit := by
      rw [Exchange.after, hlast]
      rfl
    rw [hfinished, hleft, Completion.answer, Completion.complete_finished]
    cases hended : last.exit.response.finished with
    | true => exact .ended hended
    | false =>
      have hlast : (dispatcher.stackCalls exchange ++ errorCalls).getLast? = some last := by
        rw [List.getLast?_append, hlast]
        rfl
      exact .done hended hlast hdone
  · rw [hunhandled, Completion.answer]
    cases hended : ((dispatcher.afterStack exchange).after errorCalls).response.finished with
    | true =>
      rw [Completion.complete_of_finished _ _ hended]
      exact .ended hended
    | false =>
      rw [Completion.complete_unhandled _ _ hended]
      refine .unhandled hended h fun call hcall => ?_
      rcases List.mem_append.mp hcall with hstack | herrors
      · exact h.ne_done call hstack
      · exact hnone call herrors

/-- Without error handlers none of them is called. -/
theorem Ended.errorCalls_eq_nil {result : Option (Completion × Exchange ε)}
    (h : dispatcher.Ended exchange errorCalls result)
    (hnone : dispatcher.router.errorHandlers = []) : errorCalls = [] := by
  cases h with
  | raised hraised =>
    rw [hnone]
    rfl
  | _ => rfl

/-- However the calls for an exchange end, they decide what answers it. -/
theorem Ended.answered {result : Completion × Exchange ε}
    (h : dispatcher.Ended exchange errorCalls (some result)) :
    dispatcher.Answered exchange errorCalls ((dispatcher.afterStack exchange).after errorCalls)
      (Completion.answer result) := by
  cases h with
  | @finished last hlast hdone =>
    have hleft : (dispatcher.afterStack exchange).after [] = dispatcher.afterStack exchange := rfl
    rw [Completion.answer, Completion.complete_finished, hleft]
    cases hended : (dispatcher.afterStack exchange).response.finished with
    | true => exact .ended hended
    | false =>
      rw [← List.append_nil (dispatcher.stackCalls exchange)] at hlast
      exact .done hended hlast hdone
  | exhausted hnext hall hanswered =>
    have hleft : (dispatcher.afterStack exchange).after [] = dispatcher.afterStack exchange := rfl
    rw [Completion.answer, hleft]
    cases hended : (dispatcher.afterStack exchange).response.finished with
    | true =>
      rw [Completion.complete_of_finished _ _ hended]
      exact .ended hended
    | false =>
      rw [Completion.complete_exhausted _ hended]
      rcases hanswered with ⟨stack, params, hroute⟩ | hfinished
      · rw [hroute] at hall
        exact .exhausted hended hroute hall hnext rfl
      · rw [hended] at hfinished
        contradiction
  | raised hraised => exact hraised.answered rfl

/-- A request is answered with what its run ends in. -/
theorem dispatch_eq_map (dispatcher : Dispatcher ε) (req : Request ε) :
    dispatcher.dispatch req = (dispatcher.run (dispatcher.opening req)).map fun result =>
      result.2.mapResponse (result.1.complete result.2.request) := by
  rw [dispatch, Option.map_eq_bind]
  rfl

/-- The calls for a request that is dispatched, however they end. -/
theorem exists_ended_dispatch (router : Router ε) (req : Request ε) :
    ∃ errorCalls,
      (ofRouter router).Ended ((ofRouter router).opening req) errorCalls
        ((ofRouter router).run ((ofRouter router).opening req)) ∧
      (ofRouter router.traced).dispatch (req.traced []) =
        ((ofRouter router).dispatch req).map (·.traced
          ((ofRouter router).stackCalls ((ofRouter router).opening req) ++ errorCalls)) := by
  obtain ⟨errorCalls, hended, htraced⟩ := exists_ended_run router ((ofRouter router).opening req)
  have hopening : (ofRouter router.traced).opening (req.traced []) =
      ((ofRouter router).opening req).traced [] := rfl
  refine ⟨errorCalls, hended, ?_⟩
  rw [dispatch_eq_map, dispatch_eq_map, hopening, htraced, Option.map_map, Option.map_map]
  rfl

end Dispatcher

end Signpost
