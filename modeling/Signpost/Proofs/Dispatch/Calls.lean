import Signpost.Proofs.Dispatch.Trace

/-!
# Calls of a pipeline

The calls that the handlers of a stack and the error handlers make, worked out from the handlers
themselves.  Main statements: a traced pipeline ends like the pipeline itself and has noted these
calls; a stack is called from its first handler on, and how its last call ended decides whether the
error handlers are.
-/

namespace Signpost

variable {ε : Type}

/-- The error that a handler ended with: the one it reported, or that it crashed. -/
def Outcome.error? : Outcome → Option HandlerError
  | .fail error => some error
  | .crash text => some (.crashed text)
  | _ => none

/-- What calls left that began with an exchange. -/
def Exchange.after (exchange : Exchange ε) (calls : List (Call ε)) : Exchange ε :=
  (calls.getLast?.map Call.exit).getD exchange

/-- After some calls there is what the others leave of what the first one left. -/
theorem Exchange.after_cons (exchange : Exchange ε) (call : Call ε) (calls : List (Call ε)) :
    exchange.after (call :: calls) = call.exit.after calls := by
  rw [after, after, List.getLast?_cons]
  cases calls.getLast? <;> rfl

/-- Calls each of which is given what the one before it left, the first one an exchange. -/
inductive Call.Threaded : Exchange ε → List (Call ε) → Prop
  /-- No calls. -/
  | nil (exchange : Exchange ε) : Threaded exchange []
  /-- A call and those after it. -/
  | cons (call : Call ε) {calls : List (Call ε)} (h : Threaded call.exit calls) :
    Threaded call.entry (call :: calls)

namespace Stack

/-- Where the handlers of a stack stand that follow each other from an index on. -/
def sitesFrom (stack : Stack ε) (index : Nat) (handlers : List (Handler ε)) : List (Site ε) :=
  (List.range' index handlers.length).map (.stack stack)

/-- Where the handlers of a stack stand. -/
def sites (stack : Stack ε) : List (Site ε) := stack.sitesFrom 0 stack

/-- The calls of the handlers of a stack from an index on. -/
def callsFrom (stack : Stack ε) : Nat → List (Handler ε) → Exchange ε → List (Call ε)
  | _, [], _ => []
  | index, run :: rest, exchange =>
    let call := run.call (.stack stack index) none exchange
    call ::
      match call.outcome with
      | .next => callsFrom stack (index + 1) rest call.exit
      | _ => []

end Stack

namespace ErrorHandler

/-- Where error handlers stand that follow each other from an index on. -/
def sitesFrom (index : Nat) (handlers : List (ErrorHandler ε)) : List (Site ε) :=
  (List.range' index handlers.length).map .errorHandler

/-- Where error handlers stand. -/
def sites (handlers : List (ErrorHandler ε)) : List (Site ε) := sitesFrom 0 handlers

/-- The calls of the error handlers from an index on. -/
def callsFrom : Nat → HandlerError → List (ErrorHandler ε) → Exchange ε → List (Call ε)
  | _, _, [], _ => []
  | index, error, run :: rest, exchange =>
    let call := (run error).call (.errorHandler index) (some error) exchange
    call ::
      match call.outcome with
      | .next => callsFrom (index + 1) error rest call.exit
      | .done => []
      | .fail error => callsFrom (index + 1) error.normalize rest call.exit
      | .crash text => callsFrom (index + 1) (HandlerError.crashed text).normalize rest call.exit

end ErrorHandler

namespace Pipeline

/-- The calls of the error handlers for the error that the calls of a stack ended with, if any. -/
def errorCalls (errorHandlers : List (ErrorHandler ε)) (calls : List (Call ε)) : List (Call ε) :=
  match calls.getLast? with
  | some call =>
    match call.outcome.error? with
    | some error => ErrorHandler.callsFrom 0 error.normalize errorHandlers call.exit
    | none => []
  | none => []

/-- Error handlers that note their calls end like the error handlers themselves. -/
theorem replay_traced (handlers : List (ErrorHandler ε)) (index : Nat) (error : HandlerError)
    (exchange : Exchange ε) (calls : List (Call ε)) :
    replay error (ErrorHandler.tracedFrom index handlers) (exchange.traced calls) =
      ((replay error handlers exchange).1, (replay error handlers exchange).2.traced
        (calls ++ ErrorHandler.callsFrom index error handlers exchange)) := by
  -- The calls so far vary, since a call is noted before the handlers after it run.
  induction handlers generalizing index error exchange calls with
  | nil => rw [ErrorHandler.tracedFrom, replay, replay, ErrorHandler.callsFrom, List.append_nil]
  | cons run rest ih =>
    rw [ErrorHandler.tracedFrom, replay, replay, Handler.traced_apply, ErrorHandler.callsFrom,
      Handler.call]
    obtain ⟨outcome, exit⟩ := run error exchange
    cases outcome <;> simp only [ih, List.append_assoc, List.singleton_append]

/-- Error handlers that note their calls end like the error handlers themselves. -/
theorem fail_traced (handlers : List (ErrorHandler ε)) (error : HandlerError)
    (exchange : Exchange ε) (calls : List (Call ε)) :
    fail (ErrorHandler.tracedFrom 0 handlers) error (exchange.traced calls) =
      ((fail handlers error exchange).1, (fail handlers error exchange).2.traced
        (calls ++ ErrorHandler.callsFrom 0 error.normalize handlers exchange)) :=
  replay_traced handlers 0 error.normalize exchange calls

/-- A call that goes on leaves it to those after it whether the error handlers are called. -/
theorem errorCalls_cons (errorHandlers : List (ErrorHandler ε)) {call : Call ε}
    (h : call.outcome = .next) (calls : List (Call ε)) :
    errorCalls errorHandlers (call :: calls) = errorCalls errorHandlers calls := by
  cases calls with
  | nil => simp [errorCalls, h, Outcome.error?]
  | cons next rest => rw [errorCalls, errorCalls, List.getLast?_cons_cons]

/-- A stack that notes its calls ends like the stack itself. -/
theorem run_traced (errorHandlers : List (ErrorHandler ε)) (stack : Stack ε)
    (handlers : List (Handler ε)) (index : Nat) (exchange : Exchange ε) (calls : List (Call ε)) :
    run (ErrorHandler.tracedFrom 0 errorHandlers) (stack.tracedFrom index handlers)
        (exchange.traced calls) =
      ((run errorHandlers handlers exchange).1, (run errorHandlers handlers exchange).2.traced
        (calls ++ (stack.callsFrom index handlers exchange ++
          errorCalls errorHandlers (stack.callsFrom index handlers exchange)))) := by
  induction handlers generalizing index exchange calls with
  | nil => simp [Stack.tracedFrom, run, Stack.callsFrom, errorCalls]
  | cons handler rest ih =>
    rw [Stack.tracedFrom, run, run, Handler.traced_apply, Stack.callsFrom, Handler.call]
    obtain ⟨outcome, exit⟩ := handler exchange
    cases outcome with
    | next =>
      simp only [ih, List.append_assoc, List.cons_append, List.nil_append]
      rw [errorCalls_cons errorHandlers rfl]
    | done => simp [errorCalls, Outcome.error?]
    | fail error => simp [fail_traced, errorCalls, Outcome.error?]
    | crash text => simp [fail_traced, errorCalls, Outcome.error?]

/-- A run of a stack goes on to its end, is done with its last call, or fails in it. -/
theorem run_cases (errorHandlers : List (ErrorHandler ε)) (stack : Stack ε)
    (handlers : List (Handler ε)) (index : Nat) (exchange : Exchange ε) :
    ((∀ call ∈ stack.callsFrom index handlers exchange, call.outcome = .next) ∧
        (stack.callsFrom index handlers exchange).length = handlers.length ∧
        run errorHandlers handlers exchange =
          (.exhausted, exchange.after (stack.callsFrom index handlers exchange))) ∨
      ∃ last, (stack.callsFrom index handlers exchange).getLast? = some last ∧
        ((last.outcome = .done ∧
            run errorHandlers handlers exchange = (.finished, last.exit)) ∨
          ∃ error, last.outcome.error? = some error ∧
            run errorHandlers handlers exchange = fail errorHandlers error last.exit) := by
  induction handlers generalizing index exchange with
  | nil => exact Or.inl ⟨fun _ hcall => absurd hcall List.not_mem_nil, rfl, rfl⟩
  | cons handler rest ih =>
    rw [Stack.callsFrom, run, Handler.call]
    obtain ⟨outcome, exit⟩ := handler exchange
    cases outcome with
    | next =>
      rcases ih (index + 1) exit with ⟨hnext, hlength, hrun⟩ | ⟨last, hlast, hrun⟩
      · refine Or.inl ⟨List.forall_mem_cons.mpr ⟨rfl, hnext⟩, congrArg (· + 1) hlength, ?_⟩
        rw [Exchange.after_cons]
        exact hrun
      · refine Or.inr ⟨last, ?_, hrun⟩
        rw [List.getLast?_cons, hlast]
        rfl
    | done => exact Or.inr ⟨_, rfl, Or.inl ⟨rfl, rfl⟩⟩
    | fail error => exact Or.inr ⟨_, rfl, Or.inr ⟨error, rfl, rfl⟩⟩
    | crash text => exact Or.inr ⟨_, rfl, Or.inr ⟨.crashed text, rfl, rfl⟩⟩

end Pipeline

namespace Call.Threaded

/-- Calls that go on from where others ended are threaded with them. -/
theorem append {exchange : Exchange ε} {calls more : List (Call ε)} (h : Threaded exchange calls)
    (hmore : Threaded (exchange.after calls) more) : Threaded exchange (calls ++ more) := by
  induction h with
  | nil exchange => exact hmore
  | @cons call calls hcalls ih =>
    rw [Exchange.after_cons] at hmore
    exact .cons call (ih hmore)

end Call.Threaded

/-- Each handler of a stack is given what the one before it left. -/
theorem Stack.threaded_callsFrom (stack : Stack ε) (handlers : List (Handler ε)) (index : Nat)
    (exchange : Exchange ε) : Call.Threaded exchange (stack.callsFrom index handlers exchange) := by
  induction handlers generalizing index exchange with
  | nil => exact .nil exchange
  | cons run rest ih =>
    refine .cons (run.call (.stack stack index) none exchange) ?_
    split
    · exact ih _ _
    · exact .nil _

/-- Each error handler is given what the one before it left. -/
theorem ErrorHandler.threaded_callsFrom (handlers : List (ErrorHandler ε)) (index : Nat)
    (error : HandlerError) (exchange : Exchange ε) :
    Call.Threaded exchange (callsFrom index error handlers exchange) := by
  induction handlers generalizing index error exchange with
  | nil => exact .nil exchange
  | cons run rest ih =>
    refine .cons ((run error).call (.errorHandler index) (some error) exchange) ?_
    split
    · exact ih _ _ _
    · exact .nil _
    · exact ih _ _ _
    · exact ih _ _ _

/-- The handlers of a stack are called in their order and each at most once. -/
theorem Stack.sites_callsFrom (stack : Stack ε) (handlers : List (Handler ε)) (index : Nat)
    (exchange : Exchange ε) :
    (stack.callsFrom index handlers exchange).map Call.site <+: stack.sitesFrom index handlers := by
  induction handlers generalizing index exchange with
  | nil => exact List.prefix_rfl
  | cons run rest ih =>
    refine List.cons_prefix_cons.mpr ⟨rfl, ?_⟩
    split
    · exact ih _ _
    · exact List.nil_prefix

/-- Error handlers are called in their order and each at most once. -/
theorem ErrorHandler.sites_callsFrom (handlers : List (ErrorHandler ε)) (index : Nat)
    (error : HandlerError) (exchange : Exchange ε) :
    (callsFrom index error handlers exchange).map Call.site <+: sitesFrom index handlers := by
  induction handlers generalizing index error exchange with
  | nil => exact List.prefix_rfl
  | cons run rest ih =>
    refine List.cons_prefix_cons.mpr ⟨rfl, ?_⟩
    split
    · exact ih _ _ _
    · exact List.nil_prefix
    · exact ih _ _ _
    · exact ih _ _ _

/-- The first error handler is given the error and what the calls before it left. -/
theorem ErrorHandler.head_callsFrom {handlers : List (ErrorHandler ε)} {index : Nat}
    {error : HandlerError} {exchange : Exchange ε} {first : Call ε}
    (h : first ∈ (callsFrom index error handlers exchange).head?) :
    first.error = some error ∧ first.entry = exchange := by
  cases handlers with
  | nil => contradiction
  | cons run rest =>
    obtain rfl : (run error).call (.errorHandler index) (some error) exchange = first :=
      Option.some.inj h
    exact ⟨rfl, rfl⟩

/-- The first call is given what there was before. -/
theorem Call.Threaded.head_entry {exchange : Exchange ε} {calls : List (Call ε)}
    (h : Threaded exchange calls) {first : Call ε} (hfirst : first ∈ calls.head?) :
    first.entry = exchange := by
  cases h with
  | nil => contradiction
  | cons call _ => rw [Option.some.inj hfirst]

namespace Pipeline

/-- Error handlers never end as a stack does all of which goes on. -/
theorem fst_replay_ne_exhausted (handlers : List (ErrorHandler ε)) (error : HandlerError)
    (exchange : Exchange ε) : (replay error handlers exchange).1 ≠ .exhausted := by
  induction handlers generalizing error exchange with
  | nil => exact Completion.noConfusion
  | cons run rest ih =>
    rw [replay]
    obtain ⟨outcome, exit⟩ := run error exchange
    cases outcome with
    | next => exact ih error exit
    | done => exact Completion.noConfusion
    | fail error => exact ih error.normalize exit
    | crash text => exact ih (HandlerError.crashed text).normalize exit

variable (errorHandlers : List (ErrorHandler ε))

/-- Calls all of which go on leave no error. -/
theorem errorCalls_eq_nil {calls : List (Call ε)} (h : ∀ call ∈ calls, call.outcome = .next) :
    errorCalls errorHandlers calls = [] := by
  rw [errorCalls]
  cases hlast : calls.getLast? with
  | none => rfl
  | some call => simp [h call (List.mem_of_getLast? hlast), Outcome.error?]

/-- The error that the last call of a stack ended with is handed to the error handlers. -/
theorem errorCalls_of_error {calls : List (Call ε)} {last : Call ε} {error : HandlerError}
    (hlast : calls.getLast? = some last) (herror : last.outcome.error? = some error) :
    errorCalls errorHandlers calls =
      ErrorHandler.callsFrom 0 error.normalize errorHandlers last.exit := by
  rw [errorCalls, hlast]
  simp only [herror]

/-- After a handler that is done no error handler is called. -/
theorem errorCalls_of_done {calls : List (Call ε)} {last : Call ε}
    (hlast : calls.getLast? = some last) (hdone : last.outcome = .done) :
    errorCalls errorHandlers calls = [] := by
  rw [errorCalls, hlast]
  simp only [hdone, Outcome.error?]

end Pipeline

end Signpost
