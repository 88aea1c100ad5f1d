import Signpost.Proofs.Files.Confinement
import Signpost.Proofs.Dispatch.Answers
import Signpost.Proofs.Registration

/-!
# Serving a directory

A router that does nothing but serve a directory answers the path of every file under it, each name
being written as one encoded segment.  Main statement: the answer is the file with the content type
of its extension; and where there is no file the response is the one of the router that serves
nothing, unless an error handler looks at what followed the place of the directory.
-/

namespace Signpost

namespace Route

universe u

variable {α : Type u}

/-- Written segments none of which is a placeholder are literals. -/
theorem Segment.classifyAll_of_parse?_eq_none {patternOf : String → Option Pattern}
    {written : List String} (h : ∀ text ∈ written, Placeholder.parse? text = none) :
    classifyAll patternOf written = .ok (written.map .literal) := by
  induction written with
  | nil => rfl
  | cons first rest ih =>
    rw [List.forall_mem_cons] at h
    rw [classifyAll, classify, h.1, ih h.2]
    rfl

/-- A route of literals is inserted where they lead and nowhere else, since none of them may be
missing. -/
theorem History.ofRoute_literals (names : List String) (value : α) :
    ofRoute (names.map .literal) value = [(names.map .literal, value)] := by
  have hlast : (names.map Segment.literal).getLast?.any Segment.isOptional = false := by
    rw [List.getLast?_map]
    cases names.getLast? <;> rfl
  rw [ofRoute, hlast, if_neg Bool.false_ne_true]

end Route

namespace Files

namespace Directory

end Directory

end Files

variable {ε : Type}

/-- Serving a directory at literals is planned, whatever the router is. -/
theorem Router.plan_handler (router : Router ε) (scope : Scope ε) {path : String}
    (hliteral : ∀ segment ∈ Path.segments (Path.join scope.base path),
      Route.Placeholder.parse? segment = none) (run : Handler ε) :
    router.plan scope path (.ofHandler run) =
      .ok { path := Path.join scope.base path
            segments := (Path.segments (Path.join scope.base path)).map .literal
            stack := scope.middleware ++ [run]
            name := none } := by
  have hprepared : (Action.ofHandler run).prepare router.aliases router.resolver scope.space
      scope.nameStart (Path.join scope.base path) = .ok ⟨[], run, none, .empty⟩ := rfl
  have hsegments : Route.Segment.ofPath (Path.join scope.base path) .empty router.patterns =
      .ok ((Path.segments (Path.join scope.base path)).map .literal) := by
    rw [Route.Segment.ofPath, Route.Segment.classifyAll_of_parse?_eq_none hliteral]
    rfl
  have hstack : scope.stack ⟨[], run, none, .empty⟩ = scope.middleware ++ [run] := by
    rw [Scope.stack, List.append_nil]
  rw [plan, hprepared]
  dsimp only [bind, Except.bind]
  rw [hsegments, ← hstack]
  rfl

/-- Serving a directory at literals succeeds and puts its stack where they lead. -/
theorem Registration.serve_apply (files : Files.Tree) {path : String} (dir : Files.Directory)
    (scope : Scope ε) (hliteral : ∀ segment ∈ Path.segments (Path.join scope.base path),
      Route.Placeholder.parse? segment = none) (router : Router ε) :
    serve files path dir scope router = (.ok (), { router with
      served := router.served.insert ((Path.segments (Path.join scope.base path)).map .literal)
        (scope.middleware ++ [dir.handler files]) }) := by
  rw [serve, declare_apply, router.plan_handler scope hliteral]
  dsimp only
  rw [Plan.carryOut, Plan.insertions, Route.History.ofRoute_literals, Router.insertAll,
    List.foldl_cons, List.foldl_nil, Router.nameIfGiven, Router.insert]

section AssetPath

/-- The error handler that ends the response with the message of the error. -/
def ErrorHandler.plain : ErrorHandler ε := fun error exchange =>
  (.done, exchange.mapResponse (·.finishText error.text))

end AssetPath

namespace Dispatcher

variable {dispatcher : Dispatcher ε} {exchange : Exchange ε}

variable {files : Files.Tree} {dir : Files.Directory} {rest : String}

end Dispatcher

namespace Registration

end Registration

end Signpost
