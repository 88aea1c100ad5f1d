import Mathlib.Data.List.Induction
import Signpost.Latest
import Signpost.Proofs.Route.Branches

/-!
# Histories of insertions

A history lists what was inserted into a tree, in its order.  A request can be resolved on the
history alone: each of its segments leaves the insertions that can still answer, of one kind only,
and what is ruled out never comes back.  Main statement: a tree answers every path as its history
does, with the same value and the same parameters.
-/

namespace Signpost.Route

universe u

variable {α : Type u}

/-- What was inserted, each value with its segments, in the order of the insertions. -/
abbrev History (α : Type u) := List (List Segment × α)

namespace History

/-- The insertions that go on with a literal, without it. -/
def afterLiteral (text : String) (history : History α) : History α :=
  history.filterMap fun (segments, value) =>
    match segments with
    | .literal t :: rest => if t = text then some (rest, value) else none
    | _ => none

/-- The insertions that go on with a pattern, each behind its name and its pattern. -/
def constrained (history : History α) : List (String × Pattern × List Segment × α) :=
  history.filterMap fun (segments, value) =>
    match segments with
    | .constrained name pattern _ :: rest => some (name, pattern, rest, value)
    | _ => none

/-- The insertions that go on with a variable, each behind its name. -/
def plain (history : History α) : List (String × List Segment × α) :=
  history.filterMap fun (segments, value) =>
    match segments with
    | .variable name _ :: rest => some (name, rest, value)
    | _ => none

/-- The latest value inserted with no segments left. -/
def value? (history : History α) : Option α := latestWhere? List.isEmpty history

/-- What a segment of a request binds, and the insertions it leaves.  Literals of its text go before
everything else, then the earliest pattern that accepts it, then the variables, which bind the name
given last.  Only a literal can be empty. -/
def narrow? (segment : String) (history : History α) :
    Option (List (String × String) × History α) :=
  if history.afterLiteral segment ≠ [] then some ([], history.afterLiteral segment)
  else if segment = "" then none
  else
    match history.constrained.find? fun entry => entry.2.1.accepts segment with
    | some (name, _, entry) => some ([(name, segment)], [entry])
    | none =>
      history.plain.getLast?.map fun (name, _) =>
        (if name = "" then [] else [(name, segment)], history.plain.map (·.2))

/-- The value that the segments of a request lead to, and what they bind, in their order. -/
def resolve? : List String → History α → Option (α × List (String × String))
  | [], history => history.value?.map (·, [])
  | segment :: rest, history =>
    match history.narrow? segment with
    | some (bound, left) =>
      (left.resolve? rest).map fun (value, bindings) => (value, bound ++ bindings)
    | none => none

section Append

variable (segments : List Segment) (history : History α) (value : α)

private theorem afterLiteral_append_literal (text t : String) :
    afterLiteral t (history ++ [(.literal text :: segments, value)]) =
      history.afterLiteral t ++ if text = t then [(segments, value)] else [] := by
  rw [afterLiteral, List.filterMap_append]
  by_cases ht : text = t <;> simp [afterLiteral, ht]

/-- An insertion that does not go on with a literal is under none. -/
theorem afterLiteral_append_of_ne (h : ∀ text rest, segments ≠ .literal text :: rest)
    (t : String) : afterLiteral t (history ++ [(segments, value)]) = history.afterLiteral t := by
  rw [afterLiteral, List.filterMap_append]
  obtain _ | ⟨text | _ | _, rest⟩ := segments
  case cons.literal => exact absurd rfl (h text rest)
  all_goals exact List.append_nil _

/-- An insertion that does not go on with a pattern adds none. -/
theorem constrained_append_of_ne (h : ∀ name pattern isOptional rest,
    segments ≠ .constrained name pattern isOptional :: rest) :
    constrained (history ++ [(segments, value)]) = history.constrained := by
  rw [constrained, List.filterMap_append]
  obtain _ | ⟨_ | _ | ⟨name, pattern, isOptional⟩, rest⟩ := segments
  case cons.constrained => exact absurd rfl (h name pattern isOptional rest)
  all_goals exact List.append_nil _

/-- An insertion that does not go on with a variable adds none. -/
theorem plain_append_of_ne (h : ∀ name isOptional rest,
    segments ≠ .variable name isOptional :: rest) :
    plain (history ++ [(segments, value)]) = history.plain := by
  rw [plain, List.filterMap_append]
  obtain _ | ⟨_ | ⟨name, isOptional⟩ | _, rest⟩ := segments
  case cons.variable => exact absurd rfl (h name isOptional rest)
  all_goals exact List.append_nil _

end Append

end History

/-- The node that a history of insertions makes. -/
def Node.ofHistory (history : History α) : Node α :=
  history.foldl (fun node entry => node.insert entry.2 (entry.1.map Label.ofSegment)) .empty

/-- The tree that a history of insertions makes. -/
def Tree.ofHistory (history : History α) : Tree α :=
  history.foldl (fun tree entry => tree.insert entry.1 entry.2) {}

/-- The tree after more insertions. -/
def Tree.insertAll (tree : Tree α) (history : History α) : Tree α :=
  history.foldl (fun tree entry => tree.insert entry.1 entry.2) tree

/-- What is inserted for a route: its value where the segments lead and, if the last may be
missing, also at the place before it. -/
def History.ofRoute (segments : List Segment) (value : α) : History α :=
  (segments, value) ::
    if segments.getLast?.any Segment.isOptional then [(segments.dropLast, value)] else []

/-- A history is inserted into the tree without routes. -/
theorem Tree.insertAll_empty (history : History α) :
    ({} : Tree α).insertAll history = .ofHistory history := rfl

/-- Insertions are made one after the other. -/
theorem Tree.insertAll_append (tree : Tree α) (front back : History α) :
    tree.insertAll (front ++ back) = (tree.insertAll front).insertAll back := List.foldl_append

namespace Node

/-- One more insertion is made in what the others made. -/
theorem ofHistory_append_singleton (history : History α) (segments : List Segment) (value : α) :
    ofHistory (history ++ [(segments, value)]) =
      (ofHistory history).insert value (segments.map Label.ofSegment) := by
  rw [ofHistory, List.foldl_append]
  rfl

/-- The value at a node is the latest one inserted there. -/
theorem value_ofHistory (history : History α) : (ofHistory history).value = history.value? := by
  induction history using List.reverseRecOn with
  | nil => rfl
  | append_singleton history entry ih =>
    obtain ⟨segments, value⟩ := entry
    rw [ofHistory_append_singleton, History.value?, latestWhere?_append_singleton]
    cases segments with
    | nil => simp [insert, Node.value]
    | cons segment rest => exact ih

/-- The branches that a history has under a node, given the texts of its literals: a branch for
each of them, one for every pattern, and one for all variables.  Under each is what its own
insertions make. -/
def branchesOf (texts : List String) (history : History α) : List (Label × Node α) :=
  literalBranches texts (fun text => ofHistory (history.afterLiteral text)) ++
    (constrainedBranches (history.constrained.map fun (name, pattern, entry) =>
      (name, pattern, ofHistory [entry])) ++
    variableBranch (history.plain.getLast?.map fun (name, _) =>
      (name, ofHistory (history.plain.map (·.2)))))

/-- Branches in the order in which a history lays them out, the texts of the literals ascending. -/
def LaidOut (history : History α) (branches : List (Label × Node α)) : Prop :=
  ∃ texts : List String, texts.Pairwise (· < ·) ∧
    (∀ text, text ∈ texts ↔ history.afterLiteral text ≠ []) ∧ branches = branchesOf texts history

section Insertion

variable {history : History α} {branches : List (Label × Node α)}

/-- An insertion that ends at the node changes none of its branches. -/
theorem LaidOut.append_end (h : LaidOut history branches) (value : α) :
    LaidOut (history ++ [([], value)]) branches := by
  obtain ⟨texts, hsorted, hmem, rfl⟩ := h
  have hliteral := History.afterLiteral_append_of_ne [] history value nofun
  refine ⟨texts, hsorted, by simpa only [hliteral] using hmem, ?_⟩
  rw [branchesOf, branchesOf, History.constrained_append_of_ne [] _ _ nofun,
    History.plain_append_of_ne [] _ _ nofun]
  simp only [hliteral]

variable (rest : List Segment) (value : α)

/-- A literal goes on under the branch of its text. -/
theorem LaidOut.append_literal (h : LaidOut history branches) (text : String) :
    LaidOut (history ++ [(.literal text :: rest, value)])
      (alter (.literal text) empty (insert value (rest.map Label.ofSegment)) branches) := by
  obtain ⟨texts, hsorted, hmem, rfl⟩ := h
  have hfresh : text ∉ texts → ofHistory (history.afterLiteral text) = empty := by
    intro hnew
    rw [hmem, not_not] at hnew
    rw [hnew]
    rfl
  obtain ⟨texts', hsorted', hmem', halter⟩ := alter_literal hsorted
    (fun t => ofHistory (history.afterLiteral t)) hfresh
    (insert value (rest.map Label.ofSegment)) (shares_precedes_literal _ _ text)
  refine ⟨texts', hsorted', ?_, ?_⟩
  · intro t
    rw [hmem', hmem, History.afterLiteral_append_literal]
    by_cases ht : text = t
    · simp [ht]
    · simp [ht, Ne.symm ht]
  · rw [branchesOf, halter, branchesOf,
      History.constrained_append_of_ne (.literal text :: rest) _ _ nofun,
      History.plain_append_of_ne (.literal text :: rest) _ _ nofun]
    congr 2
    funext t
    rw [History.afterLiteral_append_literal]
    by_cases ht : text = t
    · subst ht
      rw [Function.update_self, if_pos rfl, ofHistory_append_singleton]
    · rw [Function.update_of_ne (Ne.symm ht), if_neg ht, List.append_nil]

/-- A pattern goes on under a branch of its own. -/
theorem LaidOut.append_constrained (h : LaidOut history branches) (name : String)
    (pattern : Pattern) (isOptional : Bool) :
    LaidOut (history ++ [(.constrained name pattern isOptional :: rest, value)])
      (alter (.constrained name pattern) empty (insert value (rest.map Label.ofSegment))
        branches) := by
  obtain ⟨texts, hsorted, hmem, rfl⟩ := h
  have hliteral := History.afterLiteral_append_of_ne
    (.constrained name pattern isOptional :: rest) history value nofun
  have hconstrained : History.constrained
      (history ++ [(.constrained name pattern isOptional :: rest, value)]) =
        history.constrained ++ [(name, pattern, rest, value)] := List.filterMap_append
  refine ⟨texts, hsorted, by simpa only [hliteral] using hmem, ?_⟩
  rw [branchesOf, alter_constrained, branchesOf, hconstrained, List.map_append,
    History.plain_append_of_ne (.constrained name pattern isOptional :: rest) _ _ nofun]
  simp only [hliteral]
  rfl

/-- A variable goes on under the one branch of all variables and gives it its name. -/
theorem LaidOut.append_variable (h : LaidOut history branches) (name : String)
    (isOptional : Bool) :
    LaidOut (history ++ [(.variable name isOptional :: rest, value)])
      (alter (.variable name) empty (insert value (rest.map Label.ofSegment)) branches) := by
  obtain ⟨texts, hsorted, hmem, rfl⟩ := h
  have hliteral := History.afterLiteral_append_of_ne
    (.variable name isOptional :: rest) history value nofun
  have hplain : History.plain (history ++ [(.variable name isOptional :: rest, value)]) =
      history.plain ++ [(name, rest, value)] := List.filterMap_append
  have hshared : ((history.plain.getLast?.map fun (last, _) =>
      (last, ofHistory (history.plain.map (·.2)))).map Prod.snd).getD empty =
        ofHistory (history.plain.map (·.2)) := by
    cases hlast : history.plain.getLast? with
    | none =>
      rw [List.getLast?_eq_none_iff] at hlast
      rw [hlast]
      rfl
    | some last => rfl
  refine ⟨texts, hsorted, by simpa only [hliteral] using hmem, ?_⟩
  rw [branchesOf, alter_variable, hshared, branchesOf,
    History.constrained_append_of_ne (.variable name isOptional :: rest) _ _ nofun,
    hplain, List.map_append, List.getLast?_concat, List.map_singleton]
  simp only [hliteral, Option.map_some, ofHistory_append_singleton]

end Insertion

/-- The branches of a node are laid out as its history says. -/
theorem laidOut_branches (history : History α) : LaidOut history (ofHistory history).branches := by
  -- From the end of the history: its last insertion met the branches that the others had made.
  induction history using List.reverseRecOn with
  | nil => exact ⟨[], List.Pairwise.nil, by simp [History.afterLiteral], rfl⟩
  | append_singleton history entry ih =>
    obtain ⟨segments, value⟩ := entry
    rw [ofHistory_append_singleton]
    obtain _ | ⟨text | ⟨name, isOptional⟩ | ⟨name, pattern, isOptional⟩, rest⟩ := segments
    · exact LaidOut.append_end ih value
    · exact LaidOut.append_literal rest value ih text
    · exact LaidOut.append_variable rest value ih name isOptional
    · exact LaidOut.append_constrained rest value ih name pattern isOptional

/-- A node steps to what its history narrows to, and binds what it says. -/
theorem step?_ofHistory (segment : String) (history : History α) :
    (history.narrow? segment = none ∧ (ofHistory history).step? segment = none) ∨
      ∃ label bound left, history.narrow? segment = some (bound, left) ∧
        (ofHistory history).step? segment = some (label, ofHistory left) ∧
        ∀ params, label.bind segment params =
          bound.foldl (fun params pair => params.insert pair.1 pair.2) params := by
  obtain ⟨texts, -, hmem, hbranches⟩ := laidOut_branches history
  rw [step?, hbranches, branchesOf, List.find?_append, List.find?_append, find?_literalBranches,
    find?_constrainedBranches, find?_variableBranch, History.narrow?]
  by_cases hliteral : segment ∈ texts
  · rw [if_pos hliteral, if_pos ((hmem segment).mp hliteral)]
    exact Or.inr ⟨_, [], _, rfl, rfl, fun _ => rfl⟩
  rw [if_neg hliteral, if_neg fun h => hliteral ((hmem segment).mpr h)]
  by_cases hempty : segment = ""
  · simp only [if_pos hempty]
    exact Or.inl ⟨trivial, rfl⟩
  have haccepts : (fun entry : String × Pattern × Node α => entry.2.1.accepts segment) ∘
      (fun (name, pattern, entry) => (name, pattern, ofHistory [entry])) =
        fun entry : String × Pattern × List Segment × α => entry.2.1.accepts segment := rfl
  rw [if_neg hempty, if_neg hempty, if_neg hempty, List.find?_map, haccepts]
  cases history.constrained.find? fun entry => entry.2.1.accepts segment with
  | some found =>
    obtain ⟨name, pattern, entry⟩ := found
    exact Or.inr ⟨_, _, _, rfl, rfl, fun _ => rfl⟩
  | none =>
    cases history.plain.getLast? with
    | none => exact Or.inl ⟨rfl, rfl⟩
    | some last =>
      obtain ⟨name, entry⟩ := last
      refine Or.inr ⟨_, _, _, rfl, rfl, fun params => ?_⟩
      by_cases hname : name = "" <;> simp [Label.bind, hname]

/-- Walking down from a node gives what its history gives. -/
theorem walk_ofHistory (segments : List String) (history : History α)
    (params : Dict String String) :
    (ofHistory history).walk segments params =
      (history.resolve? segments).map fun (value, bindings) =>
        (value, bindings.foldl (fun params pair => params.insert pair.1 pair.2) params) := by
  induction segments generalizing history params with
  | nil =>
    rw [walk, value_ofHistory, History.resolve?, Option.map_map]
    rfl
  | cons segment rest ih =>
    rw [walk, History.resolve?]
    rcases step?_ofHistory segment history with
      ⟨hnarrow, hstep⟩ | ⟨label, bound, left, hnarrow, hstep, hbind⟩
    · rw [hnarrow, hstep]
      rfl
    · rw [hnarrow, hstep]
      simp only [ih, hbind, Option.map_map, Function.comp_def, List.foldl_append]

end Node

/-- The root of a tree is made as nodes are. -/
theorem Tree.root_ofHistory (history : History α) :
    (Tree.ofHistory history).root = Node.ofHistory history := by
  rw [ofHistory, Node.ofHistory]
  exact (List.foldl_hom Tree.root fun _ _ => rfl).symm

/-- A tree answers every path as its history of insertions does. -/
theorem Tree.find?_ofHistory (history : History α) (path : String) :
    (Tree.ofHistory history).find? path =
      (history.resolve? ((Path.segments path).map Text.Percent.decode)).map
        fun (value, bindings) => (value, Dict.ofList bindings) := by
  rw [find?, root_ofHistory, Node.walk_ofHistory]
  rfl

end Signpost.Route
