import Signpost.Dict
import Signpost.Route.Segment
import Signpost.Text.Percent

/-!
# Route trees

A tree of branches, one level for every segment, with values at some of its nodes.  The branches
of a node are kept in the order in which they are tried: literals by their text, then patterns as
they were declared, then the variable.  The first branch that accepts a segment is taken, and what
is found further down never leads back to another.
-/

namespace Signpost.Route

universe u

/-- What a branch accepts. -/
inductive Label
  /-- The very text. -/
  | literal (text : String)
  /-- Texts that a pattern accepts. -/
  | constrained (name : String) (pattern : Pattern)
  /-- Any text. -/
  | variable (name : String)

namespace Label

/-- The label of the branch that a segment leads to. -/
def ofSegment : Segment → Label
  | .literal text => .literal text
  | .variable name _ => .variable name
  | .constrained name pattern _ => .constrained name pattern

/-- How a branch is written. -/
def render : Label → String
  | .literal text => text
  | .constrained name pattern => Segment.render (.constrained name pattern false)
  | .variable name => Segment.render (.variable name false)

/-- Whether a branch accepts a segment; nothing but a literal accepts an empty one. -/
def accepts (label : Label) (segment : String) : Bool :=
  match label with
  | .literal text => text == segment
  | .constrained _ pattern => segment != "" && pattern.accepts segment
  | .variable _ => segment != ""

/-- The parameters with the text of a segment bound to the name of the branch. -/
def bind (label : Label) (segment : String) (params : Dict String String) : Dict String String :=
  match label with
  | .literal _ => params
  | .constrained name _ => params.insert name segment
  | .variable name => if name = "" then params else params.insert name segment

/-- Whether two labels share one branch: the same literal, or any two variables. -/
def shares : Label → Label → Bool
  | .literal a, .literal b => a == b
  | .variable _, .variable _ => true
  | _, _ => false

/-- Whether a branch is tried before a new one of the given label. -/
def precedes : Label → Label → Bool
  | .literal a, .literal b => a < b
  | .literal _, _ => true
  | .constrained _ _, .literal _ => false
  | .constrained _ _, _ => true
  | .variable _, _ => false

end Label

/-- Change what is under a label, `fresh` being what a new branch begins with.  A shared branch
takes the new label, so that a variable has the name it was given last. -/
def alter {β : Type u} (label : Label) (fresh : β) (f : β → β) : List (Label × β) → List (Label × β)
  | [] => [(label, f fresh)]
  | (l, child) :: rest =>
    if l.shares label then (label, f child) :: rest
    else if l.precedes label then (l, child) :: alter label fresh f rest
    else (label, f fresh) :: (l, child) :: rest

/-- A node: the value at its place and the branches that go on from it. -/
inductive Node (α : Type u)
  /-- A node with the given value and branches. -/
  | mk (value : Option α) (branches : List (Label × Node α))

namespace Node

variable {α : Type u}

/-- The node with nothing at it or under it. -/
def empty : Node α := ⟨none, []⟩

instance : Inhabited (Node α) := ⟨empty⟩

/-- The value at a node. -/
def value : Node α → Option α
  | ⟨value, _⟩ => value

/-- The branches of a node. -/
def branches : Node α → List (Label × Node α)
  | ⟨_, branches⟩ => branches

/-- Put a value at the place that the labels lead to. -/
def insert (value : α) : List Label → Node α → Node α
  | [], node => ⟨some value, node.branches⟩
  | label :: labels, node => ⟨node.value, alter label empty (insert value labels) node.branches⟩

/-- The branch taken for a segment. -/
def step? (node : Node α) (segment : String) : Option (Label × Node α) :=
  node.branches.find? (·.1.accepts segment)

/-- Follow the segments of a request, binding parameters on the way. -/
def walk : Node α → List String → Dict String String → Option (α × Dict String String)
  | node, [], params => node.value.map (·, params)
  | node, segment :: rest, params =>
    match node.step? segment with
    | some (label, child) => child.walk rest (label.bind segment params)
    | none => none
  termination_by structural _ segments => segments

mutual

/-- The values at a node and under it, with the labels that lead to them: first its own, then
those of its branches in their order. -/
def entries : Node α → List (List Label × α)
  | ⟨value, branches⟩ => (value.map ([], ·)).toList ++ entriesOfAll branches

/-- The values under several branches. -/
def entriesOfAll : List (Label × Node α) → List (List Label × α)
  | [] => []
  | branch :: rest => entriesOf branch ++ entriesOfAll rest

/-- The values under one branch. -/
def entriesOf : Label × Node α → List (List Label × α)
  | (label, child) => (entries child).map fun entry => (label :: entry.1, entry.2)

end

/-- The entries of branches are those of one after the other. -/
theorem entriesOfAll_eq (branches : List (Label × Node α)) :
    entriesOfAll branches = branches.flatMap entriesOf := by
  induction branches with
  | nil => rfl
  | cons branch rest ih => rw [entriesOfAll, ih, List.flatMap_cons]

end Node

/-- The routes of one method. -/
structure Tree (α : Type u) where
  /-- The node that no segment leads to. -/
  root : Node α := .empty
  /-- How often something was inserted. -/
  insertions : Nat := 0

namespace Tree

variable {α : Type u}

instance : Inhabited (Tree α) := ⟨{}⟩

/-- Put a value at the place that the segments lead to, instead of the one that was there. -/
def insert (tree : Tree α) (segments : List Segment) (value : α) : Tree α :=
  ⟨tree.root.insert value (segments.map Label.ofSegment), tree.insertions + 1⟩

/-- The value that a request path leads to, and the parameters bound on the way.  The path is cut
into segments before they are decoded. -/
def find? (tree : Tree α) (path : String) : Option (α × Dict String String) :=
  tree.root.walk ((Path.segments path).map Text.Percent.decode) .empty

/-- All values, with the written segments that lead to them. -/
def entries (tree : Tree α) : List (List String × α) :=
  tree.root.entries.map fun entry => (entry.1.map Label.render, entry.2)

/-- Whether nothing was ever inserted. -/
def isEmpty (tree : Tree α) : Bool := tree.insertions == 0

end Tree

end Signpost.Route
