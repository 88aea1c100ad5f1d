import Signpost.Proofs.Route.Entries
import Signpost.Proofs.Route.Written

/-!
# What was inserted stays

Later insertions may put another value where one is, or give another name to a variable, but they
leave the place.  Main statement: where something was inserted a tree has a value for ever, behind
the same literals and the same patterns, and a variable where there was one.
-/

namespace Signpost.Route

universe u

variable {α : Type u}

/-- Whether a branch of the given label is the one that a segment leads to. -/
def Segment.LeadsTo : Segment → Label → Prop
  | .literal text, label => label = .literal text
  | .variable _ _, label => ∃ name, label = .variable name
  | .constrained name pattern _, label => label = .constrained name pattern

/-- Whether a label fits a written segment: the text itself if it is a literal, a variable or a
pattern if it is a placeholder. -/
def Fits (written : String) : Label → Prop
  | .literal text => Placeholder.parse? written = none ∧ text = written
  | .constrained _ _ => (Placeholder.parse? written).isSome
  | .variable _ => (Placeholder.parse? written).isSome

/-- Where a written segment leads, the label fits it. -/
theorem fits_of_leadsTo_ofText {patternOf : String → Option Pattern} {written : String}
    {label : Label} (h : (Segment.ofText patternOf written).LeadsTo label) :
    Fits written label := by
  rw [Segment.ofText] at h
  cases hparse : Placeholder.parse? written with
  | none =>
    rw [hparse] at h
    obtain rfl : label = .literal written := h
    exact ⟨hparse, rfl⟩
  | some p =>
    rw [hparse] at h
    have hplaceholder : (Placeholder.parse? written).isSome :=
      Option.isSome_iff_exists.mpr ⟨p, hparse⟩
    have hvariable (isOptional : Bool)
        (h : (Segment.variable p.name isOptional).LeadsTo label) : Fits written label := by
      obtain ⟨name, rfl⟩ := h
      exact hplaceholder
    dsimp only at h
    cases hpattern : patternOf p.name with
    | none =>
      rw [hpattern] at h
      exact hvariable p.isOptional h
    | some pattern =>
      rw [hpattern, Segment.ofPlaceholder] at h
      split at h
      · exact hvariable p.isOptional h
      · obtain rfl : label = .constrained p.name pattern := h
        exact hplaceholder

namespace History

variable {history : History α} {rest : List Segment} {value : α}

private theorem mem_afterLiteral {text : String} (h : (.literal text :: rest, value) ∈ history) :
    (rest, value) ∈ history.afterLiteral text :=
  List.mem_filterMap.mpr ⟨_, h, if_pos rfl⟩

private theorem mem_constrained {name : String} {pattern : Pattern} {isOptional : Bool}
    (h : (.constrained name pattern isOptional :: rest, value) ∈ history) :
    (name, pattern, rest, value) ∈ history.constrained :=
  List.mem_filterMap.mpr ⟨_, h, rfl⟩

private theorem mem_plain {name : String} {isOptional : Bool}
    (h : (.variable name isOptional :: rest, value) ∈ history) :
    (name, rest, value) ∈ history.plain :=
  List.mem_filterMap.mpr ⟨_, h, rfl⟩

/-- What was inserted with no segments left leaves a value. -/
theorem exists_value?_of_mem (h : ([], value) ∈ history) :
    ∃ latest, history.value? = some latest := exists_latestWhere?_iff.mpr ⟨_, h, rfl⟩

end History

namespace Node

variable {history : History α}

private theorem mem_branches_of_afterLiteral {text : String} (h : history.afterLiteral text ≠ []) :
    (.literal text, ofHistory (history.afterLiteral text)) ∈ (ofHistory history).branches := by
  obtain ⟨texts, -, hmem, hbranches⟩ := laidOut_branches history
  rw [hbranches, branchesOf, literalBranches]
  exact List.mem_append_left _ (List.mem_map.mpr ⟨text, (hmem text).mpr h, rfl⟩)

private theorem mem_branches_of_constrained
    {name : String} {pattern : Pattern} {entry : List Segment × α}
    (h : (name, pattern, entry) ∈ history.constrained) :
    (.constrained name pattern, ofHistory [entry]) ∈ (ofHistory history).branches := by
  obtain ⟨texts, -, -, hbranches⟩ := laidOut_branches history
  rw [hbranches, branchesOf, constrainedBranches, List.map_map]
  exact List.mem_append_right _ (List.mem_append_left _ (List.mem_map.mpr ⟨_, h, rfl⟩))

/-- The variables share one branch, with the name that was given last. -/
theorem exists_mem_branches_of_plain (h : history.plain ≠ []) :
    ∃ name,
      (.variable name, ofHistory (history.plain.map (·.2))) ∈ (ofHistory history).branches := by
  obtain ⟨texts, -, -, hbranches⟩ := laidOut_branches history
  obtain ⟨⟨name, entry⟩, hlast⟩ := Option.isSome_iff_exists.mp (List.getLast?_isSome.mpr h)
  refine ⟨name, ?_⟩
  rw [hbranches, branchesOf, hlast, variableBranch]
  exact List.mem_append_right _ (List.mem_append_right _ List.mem_cons_self)

/-- Where something was inserted there is a value, whatever was inserted after it. -/
theorem exists_mem_entries_of_mem {segments : List Segment} {value : α}
    (h : (segments, value) ∈ history) :
    ∃ labels latest, (labels, latest) ∈ (ofHistory history).entries ∧
      List.Forall₂ Segment.LeadsTo segments labels := by
  -- Each segment leads to a branch under which there are the insertions that went the same way.
  induction segments generalizing history with
  | nil =>
    obtain ⟨latest, hlatest⟩ := History.exists_value?_of_mem h
    exact ⟨[], latest, nil_mem_entries.mpr ((value_ofHistory history).trans hlatest), .nil⟩
  | cons segment rest ih =>
    have hbelow {label : Label} {left : History α}
        (hbranch : (label, ofHistory left) ∈ (ofHistory history).branches)
        (hleads : segment.LeadsTo label) (hleft : (rest, value) ∈ left) :
        ∃ labels latest, (labels, latest) ∈ (ofHistory history).entries ∧
          List.Forall₂ Segment.LeadsTo (segment :: rest) labels := by
      obtain ⟨labels, latest, hentry, hrest⟩ := ih hleft
      exact ⟨label :: labels, latest, cons_mem_entries.mpr ⟨_, hbranch, hentry⟩,
        .cons hleads hrest⟩
    cases segment with
    | literal text =>
      have hafter := History.mem_afterLiteral h
      exact hbelow (mem_branches_of_afterLiteral (List.ne_nil_of_mem hafter)) rfl hafter
    | «variable» name isOptional =>
      have hplain := History.mem_plain h
      obtain ⟨last, hbranch⟩ := exists_mem_branches_of_plain (List.ne_nil_of_mem hplain)
      exact hbelow hbranch ⟨last, rfl⟩ (List.mem_map_of_mem hplain)
    | constrained name pattern isOptional =>
      have hconstrained := History.mem_constrained h
      exact hbelow (mem_branches_of_constrained hconstrained) rfl List.mem_cons_self

end Node

/-- Whether a tree has a value at a place whose labels fit the written segments. -/
def Tree.Reaches (tree : Tree α) (written : List String) : Prop :=
  ∃ labels value, (labels, value) ∈ tree.root.entries ∧ List.Forall₂ Fits written labels

/-- A tree has a value where one was inserted for written segments. -/
theorem Tree.reaches_ofHistory {history : History α} {patternOf : String → Option Pattern}
    {written : List String} {value : α}
    (h : (written.map (Segment.ofText patternOf), value) ∈ history) :
    (Tree.ofHistory history).Reaches written := by
  obtain ⟨labels, latest, hentry, hleads⟩ := Node.exists_mem_entries_of_mem h
  rw [List.forall₂_map_left_iff] at hleads
  rw [Reaches, root_ofHistory]
  exact ⟨labels, latest, hentry, hleads.imp fun _ _ => fits_of_leadsTo_ofText⟩

end Signpost.Route
